/-
  File:      Openport/Lib/Unwinding.lean
  Subject:   Noninterference of a machine that takes one action after the other.

  A `View` is one observer of a machine: what it sees of a state, which actions
  concern it, and what such an action does to what it sees. Where the other
  actions change nothing it sees, what it sees after a run is a function of what
  it saw before and of the actions that concern it. The actions that concern an
  observer are fixed once for the run: `inv` carries what makes them so.
-/
namespace Lib.Unwinding

variable {σ α β : Type}

/-- An observer of a machine, for as long as `inv` holds of the state. -/
structure View (step : σ → α → σ) (β : Type) where
  inv : σ → Prop
  see : σ → β
  concerns : α → Bool
  next : β → α → β
  keeps : ∀ s a, inv s → inv (step s a)
  unseen : ∀ s a, inv s → concerns a = false → see (step s a) = see s
  seen : ∀ s a, inv s → concerns a = true → see (step s a) = next (see s) a

variable {step : σ → α → σ}

/-- **What the observer sees after a run.** The actions that do not concern it may as well not
    have been taken. -/
theorem View.run (v : View step β) (as : List α) {s : σ} (h : v.inv s) :
    v.see (as.foldl step s) = (as.filter v.concerns).foldl v.next (v.see s) := by
  induction as generalizing s with
  | nil => rfl
  | cons a as ih =>
      rw [List.foldl_cons, ih (v.keeps s a h)]
      cases hc : v.concerns a with
      | true =>
          rw [List.filter_cons_of_pos hc, List.foldl_cons, v.seen s a h hc]
      | false =>
          rw [List.filter_cons_of_neg (by simp [hc]), v.unseen s a h hc]

/-- **Noninterference.** Two runs from states that look the same look the same at the end, when
    the actions that concern the observer are the same and in the same order. -/
theorem View.noninterference (v : View step β) {s s' : σ} {as as' : List α} (h : v.inv s)
    (h' : v.inv s') (hsee : v.see s = v.see s')
    (has : as.filter v.concerns = as'.filter v.concerns) :
    v.see (as.foldl step s) = v.see (as'.foldl step s') := by
  rw [v.run as h, v.run as' h', hsee, has]

end Lib.Unwinding
