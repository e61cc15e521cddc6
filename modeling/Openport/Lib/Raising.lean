/-
  File:      Openport/Lib/Raising.lean
  Subject:   Programs over a state that may raise: triples with two exits.

  A library file: nothing here knows a particular program. `Triple P x Q R`: from
  a state with `P`, `x` returns with `Q` or raises with `R`; the state is kept
  where it raises, and a handler or a `finally` goes on from there. `Keeps I E x`
  is the triple of an invariant: it holds behind `x` however `x` ends, and what
  is raised is of the kind `E`.
-/
namespace Lib.Raising

/-- A program: from a state, a value or what it raises, and the state behind it. -/
abbrev Prog (ε σ : Type) := ExceptT ε (StateM σ)

variable {ε σ α β : Type}

/-! ## 1. Triples -/

/-- What is asked of an exit. -/
def Exit (Q : α → σ → Prop) (R : ε → σ → Prop) : Except ε α × σ → Prop
  | (.ok a, s) => Q a s
  | (.error e, s) => R e s

/-- From a state with `P` the program returns with `Q` or raises with `R`. -/
def Triple (P : σ → Prop) (x : Prog ε σ α) (Q : α → σ → Prop) (R : ε → σ → Prop) : Prop :=
  ∀ s, P s → Exit Q R (x s)

section Triple

variable {P P' : σ → Prop} {x : Prog ε σ α} {Q Q' : α → σ → Prop} {R R' : ε → σ → Prop}

theorem Triple.conseq (h : Triple P x Q R) (hp : ∀ s, P' s → P s) (hq : ∀ a s, Q a s → Q' a s)
    (hr : ∀ e s, R e s → R' e s) : Triple P' x Q' R' := by
  intro s hs
  have hx := h s (hp s hs)
  revert hx
  rcases x s with ⟨e | a, s'⟩
  · exact hr e s'
  · exact hq a s'

/-- Less is asked of the exits. -/
theorem Triple.exits (h : Triple P x Q R) (hq : ∀ a s, Q a s → Q' a s)
    (hr : ∀ e s, R e s → R' e s) : Triple P x Q' R' := h.conseq (fun _ hs => hs) hq hr

theorem Triple.returning (h : Triple P x Q R) (hq : ∀ a s, Q a s → Q' a s) : Triple P x Q' R :=
  h.exits hq fun _ _ hs => hs

theorem Triple.raising (h : Triple P x Q R) (hr : ∀ e s, R e s → R' e s) : Triple P x Q R' :=
  h.exits (fun _ _ hs => hs) hr

/-- More is known before. -/
theorem Triple.behind (h : Triple P x Q R) (hp : ∀ s, P' s → P s) : Triple P' x Q R :=
  h.conseq hp (fun _ _ hs => hs) fun _ _ hs => hs

/-- A fact beside the state is there for the proof. -/
theorem Triple.fact {p : Prop} (h : p → Triple P x Q R) : Triple (fun s => P s ∧ p) x Q R :=
  fun s hs => h hs.2 s hs.1

theorem Triple.pure {a : α} (h : ∀ s, P s → Q a s) : Triple P (Pure.pure a : Prog ε σ α) Q R := h

theorem Triple.throw {e : ε} (h : ∀ s, P s → R e s) :
    Triple P (throw e : Prog ε σ α) Q R := h

/-- What only raises is followed by nothing. -/
theorem Triple.raises {e : ε} (h : ∀ s, P s → R e s) :
    Triple P (MonadExcept.throw e : Prog ε σ α) (fun _ _ => False) R := h

/-- A change of the state. -/
theorem Triple.modify {f : σ → σ} {Q : Unit → σ → Prop} (h : ∀ s, P s → Q ⟨⟩ (f s)) :
    Triple P (modify f : Prog ε σ Unit) Q R := h

/-- A look at the state. -/
theorem Triple.get {Q : σ → σ → Prop} (h : ∀ s, P s → Q s s) :
    Triple P (get : Prog ε σ σ) Q R := h

theorem Triple.bind {M : α → σ → Prop} {f : α → Prog ε σ β} {Q : β → σ → Prop}
    (hx : Triple P x M R) (hf : ∀ a, Triple (M a) (f a) Q R) : Triple P (x >>= f) Q R := by
  intro s hs
  have h := hx s hs
  have e : (x >>= f) s = match x s with
      | (.ok a, s') => f a s'
      | (.error e, s') => (.error e, s') := by
    show (match x s with | (a, s') => ExceptT.bindCont f a s') = _
    rcases x s with ⟨e | a, s'⟩ <;> rfl
  rw [e]
  revert h
  rcases x s with ⟨e | a, s'⟩
  · exact fun h => h
  · exact hf a s'

/-- The handler goes on from the state the program raised in. -/
theorem Triple.caught {handler : ε → Prog ε σ α} (hx : Triple P x Q R')
    (hh : ∀ e, Triple (R' e) (handler e) Q R) : Triple P (tryCatch x handler) Q R := by
  intro s hs
  have h := hx s hs
  have e : (tryCatch x handler) s = match x s with
      | (r, s') => (match r with
        | .ok a => (Pure.pure (.ok a) : StateM σ (Except ε α))
        | .error e => handler e) s' := rfl
  rw [e]
  revert h
  rcases x s with ⟨e | a, s'⟩
  · exact hh e s'
  · exact fun h => h

/-- `finally`: `last` runs behind `x` either way, and where it raises that is what leaves. -/
def lastly (x : Prog ε σ α) (last : Prog ε σ Unit) : Prog ε σ α := do
  let a ← tryCatch x fun e => do
    last
    throw e
  last
  return a

theorem Triple.lastly {last : Prog ε σ Unit} {M : α → σ → Prop} (hx : Triple P x M R')
    (hq : ∀ a, Triple (M a) last (fun _ => Q a) R) (hr : ∀ e, Triple (R' e) last (fun _ => R e) R) :
    Triple P (lastly x last) Q R := by
  refine Triple.bind (Triple.caught hx fun e => ?_) fun a => ?_
  · exact Triple.bind (hr e) fun _ => Triple.throw fun _ h => h
  · exact Triple.bind (hq a) fun _ => Triple.pure fun _ h => h

theorem Triple.append {M : σ → Prop} {Q : Unit → σ → Prop} {f : β → Prog ε σ Unit}
    {l l' : List β} (h : Triple P (l.forM f) (fun _ => M) R) (h' : Triple M (l'.forM f) Q R) :
    Triple P ((l ++ l').forM f) Q R := by
  have e : (l ++ l').forM f = l.forM f >>= fun _ => l'.forM f := List.forM_append
  rw [e]
  exact Triple.bind h fun _ => h'

end Triple

/-! ## 2. Invariants -/

/-- The program keeps `I`, however it ends, and raises only what `E` admits. -/
def Keeps (I : σ → Prop) (E : ε → Prop) (x : Prog ε σ α) : Prop :=
  Triple I x (fun _ => I) fun e s => I s ∧ E e

section Keeps

variable {I : σ → Prop} {E : ε → Prop} {x : Prog ε σ α}

theorem Keeps.pure (a : α) : Keeps I E (Pure.pure a : Prog ε σ α) := Triple.pure fun _ h => h

theorem Keeps.throw {e : ε} (h : E e) : Keeps I E (throw e : Prog ε σ α) :=
  Triple.throw fun _ hi => ⟨hi, h⟩

theorem Keeps.get : Keeps I E (get : Prog ε σ σ) := Triple.get fun _ h => h

theorem Keeps.bind {f : α → Prog ε σ β} (hx : Keeps I E x) (hf : ∀ a, Keeps I E (f a)) :
    Keeps I E (x >>= f) := Triple.bind hx hf

theorem Keeps.caught (F : ε → Prop) {handler : ε → Prog ε σ α} (hx : Keeps I F x)
    (hh : ∀ e, F e → Keeps I E (handler e)) : Keeps I E (tryCatch x handler) :=
  Triple.caught hx fun e s h => hh e h.2 s h.1

theorem Keeps.lastly {last : Prog ε σ Unit} (hx : Keeps I E x) (hl : Keeps I E last) :
    Keeps I E (lastly x last) := by
  refine Triple.lastly hx (fun _ => hl) ?_
  intro e s hs
  have h := hl s hs.1
  revert h
  rcases last s with ⟨e' | b, s'⟩
  · exact fun h => h
  · exact fun h => ⟨h, hs.2⟩

theorem Keeps.forM {f : β → Prog ε σ Unit} : ∀ {l : List β}, (∀ b ∈ l, Keeps I E (f b)) →
    Keeps I E (l.forM f)
  | [], _ => Keeps.pure _
  | b :: _, h => Keeps.bind (h b List.mem_cons_self) fun _ =>
      Keeps.forM fun c hc => h c (List.mem_cons_of_mem _ hc)

end Keeps

end Lib.Raising
