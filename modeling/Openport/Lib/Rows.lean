/-
  File:      Openport/Lib/Rows.lean
  Subject:   Rows of labelled steps: one after the other, what they keep, and what a
             later step finds of an earlier one.

  A library file: nothing here knows a particular program. `Row step s ls s'` are steps
  with the labels `ls` from `s` to `s'`. `Row.since` is the rule for a register, a
  counter or a tombstone: what one step brings about, and every step between keeps, a
  later step finds.
-/
import Mathlib.Data.List.Basic

namespace Lib.Rows

variable {S L : Type} {step : S → L → S → Prop} {s s' s'' : S}

/-! ## 1. Rows -/

/-- Steps with these labels, one after the other. -/
inductive Row (step : S → L → S → Prop) : S → List L → S → Prop where
  | done (s : S) : Row step s [] s
  | next {s s' s'' : S} {l : L} {ls : List L} : step s l s' → Row step s' ls s'' →
      Row step s (l :: ls) s''

theorem Row.append {ls ms : List L} (h : Row step s ls s') (h' : Row step s' ms s'') :
    Row step s (ls ++ ms) s'' := by
  induction h with
  | done => exact h'
  | next hs _ ih => exact .next hs (ih h')

theorem Row.split : ∀ {ls ms : List L} {s : S}, Row step s (ls ++ ms) s'' →
    ∃ s', Row step s ls s' ∧ Row step s' ms s''
  | [], _, s, h => ⟨s, .done s, h⟩
  | _ :: _, _, _, .next hs hrest => by
      obtain ⟨s', h1, h2⟩ := Row.split hrest
      exact ⟨s', .next hs h1, h2⟩

/-! ## 2. What a row keeps -/

/-- What steps with good labels keep, a row of them does. -/
theorem Row.keeps {P : S → Prop} {G : L → Prop}
    (hkeep : ∀ s l s', step s l s' → G l → P s → P s') {ls : List L} (h : Row step s ls s')
    (hgood : ∀ l ∈ ls, G l) (hs : P s) : P s' := by
  induction h with
  | done => exact hs
  | next hstep _ ih =>
      exact ih (fun l hl => hgood l (List.mem_cons_of_mem _ hl))
        (hkeep _ _ _ hstep (hgood _ List.mem_cons_self) hs)

/-- A count that no step raises by more than one. -/
theorem Row.climbs {f : S → Nat} (hone : ∀ s l s', step s l s' → f s' ≤ f s + 1) {ls : List L}
    (h : Row step s ls s') : f s' ≤ f s + ls.length := by
  induction h with
  | done => exact Nat.le_refl _
  | next hstep _ ih =>
      have := hone _ _ _ hstep
      rw [List.length_cons]
      omega

/-- **What one step brings about, and the steps between keep, a later step finds.** -/
theorem Row.since {P : S → Prop} {G : L → Prop} {pre mid post : List L} {w r : L}
    (hrow : Row step s (pre ++ w :: (mid ++ r :: post)) s')
    (hw : ∀ s1 s2, Row step s pre s1 → step s1 w s2 → P s2)
    (hkeep : ∀ s l s', step s l s' → G l → P s → P s') (hgood : ∀ l ∈ mid, G l) :
    ∃ s1 s2, Row step s (pre ++ w :: mid) s1 ∧ P s1 ∧ step s1 r s2 ∧ Row step s2 post s' := by
  obtain ⟨s1, hpre, h1⟩ := hrow.split
  cases h1 with
  | next hwrite h2 =>
      obtain ⟨s3, h3, h4⟩ := h2.split
      cases h4 with
      | next hread h5 =>
          exact ⟨s3, _, hpre.append (.next hwrite h3), h3.keeps hkeep hgood (hw _ _ hpre hwrite),
            hread, h5⟩

/-! ## 3. Lists -/

/-- Two elements of a list sorted by a key, and what is between them. -/
theorem between {k : L → Nat} {ls : List L} (hs : ls.Pairwise fun x y => k x < k y) {x y : L}
    (hx : x ∈ ls) (hy : y ∈ ls) (hlt : k x < k y) : ∃ pre mid post,
      ls = pre ++ x :: (mid ++ y :: post) ∧ ∀ z ∈ mid, k x < k z ∧ k z < k y := by
  obtain ⟨pre, more, rfl⟩ := List.append_of_mem hx
  obtain ⟨-, hmore, hpre⟩ := List.pairwise_append.mp hs
  obtain ⟨hfirst, hmore⟩ := List.pairwise_cons.mp hmore
  have hin : y ∈ more := by
    rcases List.mem_append.mp hy with hy | hy
    · exact absurd (hpre y hy x List.mem_cons_self) (Nat.lt_asymm hlt)
    · rcases List.mem_cons.mp hy with rfl | hy
      · exact absurd hlt (Nat.lt_irrefl _)
      · exact hy
  obtain ⟨mid, post, rfl⟩ := List.append_of_mem hin
  refine ⟨pre, mid, post, rfl, fun z hz => ⟨hfirst z (List.mem_append_left _ hz), ?_⟩⟩
  exact (List.pairwise_append.mp hmore).2.2 z hz y List.mem_cons_self

/-- Where an element stands in two parts of a list. -/
theorem mem_between {a b c d m : List L} {x : L} (h : a ++ x :: b = c ++ (m ++ d))
    (hlow : d.length ≤ b.length) (hhigh : b.length < (m ++ d).length) : x ∈ m := by
  rcases List.append_eq_append_iff.mp h with ⟨es, -, hes⟩ | ⟨es, -, hes⟩
  · have hlen := congrArg List.length hes
    simp only [List.length_cons, List.length_append] at hlen hhigh
    obtain rfl : es = [] := List.eq_nil_of_length_eq_zero (by omega)
    rcases m with _ | ⟨y, m⟩
    · have hlen := congrArg List.length hes
      rw [List.length_cons] at hlen
      simp only [List.nil_append] at hlen
      omega
    · rw [(List.cons.inj hes).1]
      exact List.mem_cons_self
  · rcases List.append_eq_append_iff.mp hes with ⟨fs, -, hfs⟩ | ⟨fs, hfs, hds⟩
    · have hlen := congrArg List.length hfs
      rw [List.length_append, List.length_cons] at hlen
      omega
    · have hlen := congrArg List.length hds
      rw [List.length_cons, List.length_append] at hlen
      rcases fs with _ | ⟨f, fs⟩
      · simp only [List.length_nil] at hlen
        omega
      · rw [hfs, (List.cons.inj hds).1]
        exact List.mem_append_right _ List.mem_cons_self

end Lib.Rows
