/-
  File:      Openport/Device/Consumed.lean
  Subject:   The loop of `consume_accum` over its offset, every load checked: it ends,
             and each turn moves the offset forward inside the accumulator.

  `consumeAccum` is a fold over what is left of the bytes; here the loop is the
  source's, over `off`, and `none` is a load outside the accumulator or a loop
  that has not ended. `opParse_safe` collects what holds of every buffer.
-/
import Openport.Device.Residue
import Openport.Proto.Checked

namespace Openport

open Lib.Framing Lib.Loads

/-! ## 1. The loop over the offset -/

/-- One turn of the loop in `consume_accum` at `off`: what is handed on and the next offset,
    `some none` where the loop is left. -/
def consumeTurn (accum : Bytes) (off : Nat) : Option (Option (Handed × Nat)) :=
  if off < accum.length then
    (opParseAt (accum.drop off)).bind fun p =>
      let r := p.2.view (accum.drop off)
      if p.1 = 0 then some none
      else
        match r.kind with
        | .frame => some (some (.frame r, off + p.1))
        | .junk =>
          (opResyncOffsetAt (accum.drop off)).map fun skip =>
            let n := if p.1 < skip then skip else p.1
            some (.desync n, off + n)
        | _ => some (some (.reply r, off + p.1))
  else some none

/-- The loop: everything handed on, and the offset it is left with. -/
def consumeLoopAt (accum : Bytes) : Nat → Nat → Option (List Handed × Nat)
  | 0, _ => none
  | fuel + 1, off =>
    (consumeTurn accum off).bind fun turn =>
      match turn with
      | none => some ([], off)
      | some (h, off') => (consumeLoopAt accum fuel off').map fun r => (h :: r.1, r.2)

/-- `consume_accum`: the loop, the `memmove` and the check for a full accumulator. -/
def consumeAccumAt (accum : Bytes) : Option (List Handed × Bytes) :=
  (consumeLoopAt accum (accum.length + 1) 0).bind fun r =>
    (sizeSub accum.length r.2).map fun left =>
      let rest := (accum.drop r.2).take left
      (r.1, if left = opAccumCap then [] else rest)

/-! ## 2. A turn -/

/-- Where the resync lands, and where the parser is, lie in the buffer. -/
theorem opResyncOffset_le (buf : Bytes) : opResyncOffset buf ≤ buf.length := by
  obtain ⟨k, -, rfl, hk⟩ := opResyncOffsetAt_next buf
  rcases hk with ⟨-, ⟨hb, -⟩, -⟩ | ⟨hk, -⟩
  · exact Nat.le_of_lt (List.getElem?_eq_some_iff.mp hb).1
  · exact Nat.le_of_eq hk

/-- **A turn makes progress**: it reads inside the accumulator, does what `consumeStep` says,
    and either leaves the loop or moves the offset forward, not beyond the end. -/
theorem consumeTurn_progress {accum : Bytes} {off : Nat} (hoff : off ≤ accum.length) :
    ∃ t, consumeTurn accum off = some t ∧
      (t = none → consumeStep (accum.drop off) = none) ∧
      ∀ i off', t = some (i, off') → off < off' ∧ off' ≤ accum.length ∧
        consumeStep (accum.drop off) = some (i, accum.drop off') := by
  unfold consumeTurn
  by_cases hlt : off < accum.length
  · rw [if_pos hlt]
    obtain ⟨n, r, h1, h2, -, hle, -, -⟩ := opParseAt_decodes (accum.drop off)
    rw [List.length_drop] at hle
    have hresync : opResyncOffset (accum.drop off) ≤ (accum.drop off).length := opResyncOffset_le _
    rw [List.length_drop] at hresync
    have hn : (opParse (accum.drop off)).1 = n := congrArg Prod.fst h2.symm
    have hr : (opParse (accum.drop off)).2 = r.view (accum.drop off) := congrArg Prod.snd h2.symm
    rw [h1, Option.bind_some]
    unfold consumeStep
    simp only
    rw [hn, hr]
    by_cases h0 : n = 0
    · rw [if_pos h0, if_pos h0]
      exact ⟨none, rfl, fun _ => rfl, fun _ _ e => (by cases e)⟩
    · rw [if_neg h0, if_neg h0]
      -- a turn that hands something on drops `m` bytes, at least one
      have hmove : ∀ (i : Handed) (m : Nat), m ≠ 0 → m ≤ accum.length - off →
          ∃ t, (some (some (i, off + m)) : Option (Option (Handed × Nat))) = some t ∧
            (t = none → some (i, (accum.drop off).drop m) = none) ∧
            ∀ i' off', t = some (i', off') → off < off' ∧ off' ≤ accum.length ∧
              some (i, (accum.drop off).drop m) = some (i', accum.drop off') := by
        intro i m hm hml
        refine ⟨_, rfl, fun e => (by cases e), ?_⟩
        intro i' off' e
        cases e
        rw [List.drop_drop]
        exact ⟨by omega, by omega, rfl⟩
      cases hk : (r.view (accum.drop off)).kind with
      | frame => exact hmove _ n h0 hle
      | junk =>
          obtain ⟨k, hk1, hk2, -⟩ := opResyncOffsetAt_next (accum.drop off)
          simp only
          rw [hk1, hk2]
          refine hmove _ _ ?_ ?_
          · split <;> omega
          · split <;> omega
      | incomplete | ok | error | info | pin | filter | config | init | periodic =>
          exact hmove _ n h0 hle
  · rw [if_neg hlt]
    have hnil : accum.drop off = [] := by
      rw [Nat.le_antisymm hoff (Nat.le_of_not_lt hlt), List.drop_length]
    rw [hnil]
    exact ⟨none, rfl, fun _ => rfl, fun _ _ e => (by cases e)⟩

/-! ## 3. The loop -/

/-- **The loop ends**, since every turn takes a byte, and drains the accumulator; more fuel
    than bytes changes nothing. -/
theorem consumeLoopAt_ends {accum : Bytes} : ∀ (n : Nat) {off : Nat}, off ≤ accum.length →
    accum.length - off ≤ n → ∃ off', off' ≤ accum.length ∧
      accum.drop off' = (drain consumeStep (accum.drop off)).2 ∧
      ∀ fuel > accum.length - off, consumeLoopAt accum fuel off =
        some ((drain consumeStep (accum.drop off)).1, off')
  | n, off, h, hn => by
      obtain ⟨t, ht, hnone, hsome⟩ := consumeTurn_progress h
      cases t with
      | none =>
          rw [drain_wait consumeStep_shrinks (hnone rfl)]
          refine ⟨off, h, rfl, ?_⟩
          intro fuel hf
          cases fuel with
          | zero => exact absurd hf (Nat.not_lt_zero _)
          | succ fuel =>
              unfold consumeLoopAt
              rw [ht]
              rfl
      | some q =>
          obtain ⟨hlt, hle, hstep⟩ := hsome q.1 q.2 rfl
          rw [drain_item consumeStep_shrinks hstep]
          cases n with
          | zero => omega
          | succ n =>
              obtain ⟨off', h1, h2, h3⟩ := consumeLoopAt_ends n hle (by omega)
              refine ⟨off', h1, h2, ?_⟩
              intro fuel hf
              cases fuel with
              | zero => exact absurd hf (Nat.not_lt_zero _)
              | succ fuel =>
                  unfold consumeLoopAt
                  rw [ht, Option.bind_some]
                  simp only
                  rw [h3 fuel (by omega)]
                  rfl

/-- The whole loop, from the first byte on. -/
theorem consumeLoopAt_whole (accum : Bytes) : ∃ off ≤ accum.length,
    accum.drop off = (drain consumeStep accum).2 ∧
    ∀ fuel > accum.length, consumeLoopAt accum fuel 0 =
      some ((drain consumeStep accum).1, off) :=
  consumeLoopAt_ends accum.length (Nat.zero_le _) (Nat.le_refl _)

/-- The checked `consume_accum` is `consumeAccum`. -/
theorem consumeAccumAt_eq (accum : Bytes) : consumeAccumAt accum = some (consumeAccum accum) := by
  obtain ⟨off, hle, hrest, hloop⟩ := consumeLoopAt_whole accum
  have hlen : accum.length - off = (accum.drop off).length := List.length_drop.symm
  unfold consumeAccumAt consumeAccum sizeSub
  rw [hloop _ (Nat.lt_succ_self _), Option.bind_some]
  simp only
  rw [if_pos hle, hlen, Option.map_some, List.take_length, hrest]

/-! ## 4. Every buffer -/

/-- **`op_parse`, `op_resync_offset` and `consume_accum` are safe and make progress**, whatever
    the bytes are. -/
theorem opParse_safe (buf : Bytes) :
    (∃ n r, opParseAt buf = some (n, r) ∧ (n, r.view buf) = opParse buf ∧
      (n = 0 ↔ r.reply.kind = .incomplete) ∧ (r.reply.kind ≠ .incomplete → 1 ≤ n) ∧
      n ≤ buf.length ∧ (∀ s, r.text = some s ∨ r.data = some s → s.off + s.len ≤ n) ∧
      r.reply.tail.length ≤ 8) ∧
    (∃ k, opResyncOffsetAt buf = some k ∧ k = opResyncOffset buf ∧ NextBoundary buf k) ∧
    (∀ off ≤ buf.length, ∃ t, consumeTurn buf off = some t ∧
      ∀ i off', t = some (i, off') → off < off' ∧ off' ≤ buf.length) ∧
    (∃ items off, (∀ fuel > buf.length, consumeLoopAt buf fuel 0 = some (items, off)) ∧
      off ≤ buf.length) ∧
    consumeAccumAt buf = some (consumeAccum buf) := by
  refine ⟨?_, opResyncOffsetAt_next buf, ?_, ?_, consumeAccumAt_eq buf⟩
  · obtain ⟨n, r, h1, h2, h3, h4, h5, h6⟩ := opParseAt_decodes buf
    exact ⟨n, r, h1, h2, h3, fun hk => Nat.one_le_iff_ne_zero.mpr fun e => hk (h3.mp e), h4, h5, h6⟩
  · intro off hoff
    obtain ⟨t, ht, -, hsome⟩ := consumeTurn_progress hoff
    exact ⟨t, ht, fun i off' e => ⟨(hsome i off' e).1, (hsome i off' e).2.1⟩⟩
  · obtain ⟨off, hle, -, hloop⟩ := consumeLoopAt_whole buf
    exact ⟨_, off, hloop, hle⟩

end Openport
