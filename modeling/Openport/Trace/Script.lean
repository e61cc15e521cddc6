/-
  File:      Openport/Trace/Script.lean
  Subject:   What a recording tells, and what the replay reads of it.

  The words of a line come back as they were printed, and an id map holds the first
  ids it is given. A script, kept from call to call, says which id the other library
  gave for which recorded one: it is what a replay is measured against.
-/
import Openport.Trace.Recorder
import Openport.Trace.Replay

namespace Openport

open Lib.Decimal Lib.Text

/-! ## 1. Words read back -/

section Words

variable {ulongMax : Nat} {e : Bytes}

/-- A message as the replay should have it. -/
def PassThruMsg.traced (m : PassThruMsg) : TraceMsg :=
  ⟨m.protocolID.toNat, m.txFlags.toNat, m.payload⟩

end Words

/-! ## 2. Ids -/

/-- The ids a map of `cap` entries holds once `v` was recorded. -/
def hold (cap : Nat) (held : List Nat) (v : Nat) : List Nat :=
  if v ∈ held then held else if held.length < cap then held ++ [v] else held

section Ids

variable {m : List (Nat × Nat)} {cap v live : Nat}

theorem mapGet_absent (h : v ∉ m.map Prod.fst) : mapGet m v = v := by
  induction m with
  | nil => rfl
  | cons e m ih =>
      rw [List.map_cons, List.mem_cons, not_or] at h
      exact (if_neg fun e => h.1 e.symm).trans (ih h.2)

end Ids

/-! ## 3. The script -/

/-- The map an id a call gives goes to. -/
def Call.creates : Call → Option IdKind
  | .passThruOpen _ => some .dev
  | .passThruConnect .. => some .ch
  | .passThruStartPeriodicMsg .. => some .per
  | .passThruStartMsgFilter .. => some .filt
  | _ => none

/-- The protocols in the replay's array behind a call's line. -/
def Call.slotted (c : Call) (slots : Nat → Nat) : Nat → Nat := fun j =>
  (c.messages[j]?.join.map fun m => m.protocolID.toNat).getD (slots j)

/-- What is known behind some lines of a tape: the live id for each one recorded, the first ids
    recorded of each kind, as many as are mapped, the protocol of the last message read into each
    slot, and how many calls there were. -/
structure Script where
  live : IdKind → Nat → Option Nat := fun _ _ => none
  held : IdKind → List Nat := fun _ => []
  slots : Nat → Nat := fun _ => 0
  count : Nat := 0

/-- The id the other library knows a recorded one by: what it gave for the last call that gave it
    in the recording. -/
def Script.name (p : Script) (kind : IdKind) (v : UInt64) : Nat :=
  (p.live kind v.toNat).getD v.toNat

/-- An id no call gave, or one of those that are mapped. -/
def Script.Known (p : Script) (kind : IdKind) (v : UInt64) : Prop :=
  p.live kind v.toNat = none ∨ v.toNat ∈ p.held kind

/-- An id is recorded for the call just made. -/
def Script.give (p : Script) (lib : Nat → Nat) (kind : IdKind) (v : UInt64) : Script :=
  { p with
    live := fun k u => if k = kind ∧ u = v.toNat then some (lib p.count) else p.live k u
    held := fun k => if k = kind then hold kind.cap (p.held kind) v.toNat else p.held k }

/-- The script behind a call. -/
def Script.after (lib : Nat → Nat) (p : Script) (t : Taped) : Script :=
  let given :=
    match t.call.creates, t.id with
    | some kind, some v => p.give lib kind v
    | _, _ => p
  { given with slots := t.call.slotted p.slots, count := p.count + 1 }

/-- The call a replay should make for a recorded one: the same, with the ids the other library
    gave. -/
def Call.asked (p : Script) : Call → Option TraceCall
  | .passThruOpen _ => some .openDevice
  | .passThruConnect id protocolID flags baud _ =>
    some (.connect (p.name .dev id) protocolID.toNat flags.toNat baud.toNat)
  | .passThruWriteMsgs ch pMsg pNumMsgs timeout =>
    let want := (pNumMsgs.getD 0).toNat
    let msgs :=
      match pMsg with
      | none => List.replicate want none
      | some f => (List.range want).map fun j => some (f j).traced
    some (.write (p.name .ch ch) msgs (pNumMsgs.map UInt64.toNat) timeout.toNat)
  | .passThruStartPeriodicMsg ch m _ interval =>
    some (.startp (p.name .ch ch) (m.map PassThruMsg.traced) interval.toNat)
  | .passThruStopPeriodicMsg ch id => some (.stopp (p.name .ch ch) (p.name .per id))
  | .passThruStartMsgFilter ch type mask pattern flow _ =>
    some (.filter (p.name .ch ch) type.toNat (mask.map PassThruMsg.traced)
      (pattern.map PassThruMsg.traced) (flow.map PassThruMsg.traced))
  | .passThruStopMsgFilter ch id => some (.stopf (p.name .ch ch) (p.name .filt id))
  | _ => none

/-- A filter message its slot can tell: one with a protocol, or none over a slot without one. -/
def Telling (slot : Nat) : Option PassThruMsg → Prop
  | none => slot = 0
  | some m => m.protocolID ≠ 0

/-- A call its line can tell. -/
def Call.Plain (p : Script) : Call → Prop
  | .passThruWriteMsgs _ pMsg pNumMsgs _ =>
    ∃ want, pNumMsgs = some want ∧ want.toNat ≤ 64 ∧ (pMsg = none → want = 0)
  | .passThruStartPeriodicMsg _ m _ _ => m ≠ none
  | .passThruStopPeriodicMsg _ id => p.Known .per id
  | .passThruStartMsgFilter _ _ mask pattern flow _ =>
    Telling (p.slots 0) mask ∧ Telling (p.slots 1) pattern ∧ Telling (p.slots 2) flow
  | .passThruStopMsgFilter _ id => p.Known .filt id
  | _ => True

end Openport
