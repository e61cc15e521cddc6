/-
  File:      Openport/Device/Room.lean
  Subject:   The reader's accumulator never overflows, whatever the cable sends and
             however the bytes are cut into reads.

  `reader_main` clips a read there is no room for, and `consume_accum` throws an
  accumulator away that is full. Both are about the accumulator of a device
  between two wakeups, which is short (`Short`) as long as it began so.
-/
import Openport.Device.Residue
import Openport.Device.Slot

namespace Openport

open Lib.Framing

/-! ## 1. The two branches -/

/-- `sizeof tmp` in `reader_main`, the most one read brings. -/
def readMax : Nat := 1024

/-- `take < got` in `reader_main`: not all that was read fits behind the accumulator. -/
def readClipped (accum tmp : Bytes) : Bool := decide (opAccumCap - accum.length < tmp.length)

/-- The test at the end of `consume_accum`, for the residue a read leaves. -/
def accumFull (accum tmp : Bytes) : Bool :=
  (drain consumeStep (accum ++ tmp.take (opAccumCap - accum.length))).2.length == opAccumCap

/-- A read a wakeup may bring. -/
def Arrival.Sized : Arrival → Prop
  | .read tmp => tmp.length ≤ readMax
  | .gone => True

/-! ## 2. The accumulator of a run -/

/-- What is handed on does not touch the accumulator. -/
theorem handOn_accum (d : OpDevice) (x : Handed) : (handOn d x).accum = d.accum := by
  cases x with
  | frame r =>
      obtain ⟨ch, e⟩ := absorbFrame_slot d r
      have h : (absorbFrame d r).accum = d.accum := by rw [e]
      exact h
  | reply r => exact stashReply_accum d r
  | desync n => rfl

theorem handAll_accum (xs : List Handed) (d : OpDevice) : (xs.foldl handOn d).accum = d.accum := by
  induction xs generalizing d with
  | nil => rfl
  | cons x xs ih => exact (ih (handOn d x)).trans (handOn_accum d x)

/-- A wakeup leaves the accumulator short. -/
theorem arrive_short {d : OpDevice} (h : Short d.accum) {a : Arrival} (ha : a.Sized) :
    Short (arrive d a).accum := by
  cases a with
  | gone => exact h
  | read tmp =>
      unfold arrive
      simp only
      by_cases hl : d.lost = true
      · rw [if_pos hl]
        exact h
      · rw [if_neg hl, handAll_accum]
        exact (readerRead_short h ha).2

theorem arrivals_short {d : OpDevice} (h : Short d.accum) {as : List Arrival}
    (has : ∀ a ∈ as, a.Sized) : Short (arrivals d as).accum := by
  induction as generalizing d with
  | nil => exact h
  | cons a as ih =>
      exact ih (arrive_short h (has a List.mem_cons_self))
        fun b hb => has b (List.mem_cons_of_mem _ hb)

/-! ## 3. The bound -/

/-- **The accumulator never overflows.** After any wakeups from an empty accumulator, a read of
    at most 1024 bytes is appended whole, and what is left of it afterwards does not fill the
    accumulator. -/
theorem reader_has_room {d : OpDevice} (hd : d.accum = []) {as : List Arrival}
    (has : ∀ a ∈ as, a.Sized) {tmp : Bytes} (ht : tmp.length ≤ readMax) :
    readClipped (arrivals d as).accum tmp = false ∧
      accumFull (arrivals d as).accum tmp = false := by
  have hshort : Short (arrivals d as).accum :=
    arrivals_short (by rw [hd]; exact short_nil) has
  have hroom : tmp.length ≤ opAccumCap - (arrivals d as).accum.length := by
    have hlen : (arrivals d as).accum.length ≤ 1538 := hshort.length_le
    have hmax : tmp.length ≤ 1024 := ht
    have hcap : opAccumCap = 4387 := rfl
    omega
  refine ⟨decide_eq_false (Nat.not_lt.mpr hroom), ?_⟩
  have hrest : (drain consumeStep ((arrivals d as).accum ++ tmp)).2.length ≤ 1538 :=
    (short_drain hshort ht).length_le
  unfold accumFull
  rw [List.take_of_length_le hroom]
  refine beq_false_of_ne ?_
  intro e
  rw [e] at hrest
  exact absurd hrest (by decide)

/-- An `ary` line that announces 255 bytes, and a read of line noise behind it. -/
theorem reader_has_room_sample :
    readClipped (arrivals {} [.read [0x61, 0x72, 0x79, 0x34, 0x20, 0x32, 0x35, 0x35,
      0x0d, 0x0a]]).accum
        (List.replicate 1024 0x61) = false ∧
      accumFull (arrivals {} [.read [0x61, 0x72, 0x79, 0x34, 0x20, 0x32, 0x35, 0x35,
        0x0d, 0x0a]]).accum
        (List.replicate 1024 0x61) = false :=
  reader_has_room rfl
    (fun a ha => by rw [List.mem_singleton.mp ha]; exact Nat.le_of_ble_eq_true rfl)
    (by rw [List.length_replicate]; exact Nat.le_refl 1024)

end Openport
