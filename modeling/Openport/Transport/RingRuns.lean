/-
  File:      Openport/Transport/RingRuns.lean
  Subject:   Runs of completed reads and `usb_read` calls: the USB receive ring
             is a bounded pipe that loses whole reads only.

  `UsbRun` is the receive side together with the reads that completed, the ones
  the ring took and dropped, the bytes `usb_read` returned and the counts it
  took; `Sim` ties it to the books of `Lib.Pipe`. `ring_dropped` is 64 bits
  wide, so each count is the length dropped up to a multiple of 2^64.
-/
import Openport.Lib.Pipe
import Openport.Transport.Posted

namespace Openport.Usb

open Lib.Ring Lib.Pipe

/-! ## 1. Runs -/

/-- The receive side, and what happened to it since `rx_start`. -/
structure UsbRun where
  usb : OpUsb
  /-- what each completed read brought -/
  completed : List Bytes := []
  /-- the ones `ring_put` had room for -/
  fitted : List Bytes := []
  /-- the ones it dropped, since `usb_read` last took `ring_dropped` -/
  lost : List Bytes := []
  /-- the ones it dropped before, by the `usb_read` that took their count -/
  reported : List (List Bytes) := []
  /-- what each `usb_read` returned -/
  returned : List Bytes := []
  /-- the count each `usb_read` took -/
  taken : List UInt64 := []

/-- `ring_put` has no room. -/
def OpUsb.full (u : OpUsb) (src : Bytes) : Prop := usbRingBytes - u.ringUsed < src.length

instance (u : OpUsb) (src : Bytes) : Decidable (u.full src) :=
  inferInstanceAs (Decidable (usbRingBytes - u.ringUsed < src.length))

/-- One step, entered into the books; a `usb_read` of no capacity is refused at once. -/
def UsbRun.step (s : UsbRun) (op : Op) : UsbRun :=
  match op with
  | .done _ (.completed data) _ =>
    if s.usb.full data then
      { s with usb := s.usb.step op, completed := s.completed ++ [data], lost := s.lost ++ [data] }
    else
      { s with
        usb := s.usb.step op
        completed := s.completed ++ [data]
        fitted := s.fitted ++ [data] }
  | .read cap submit =>
    if cap = 0 then { s with usb := s.usb.step op }
    else
      { s with
        usb := s.usb.step op
        returned := s.returned ++ [(usbRead s.usb cap submit).bytes]
        taken := s.taken ++ [(usbRead s.usb cap submit).dropped]
        reported := s.reported ++ [s.lost]
        lost := [] }
  | _ => { s with usb := s.usb.step op }

def UsbRun.run (s : UsbRun) (ops : List Op) : UsbRun := ops.foldl UsbRun.step s

/-- The bytes in the ring, oldest first. -/
def OpUsb.held (u : OpUsb) : Bytes := content usbRingBytes u.ring u.ringHead u.ringUsed

/-! ## 2. The ring's operations -/

theorem Apart.held {u v : OpUsb} (h : Apart u v) : v.held = u.held := by
  unfold OpUsb.held
  rw [h.ring, h.ringHead, h.ringUsed]

/-- `ring_put` with room: the bytes are put behind the ring's. -/
theorem ringPut_fits {u : OpUsb} {src : Bytes} (hh : u.ringHead < usbRingBytes)
    (hu : u.ringUsed ≤ usbRingBytes) (h : ¬u.full src) :
    (ringPut u src).held = u.held ++ src ∧ (ringPut u src).ringHead = u.ringHead ∧
      (ringPut u src).ringUsed = u.ringUsed + src.length ∧
      (ringPut u src).ringDropped = u.ringDropped := by
  have hroom : u.ringUsed + src.length ≤ usbRingBytes := by
    unfold OpUsb.full at h
    omega
  have he : ringPut u src =
      { u with ring := put usbRingBytes u.ring ((u.ringHead + u.ringUsed) % usbRingBytes) src
               ringUsed := u.ringUsed + src.length } := if_neg h
  rw [he]
  exact ⟨content_put u.ring u.ringUsed src hh hroom, rfl, rfl, rfl⟩

/-- `ring_put` without: only the count changes. -/
theorem ringPut_full {u : OpUsb} {src : Bytes} (h : u.full src) :
    ringPut u src = { u with ringDropped := u.ringDropped + UInt64.ofNat src.length } := if_pos h

/-- `ring_get`: the oldest bytes, and the ring behind them. -/
theorem ringGet_eq {u : OpUsb} (hh : u.ringHead < usbRingBytes) (hu : u.ringUsed ≤ usbRingBytes)
    (cap : Nat) :
    (ringGet u cap).1 = u.held.take cap ∧ (ringGet u cap).2.held = u.held.drop cap ∧
      (ringGet u cap).2.ringUsed = u.ringUsed - cap ∧
      (ringGet u cap).2.ringHead < usbRingBytes ∧
      (ringGet u cap).2.ringDropped = u.ringDropped := by
  have hn : (if u.ringUsed < cap then u.ringUsed else cap) = min cap u.ringUsed := by
    split
    · omega
    · omega
  have hsplit : u.held = content usbRingBytes u.ring u.ringHead (min cap u.ringUsed) ++
      content usbRingBytes u.ring ((u.ringHead + min cap u.ringUsed) % usbRingBytes)
        (u.ringUsed - min cap u.ringUsed) := by
    rw [← content_add]
    unfold OpUsb.held
    congr 1
    omega
  have hlen : (content usbRingBytes u.ring u.ringHead (min cap u.ringUsed)).length =
      min cap u.ringUsed := content_length _ _ _ _
  have hall : u.held.length = u.ringUsed := content_length _ _ _ _
  unfold ringGet
  rw [hn]
  refine ⟨?_, ?_, ?_, Nat.mod_lt _ (by decide), rfl⟩
  · show get usbRingBytes u.ring u.ringHead (min cap u.ringUsed) = _
    rw [get_eq u.ring hh (by omega)]
    have ht : u.held.take cap = u.held.take (min cap u.ringUsed) := by
      rw [← hall, List.take_eq_take_min]
    rw [ht, hsplit]
    exact (List.take_left' hlen).symm
  · show content usbRingBytes u.ring ((u.ringHead + min cap u.ringUsed) % usbRingBytes)
      (u.ringUsed - min cap u.ringUsed) = _
    have hd : u.held.drop cap = u.held.drop (min cap u.ringUsed) := by
      by_cases hc : cap ≤ u.ringUsed
      · rw [Nat.min_eq_left hc]
      · rw [Nat.min_eq_right (by omega), List.drop_of_length_le (by omega),
          List.drop_of_length_le (by omega)]
    rw [hd, hsplit]
    exact (List.drop_left' hlen).symm
  · show u.ringUsed - min cap u.ringUsed = u.ringUsed - cap
    omega

/-- What a callback does to the ring: a completed read's bytes are put. -/
theorem rxDone_ring (u : OpUsb) (i : Fin usbRxTransfers) (data : Bytes) (r : LibusbResult) :
    ∃ v, Apart u v ∧
      Apart (if 0 < data.length then ringPut v data else v) (rxDone u i (.completed data) r) := by
  refine ⟨{ u.setFlying i false with rxFlying := u.rxFlying - 1, rxBatch := u.rxBatch + 1 },
    ⟨rfl, rfl, rfl, rfl, rfl⟩, ?_⟩
  unfold rxDone
  simp only
  generalize (if 0 < data.length then ringPut _ data else _) = w
  split
  · exact rxSubmit_apart w i r
  · exact Apart.refl w

theorem rxDone_apart (u : OpUsb) (i : Fin usbRxTransfers) (st : TransferStatus)
    (h : ∀ data, st ≠ .completed data) (r : LibusbResult) : Apart u (rxDone u i st r) := by
  have hv : Apart u { u.setFlying i false with
      rxFlying := u.rxFlying - 1, rxBatch := u.rxBatch + 1 } := ⟨rfl, rfl, rfl, rfl, rfl⟩
  cases st with
  | completed data => exact absurd rfl (h data)
  | cancelled => exact hv
  | noDevice => exact hv.trans (rxFail_apart _ _)
  | other => exact hv.trans (rxFail_apart _ _)

/-- A completed read that fits. -/
theorem rxDone_fits {u : OpUsb} {data : Bytes} (hh : u.ringHead < usbRingBytes)
    (hu : u.ringUsed ≤ usbRingBytes) (h : ¬u.full data) (i : Fin usbRxTransfers)
    (r : LibusbResult) :
    (rxDone u i (.completed data) r).held = u.held ++ data ∧
      (rxDone u i (.completed data) r).ringHead = u.ringHead ∧
      (rxDone u i (.completed data) r).ringDropped = u.ringDropped := by
  obtain ⟨v, hv, hw⟩ := rxDone_ring u i data r
  by_cases hd : 0 < data.length
  · rw [if_pos hd] at hw
    have hroom : ¬v.full data := by
      unfold OpUsb.full at h ⊢
      rwa [← hv.ringUsed]
    obtain ⟨hheld, hhead, -, hdrop⟩ := ringPut_fits (u := v)
      (by rw [← hv.ringHead]; exact hh) (by rw [← hv.ringUsed]; exact hu) hroom
    refine ⟨?_, ?_, ?_⟩
    · rw [hw.held, hheld, hv.held]
    · rw [← hw.ringHead, hhead, hv.ringHead]
    · rw [← hw.ringDropped, hdrop, hv.ringDropped]
  · rw [if_neg hd] at hw
    have hnil : data = [] := List.eq_nil_of_length_eq_zero (by omega)
    refine ⟨?_, ?_, ?_⟩
    · rw [hw.held, hv.held, hnil, List.append_nil]
    · rw [← hw.ringHead, hv.ringHead]
    · rw [← hw.ringDropped, hv.ringDropped]

/-- A completed read that does not fit is dropped whole, and its length counted. -/
theorem rxDone_full {u : OpUsb} {data : Bytes} (h : u.full data) (i : Fin usbRxTransfers)
    (r : LibusbResult) :
    (rxDone u i (.completed data) r).held = u.held ∧
      (rxDone u i (.completed data) r).ringHead = u.ringHead ∧
      (rxDone u i (.completed data) r).ringUsed = u.ringUsed ∧
      (rxDone u i (.completed data) r).ringDropped =
        u.ringDropped + UInt64.ofNat data.length := by
  obtain ⟨v, hv, hw⟩ := rxDone_ring u i data r
  have hd : 0 < data.length := by
    unfold OpUsb.full at h
    omega
  have hfull : v.full data := by
    unfold OpUsb.full at h ⊢
    rwa [← hv.ringUsed]
  rw [if_pos hd, ringPut_full hfull] at hw
  refine ⟨?_, ?_, ?_, ?_⟩
  · exact hw.held.trans hv.held
  · exact hw.ringHead.symm.trans hv.ringHead.symm
  · exact hw.ringUsed.symm.trans hv.ringUsed.symm
  · rw [← hw.ringDropped, hv.ringDropped]

/-- `usb_read` with a buffer: the oldest bytes it has room for, and the count. -/
theorem usbRead_ring {u : OpUsb} (hh : u.ringHead < usbRingBytes)
    (hu : u.ringUsed ≤ usbRingBytes) {cap : Nat} (hc : cap ≠ 0)
    (submit : Fin usbRxTransfers → LibusbResult) :
    (usbRead u cap submit).bytes = u.held.take cap ∧
      (usbRead u cap submit).dropped = u.ringDropped ∧
      (usbRead u cap submit).usb.held = u.held.drop cap ∧
      (usbRead u cap submit).usb.ringHead < usbRingBytes ∧
      (usbRead u cap submit).usb.ringDropped = 0 := by
  unfold usbRead
  rw [if_neg hc]
  by_cases hr : 0 < u.ringUsed
  · obtain ⟨hbytes, hheld, -, hhead, hdrop⟩ := ringGet_eq hh hu cap
    rw [if_pos hr]
    exact ⟨hbytes, hdrop, hheld, hhead, rfl⟩
  · have hnil : u.held = [] := by
      have hlen : u.held.length = u.ringUsed := content_length _ _ _ _
      exact List.eq_nil_of_length_eq_zero (by omega)
    rw [if_neg hr, hnil, List.take_nil, List.drop_nil]
    by_cases he : u.rxError ≠ .ok
    · rw [if_pos he]
      have hsame : Apart u (if u.rxError ≠ .noDevice then
          submitLoop idle submit (List.finRange usbRxTransfers) { u with rxError := .ok }
          else u) := by
        split
        · have hl := submitLoop_apart submit idle (List.finRange usbRxTransfers)
            { u with rxError := .ok }
          exact ⟨hl.ring, hl.ringHead, hl.ringUsed, hl.ringDropped, hl.stopping⟩
        · exact Apart.refl u
      refine ⟨rfl, hsame.ringDropped.symm, hsame.held.trans hnil, ?_, rfl⟩
      exact hsame.ringHead.symm.trans_lt hh
    · rw [if_neg he]
      exact ⟨rfl, rfl, hnil, hh, rfl⟩

/-! ## 3. The ring stands for the pipe -/

/-- The receive side and the run's records agree with the books `b`. -/
structure Sim (s : UsbRun) (b : Book UInt8) : Prop where
  held : s.usb.held = b.held
  head : s.usb.ringHead < usbRingBytes
  completed : s.completed = b.offered
  fitted : s.fitted = b.fitted
  lost : s.lost = b.lost
  reported : s.reported = b.reported
  returned : s.returned = b.returned
  dropped : s.usb.ringDropped.toNat = s.lost.flatten.length % 2 ^ 64
  taken : s.taken.map UInt64.toNat = s.reported.map fun g => g.flatten.length % 2 ^ 64

/-- The operations of the pipe a step stands for. -/
def Op.pipe : Op → List (Lib.Pipe.Op UInt8)
  | .done _ (.completed data) _ => [.offer data]
  | .read cap _ => if cap = 0 then [] else [.read cap]
  | _ => []

/-- A step that leaves the ring and the books alone. -/
theorem sim_apart {s : UsbRun} {b : Book UInt8} (h : Sim s b) {u : OpUsb} (hu : Apart s.usb u) :
    Sim { s with usb := u } b :=
  ⟨hu.held.trans h.held, hu.ringHead.symm.trans_lt h.head, h.completed, h.fitted, h.lost,
    h.reported, h.returned, (congrArg UInt64.toNat hu.ringDropped.symm).trans h.dropped, h.taken⟩

theorem held_used (u : OpUsb) : u.held.length = u.ringUsed := content_length _ _ _ _

/-- **One step of the receive side is its operations on the pipe.** -/
theorem sim_step {s : UsbRun} {b : Book UInt8} (h : Sim s b) (hb : b.Balanced usbRingBytes)
    (op : Op) : Sim (s.step op) (b.run usbRingBytes op.pipe) := by
  have hused : s.usb.ringUsed = b.held.length := by rw [← held_used, h.held]
  have hle : s.usb.ringUsed ≤ usbRingBytes := hused.trans_le hb.bounded
  cases op with
  | events => exact sim_apart h ⟨rfl, rfl, rfl, rfl, rfl⟩
  | done i st r =>
      cases st with
      | cancelled => exact sim_apart h (rxDone_apart s.usb i .cancelled (fun _ e => (nomatch e)) r)
      | noDevice => exact sim_apart h (rxDone_apart s.usb i .noDevice (fun _ e => (nomatch e)) r)
      | other => exact sim_apart h (rxDone_apart s.usb i .other (fun _ e => (nomatch e)) r)
      | completed data =>
          show Sim (if s.usb.full data then _ else _) (b.step usbRingBytes (.offer data))
          by_cases hfull : s.usb.full data
          · obtain ⟨hheld, hhead, -, hdrop⟩ := rxDone_full hfull i r
            have hno : ¬b.held.length + data.length ≤ usbRingBytes := by
              unfold OpUsb.full at hfull
              omega
            rw [if_pos hfull, step_lost hno]
            refine ⟨hheld.trans h.held, hhead.trans_lt h.head, ?_, h.fitted, ?_,
              h.reported, h.returned, ?_, h.taken⟩
            · exact congrArg (· ++ [data]) h.completed
            · exact congrArg (· ++ [data]) h.lost
            · show (rxDone s.usb i (.completed data) r).ringDropped.toNat =
                (s.lost ++ [data]).flatten.length % 2 ^ 64
              rw [hdrop, UInt64.toNat_add, h.dropped, UInt64.toNat_ofNat', List.flatten_append,
                List.flatten_singleton, List.length_append, ← Nat.add_mod]
          · obtain ⟨hheld, hhead, hdrop⟩ := rxDone_fits h.head hle hfull i r
            have hyes : b.held.length + data.length ≤ usbRingBytes := by
              unfold OpUsb.full at hfull
              omega
            rw [if_neg hfull, step_fits hyes]
            refine ⟨?_, hhead.trans_lt h.head, ?_, ?_, h.lost, h.reported, h.returned, ?_,
              h.taken⟩
            · exact hheld.trans (congrArg (· ++ data) h.held)
            · exact congrArg (· ++ [data]) h.completed
            · exact congrArg (· ++ [data]) h.fitted
            · exact (congrArg UInt64.toNat hdrop).trans h.dropped
  | read cap submit =>
      by_cases hc : cap = 0
      · have hp : Op.pipe (.read cap submit) = [] := if_pos hc
        have hs : s.step (.read cap submit) = { s with usb := (usbRead s.usb cap submit).usb } :=
          if_pos hc
        have hu : (usbRead s.usb cap submit).usb = s.usb := by
          unfold usbRead
          rw [if_pos hc]
        rw [hp, hs, hu]
        exact h
      · have hp : Op.pipe (.read cap submit) = [.read cap] := if_neg hc
        obtain ⟨hbytes, hcount, hheld, hhead, hdrop⟩ := usbRead_ring h.head hle hc submit
        have hs : s.step (.read cap submit) =
            { s with
              usb := (usbRead s.usb cap submit).usb
              returned := s.returned ++ [(usbRead s.usb cap submit).bytes]
              taken := s.taken ++ [(usbRead s.usb cap submit).dropped]
              reported := s.reported ++ [s.lost]
              lost := [] } := if_neg hc
        rw [hp, hs]
        refine ⟨?_, hhead, h.completed, h.fitted, rfl, ?_, ?_, ?_, ?_⟩
        · exact hheld.trans (congrArg (List.drop cap) h.held)
        · show s.reported ++ [s.lost] = b.reported ++ [b.lost]
          rw [h.reported, h.lost]
        · show s.returned ++ [(usbRead s.usb cap submit).bytes] = b.returned ++ [b.held.take cap]
          rw [h.returned, hbytes, h.held]
        · exact congrArg UInt64.toNat hdrop
        · show (s.taken ++ [(usbRead s.usb cap submit).dropped]).map UInt64.toNat =
            (s.reported ++ [s.lost]).map fun g => g.flatten.length % 2 ^ 64
          rw [List.map_append, List.map_append, h.taken, hcount, List.map_singleton,
            List.map_singleton, h.dropped]

/-- **Any run of the receive side stands for a run of the pipe.** -/
theorem sim_run {s : UsbRun} {b : Book UInt8} (h : Sim s b) (hb : b.Balanced usbRingBytes)
    (ops : List Op) : ∃ b', Sim (s.run ops) b' ∧ b'.Balanced usbRingBytes := by
  induction ops generalizing s b with
  | nil => exact ⟨b, h, hb⟩
  | cons op ops ih => exact ih (sim_step h hb op) (balanced_run op.pipe hb)

/-- The receive side as `rx_start` leaves it. -/
def UsbRun.start (env : RxStartEnv) : UsbRun := { usb := (rxStart env {}).2 }

/-- `rx_start` leaves the ring empty. -/
theorem rxStart_ring (env : RxStartEnv) : (rxStart env {}).2.ringHead = 0 ∧
    (rxStart env {}).2.ringUsed = 0 ∧ (rxStart env {}).2.ringDropped = 0 := by
  unfold rxStart
  split
  · exact ⟨rfl, rfl, rfl⟩
  rename_i m _
  split
  · exact ⟨rfl, rfl, rfl⟩
  split
  · exact ⟨rfl, rfl, rfl⟩
  have h := submitLoop_apart env.submit (fun _ _ => true)
    (List.finRange usbRxTransfers) { ring := m }
  exact ⟨h.ringHead.symm, h.ringUsed.symm, h.ringDropped.symm⟩

theorem sim_start (env : RxStartEnv) : Sim (UsbRun.start env) {} := by
  obtain ⟨hhead, hused, hdrop⟩ := rxStart_ring env
  refine ⟨?_, hhead.trans_lt (by decide), rfl, rfl, rfl, rfl, rfl, congrArg UInt64.toNat hdrop, rfl⟩
  have hlen : (rxStart env {}).2.held.length = 0 := (held_used _).trans hused
  exact List.eq_nil_of_length_eq_zero hlen

/-! ## 4. What `usb_read` returns and counts -/

/-- Counts that are each smaller than 2^64 are exact. -/
theorem counts_exact {taken : List UInt64} {reported : List (List Bytes)}
    (h : taken.map UInt64.toNat = reported.map fun g => g.flatten.length % 2 ^ 64)
    (hs : ∀ g ∈ reported, g.flatten.length < 2 ^ 64) :
    (taken.map UInt64.toNat).sum = reported.flatten.flatten.length := by
  rw [h]
  induction reported generalizing taken with
  | nil => rfl
  | cons g gs ih =>
      rw [List.map_cons, List.sum_cons, Nat.mod_eq_of_lt (hs g List.mem_cons_self),
        List.flatten_cons, List.flatten_append, List.length_append]
      congr 1
      obtain ⟨t, ts, rfl, -, hts⟩ := List.map_eq_cons_iff.mp h
      exact ih hts fun g' hg' => hs g' (List.mem_cons_of_mem _ hg')

/-- **The receive ring is a byte queue that loses whole reads only.** In any run from `rx_start`
    on: what `usb_read` returned and what is in the ring are the completed reads that fitted, in
    their order; every completed read fitted or was dropped whole; the ring keeps its bounds; each
    count `usb_read` took is the length dropped since the one before, up to a multiple of 2^64, and
    `ring_dropped` what was dropped since; so nothing dropped goes uncounted as long as less than
    2^64 bytes are dropped between two counts. -/
theorem usbRun_exact (env : RxStartEnv) (ops : List Op) :
    ((UsbRun.start env).run ops).returned.flatten ++ ((UsbRun.start env).run ops).usb.held =
      ((UsbRun.start env).run ops).fitted.flatten ∧
    ((UsbRun.start env).run ops).fitted.Sublist ((UsbRun.start env).run ops).completed ∧
    (((UsbRun.start env).run ops).fitted ++ (((UsbRun.start env).run ops).reported.flatten ++
      ((UsbRun.start env).run ops).lost)).Perm ((UsbRun.start env).run ops).completed ∧
    ((UsbRun.start env).run ops).usb.ringUsed ≤ 1024 * 1024 ∧
    ((UsbRun.start env).run ops).usb.ringHead < 1024 * 1024 ∧
    ((UsbRun.start env).run ops).taken.map UInt64.toNat =
      ((UsbRun.start env).run ops).reported.map (fun g => g.flatten.length % 2 ^ 64) ∧
    ((UsbRun.start env).run ops).usb.ringDropped.toNat =
      ((UsbRun.start env).run ops).lost.flatten.length % 2 ^ 64 ∧
    ((∀ g ∈ ((UsbRun.start env).run ops).reported, g.flatten.length < 2 ^ 64) →
      ((UsbRun.start env).run ops).lost.flatten.length < 2 ^ 64 →
      (((UsbRun.start env).run ops).taken.map UInt64.toNat).sum +
          ((UsbRun.start env).run ops).usb.ringDropped.toNat =
        ((UsbRun.start env).run ops).reported.flatten.flatten.length +
          ((UsbRun.start env).run ops).lost.flatten.length) := by
  obtain ⟨b, hs, hb⟩ := sim_run (sim_start env) balanced_new ops
  generalize (UsbRun.start env).run ops = s at hs ⊢
  have hused : s.usb.ringUsed = b.held.length := by rw [← held_used, hs.held]
  refine ⟨?_, ?_, ?_, hused.trans_le hb.bounded, hs.head, hs.taken, hs.dropped, ?_⟩
  · rw [hs.returned, hs.held, hs.fitted]
    exact hb.kept
  · rw [hs.fitted, hs.completed]
    exact hb.order
  · rw [hs.fitted, hs.reported, hs.lost, hs.completed]
    exact hb.whole
  · intro hg hl
    rw [counts_exact hs.taken hg, hs.dropped, Nat.mod_eq_of_lt hl]

/-! ## 5. A count that wraps -/

/-- A completed read, posted again. -/
def kFilled (data : Bytes) : Op := .done 0 (.completed data) .success

/-- Reads that fit fill the ring. -/
theorem run_fills (data : Bytes) (n : Nat) {s : UsbRun} {b : Book UInt8} (h : Sim s b)
    (hb : b.Balanced usbRingBytes) (hroom : s.usb.ringUsed + data.length * n ≤ usbRingBytes) :
    (s.run (List.replicate n (kFilled data))).usb.ringUsed = s.usb.ringUsed + data.length * n ∧
      (s.run (List.replicate n (kFilled data))).lost = s.lost ∧
      (s.run (List.replicate n (kFilled data))).taken = s.taken := by
  induction n generalizing s b with
  | zero => exact ⟨rfl, rfl, rfl⟩
  | succ n ih =>
      have hused : s.usb.ringUsed = b.held.length := by rw [← held_used, h.held]
      have hmul : data.length * (n + 1) = data.length * n + data.length := Nat.mul_succ _ _
      have hno : ¬s.usb.full data := by
        unfold OpUsb.full
        omega
      have hstep : s.step (kFilled data) =
          { s with
            usb := rxDone s.usb 0 (.completed data) .success
            completed := s.completed ++ [data]
            fitted := s.fitted ++ [data] } := if_neg hno
      have hnext : (s.step (kFilled data)).usb.ringUsed = s.usb.ringUsed + data.length := by
        rw [← held_used, hstep]
        show (rxDone s.usb 0 (.completed data) .success).held.length = _
        rw [(rxDone_fits h.head (hused.trans_le hb.bounded) hno 0 .success).1, List.length_append,
          held_used]
      obtain ⟨hu, hl, ht⟩ := ih (sim_step h hb (kFilled data)) (balanced_run _ hb)
        (by rw [hnext]; omega)
      rw [List.replicate_succ]
      show ((s.step (kFilled data)).run (List.replicate n (kFilled data))).usb.ringUsed = _ ∧
        ((s.step (kFilled data)).run (List.replicate n (kFilled data))).lost = _ ∧
        ((s.step (kFilled data)).run (List.replicate n (kFilled data))).taken = _
      rw [hu, hl, ht, hnext, hstep]
      exact ⟨by omega, rfl, rfl⟩

/-- Reads that find the ring full are dropped. -/
theorem run_drops {data : Bytes} (hd : 0 < data.length) (n : Nat) {s : UsbRun}
    (h : s.usb.ringUsed = usbRingBytes) :
    (s.run (List.replicate n (kFilled data))).lost = s.lost ++ List.replicate n data ∧
      (s.run (List.replicate n (kFilled data))).taken = s.taken := by
  induction n generalizing s with
  | zero => exact ⟨(List.append_nil _).symm, rfl⟩
  | succ n ih =>
      have hfull : s.usb.full data := by
        unfold OpUsb.full
        omega
      have hstep : s.step (kFilled data) =
          { s with
            usb := rxDone s.usb 0 (.completed data) .success
            completed := s.completed ++ [data]
            lost := s.lost ++ [data] } := if_pos hfull
      have hnext : (s.step (kFilled data)).usb.ringUsed = usbRingBytes := by
        rw [hstep]
        exact (rxDone_full hfull 0 .success).2.2.1.trans h
      obtain ⟨hl, ht⟩ := ih hnext
      rw [List.replicate_succ]
      show ((s.step (kFilled data)).run (List.replicate n (kFilled data))).lost = _ ∧
        ((s.step (kFilled data)).run (List.replicate n (kFilled data))).taken = _
      rw [hl, ht, hstep, List.replicate_succ, List.append_assoc]
      exact ⟨rfl, rfl⟩

/-- The count behind a ring that `a` reads filled and `n` more found full. -/
theorem run_overflows (env : RxStartEnv) (data : Bytes) (hd : 0 < data.length) (a : Nat)
    (ha : data.length * a = usbRingBytes) (n : Nat) :
    ((UsbRun.start env).run (List.replicate a (kFilled data) ++
      List.replicate n (kFilled data))).lost.flatten.length = n * data.length ∧
    ((UsbRun.start env).run (List.replicate a (kFilled data) ++
      List.replicate n (kFilled data))).taken = [] ∧
    ((UsbRun.start env).run (List.replicate a (kFilled data) ++
      List.replicate n (kFilled data))).usb.ringDropped.toNat = n * data.length % 2 ^ 64 := by
  have hused : (UsbRun.start env).usb.ringUsed = 0 := (rxStart_ring env).2.1
  have hsplit : (UsbRun.start env).run (List.replicate a (kFilled data) ++
      List.replicate n (kFilled data)) =
      ((UsbRun.start env).run (List.replicate a (kFilled data))).run
        (List.replicate n (kFilled data)) := List.foldl_append
  obtain ⟨hfill, hnone, htaken⟩ := run_fills data a (sim_start env) balanced_new
    (by rw [hused, Nat.zero_add, ha])
  rw [hused, Nat.zero_add, ha] at hfill
  obtain ⟨hlost, htaken'⟩ := run_drops hd n hfill
  obtain ⟨b, hs, -⟩ := sim_run (sim_start env) balanced_new
    (List.replicate a (kFilled data) ++ List.replicate n (kFilled data))
  have hlen : ((UsbRun.start env).run (List.replicate a (kFilled data) ++
      List.replicate n (kFilled data))).lost.flatten.length = n * data.length := by
    rw [hsplit, hlost, hnone]
    show ([] ++ List.replicate n data).flatten.length = _
    rw [List.nil_append, List.length_flatten, List.map_replicate, List.sum_replicate_nat]
  refine ⟨hlen, ?_, ?_⟩
  · rw [hsplit, htaken', htaken]
    rfl
  · rw [hs.dropped, hlen]

/-- **The count wraps**: behind 4096 reads that fill the ring, 2^56 more of 256 bytes are dropped,
    no count is taken, and `ring_dropped` is 0. -/
theorem usbRun_wraps : ∃ env ops, (rxStart env {}).1 = .ok ∧
    (((UsbRun.start env).run ops).taken.map UInt64.toNat).sum +
        ((UsbRun.start env).run ops).usb.ringDropped.toNat ≠
      ((UsbRun.start env).run ops).reported.flatten.flatten.length +
        ((UsbRun.start env).run ops).lost.flatten.length := by
  obtain ⟨u, hstart, -⟩ := kStart_starts
  obtain ⟨hlost, htaken, hdrop⟩ := run_overflows kStart (List.replicate 256 0)
    (by rw [List.length_replicate]; decide) 4096 (by rw [List.length_replicate]; decide) (2 ^ 56)
  refine ⟨kStart, List.replicate 4096 (kFilled (List.replicate 256 0)) ++
    List.replicate (2 ^ 56) (kFilled (List.replicate 256 0)), by rw [hstart], ?_⟩
  rw [htaken, hdrop, hlost, List.length_replicate]
  have h0 : (2 : Nat) ^ 56 * 256 % 2 ^ 64 = 0 := by decide
  have hp : 0 < (2 : Nat) ^ 56 * 256 := by decide
  rw [h0]
  show 0 + 0 ≠ _
  omega

end Openport.Usb
