/-
  File:      Openport/Device/Loss.lean
  Subject:   What becomes of the bytes a run of frames brings to a channel that
             reassembles: each is in a message of the queue, or in a message the
             count of dropped ones counts.

  The law fails where the message under way outgrows the reassembly buffer: it is
  cut to its first 4128 bytes and queued, and no count is raised.
-/
import Openport.Device.Gathering

namespace Openport

open Lib.Ring Lib.BoundedFifo

/-! ## 1. The law -/

/-- A frame of channel `i` brings no more than the room left in the message it is for, and if its
    message is refused the count of refused ones has room for it. -/
structure FrameMeets (i : Fin 10) (s : FrameRun) (r : OpReply) : Prop where
  room : r.channel = i.val → (s.dev.ch i).isData r = true →
    (s.gathering.bytes (s.dev.ch i)).length +
      (brought (s.dev.ch i).iso s.gathering.announced s.gathering.frames r).length ≤ j2534MsgDataMax
  echo : r.channel ≠ i.val → isEcho s.dev r = true → r.bytes.length ≤ j2534MsgDataMax
  counts : ∀ p, s.offer i r = some p → queueRefuses (s.dev.ch i) p.msg = true →
    (s.dev.ch i).dropped ≠ 0xFFFFFFFF

/-- Every frame of a run does. -/
def FramesMeet (i : Fin 10) : FrameRun → List OpReply → Prop
  | _, [] => True
  | s, r :: rs => FrameMeets i s r ∧ FramesMeet i (s.step i r) rs

/-- The books of such a channel: `q` was queued and `n` were refused before. -/
structure Accounted (i : Fin 10) (q : List PassThruMsg) (n : Nat) (s : FrameRun) : Prop where
  attached : Attached i s
  /-- the queue is what was there and the messages put behind it -/
  holds : Holds (s.dev.ch i) (q ++ s.puts.map (·.msg))
  /-- every one of them is all that its frames carried -/
  intact : ∀ p ∈ s.puts, p.Intact
  /-- every other one is counted -/
  counted : (s.dev.ch i).dropped.toNat = n + s.refused

/-- A push adds the message to the queue, or one to the count. -/
theorem queuePush_cases {c : OpChannel} {q : List PassThruMsg} (h : Holds c q) (m : PassThruMsg) :
    (queueRefuses c m = true ∧ Holds (queuePush c m) q ∧
        (queuePush c m).dropped = c.dropped + 1) ∨
      (queueRefuses c m = false ∧ Holds (queuePush c m) (q ++ [m]) ∧
        (queuePush c m).dropped = c.dropped) := by
  cases hr : queueRefuses c m with
  | true =>
      rw [queuePush_refused hr]
      exact Or.inl ⟨rfl, h.congr rfl rfl rfl rfl rfl, rfl⟩
  | false => exact Or.inr ⟨rfl, holds_push h hr, queuePush_dropped hr⟩

/-- A count that is not full counts one more. -/
theorem count_succ {n : UInt32} (h : n ≠ 0xFFFFFFFF) : (n + 1).toNat = n.toNat + 1 := by
  have hlt := n.toNat_lt
  have hne : n.toNat ≠ 4294967295 := fun e => h (UInt32.toNat_inj.mp e)
  rw [UInt32.toNat_add]
  show (n.toNat + 1) % 4294967296 = _
  omega

section Step

variable {i : Fin 10} {q : List PassThruMsg} {n : Nat} {s : FrameRun} {r : OpReply}

/-- The message a frame offers is all that its frames carried. -/
theorem offer_intact (h : Accounted i q n s) (hm : FrameMeets i s r) {p : Put}
    (hp : s.offer i r = some p) : p.Intact := by
  intro bs hbs
  unfold FrameRun.offer at hp
  simp only at hp
  by_cases hi : r.channel = i.val
  · rw [if_pos hi] at hp
    obtain ⟨m, hout, rfl⟩ := Option.map_eq_some_iff.mp hp
    simp only at hbs
    by_cases hd : (s.dev.ch i).isData r = true
    · rw [if_pos hd] at hbs
      have hroom : ((s.gathering.add r).bytes (s.dev.ch i)).length ≤ j2534MsgDataMax := by
        have h1 := hm.room hi hd
        show (carried _ _ _ ++ brought _ _ _ r).length ≤ _
        rw [List.length_append]
        exact h1
      rw [← Option.some.inj hbs, frameOut_carried h.attached.underway hd hout,
        List.take_of_length_le hroom]
    · rw [if_neg hd] at hbs
      cases hbs
  rw [if_neg hi] at hp
  by_cases he : i = 6 ∧ isEcho s.dev r = true
  · rw [if_pos he] at hp
    obtain rfl := Option.some.inj hp
    obtain rfl := Option.some.inj hbs
    have hroom := hm.echo hi he.2
    have htake : r.bytes.take j2534MsgDataMax = r.bytes := List.take_of_length_le hroom
    have hsize : (UInt64.ofNat (r.bytes.take j2534MsgDataMax).length).toNat = r.bytes.length := by
      rw [htake, toNat_dataSize hroom]
    unfold frameMsg PassThruMsg.size
    simp only [if_true, hsize, Nat.min_eq_left hroom]
    exact bytes_dataOf (by simp only [htake])
  · rw [if_neg he] at hp
    cases hp

/-- **One frame keeps the books.** -/
theorem accounted_step (h : Accounted i q n s) (hk : EndKept i s r) (hm : FrameMeets i s r) :
    Accounted i q n (s.step i r) := by
  have hatt := attached_step h.attached hk
  have hch := step_channel h.attached r
  obtain ⟨k1, k2, k3, k4, k5, hdrop, -⟩ := folded_ring i s r
  have hh : Holds (s.folded i r) (q ++ s.puts.map (·.msg)) := h.holds.congr k1 k2 k3 k4 k5
  have hbook : (s.step i r).puts = (s.book i (s.offer i r)).puts ∧
      (s.step i r).refused = (s.book i (s.offer i r)).refused := ⟨rfl, rfl⟩
  cases ho : s.offer i r with
  | none =>
      rw [ho] at hch hbook
      refine ⟨hatt, ?_, ?_, ?_⟩
      · rw [hch, hbook.1]
        exact hh
      · rw [hbook.1]
        exact h.intact
      · have hd : ((s.step i r).dev.ch i).dropped = (s.dev.ch i).dropped := by
          rw [hch]
          exact hdrop
        rw [hd, hbook.2]
        exact h.counted
  | some p =>
      have hintact := offer_intact h hm ho
      have href := folded_refuses i s r p.msg
      have hch' : (s.step i r).dev.ch i = queuePush (s.folded i r) p.msg := by
        rw [hch, ho]
        rfl
      rw [ho] at hbook
      unfold FrameRun.book at hbook
      simp only [← href] at hbook
      rcases queuePush_cases hh p.msg with ⟨hr, hq, hd⟩ | ⟨hr, hq, hd⟩
      · simp only [hr, if_true] at hbook
        refine ⟨hatt, ?_, ?_, ?_⟩
        · rw [hch', hbook.1]
          exact hq
        · rw [hbook.1]
          exact h.intact
        · have hfull := hm.counts p ho (by rw [← href]; exact hr)
          rw [hch', hbook.2, hd, hdrop, count_succ hfull, h.counted, Nat.add_assoc]
      · simp only [hr, Bool.false_eq_true, if_false] at hbook
        refine ⟨hatt, ?_, ?_, ?_⟩
        · rw [hch', hbook.1, List.map_append, ← List.append_assoc]
          exact hq
        · rw [hbook.1]
          intro x hx
          rcases List.mem_append.mp hx with hx | hx
          · exact h.intact x hx
          · rw [List.mem_singleton.mp hx]
            exact hintact
        · rw [hch', hbook.2, hd, hdrop]
          exact h.counted

/-- **A run of frames keeps the books.** -/
theorem accounted_run {rs : List OpReply} (h : Accounted i q n s) (hk : EndsKept i s rs)
    (hm : FramesMeet i s rs) : Accounted i q n (s.run i rs) := by
  induction rs generalizing s with
  | nil => exact h
  | cons r rs ih => exact ih (accounted_step h hk.1 hm.1) hk.2 hm.2

end Step

/-! ## 2. A message longer than the buffer -/

/-- A device with ISO 9141 open on channel 3 and an allocated, empty queue. -/
def kLineDevice : OpDevice :=
  { opened := true
    ch := fun i => if i = 3 then { isOpen := true, protocol := 3, rq := some fun _ => 0 } else {} }

/-- A frame of 250 data bytes for channel 3. -/
def kLineFrame (status : UInt8) : OpReply :=
  { kind := .frame, channel := 3, status := status, data := some (List.replicate 250 0x55) }

theorem kLineFrame_length (status : UInt8) : (kLineFrame status).bytes.length = 250 :=
  List.length_replicate

theorem kLineFrame_carries : (kLineFrame 0).Carries := ⟨rfl, rfl, rfl⟩

theorem kLineFrame_closes : (kLineFrame opStsEnd).Closes := ⟨rfl, rfl⟩

/-- The run has a K-line on channel 3, with nothing under way. -/
theorem kLineDevice_attached : Attached 3 { dev := kLineDevice } :=
  ⟨rfl, by decide, underway_idle rfl fun _ => rfl⟩

/-- A channel of the same protocol loses no END to frames without START. -/
theorem kLine_endsKept {s : FrameRun} (h : Attached 3 s) {rs : List OpReply}
    (hrs : ∀ r ∈ rs, r.Carries ∨ r.Closes) : EndsKept 3 s rs := by
  induction rs generalizing s with
  | nil => trivial
  | cons r rs ih =>
      have hkept : EndKept 3 s r := by
        intro _ hx
        rcases hrs r List.mem_cons_self with hr | hr
        · rw [(carries_frame h.base hr).1] at hx
          cases hx
        · rw [(closes_frame h.base hr).1] at hx
          cases hx
      exact ⟨hkept, ih (attached_step h hkept) fun x hx => hrs x (List.mem_cons_of_mem _ hx)⟩

/-- **A message of 4250 bytes is delivered as one of 4128, and no count says so**: seventeen
    frames of 250 bytes on a K-line, the last with END. -/
theorem reassembly_truncates : ¬∀ (i : Fin 10) (d : OpDevice) (g : Gathering)
    (q : List PassThruMsg) (rs : List OpReply), (d.ch i).isOpen = true → (d.ch i).base ≠ can →
    Underway (d.ch i) g → Holds (d.ch i) q → EndsKept i { dev := d, gathering := g } rs →
    (∀ p ∈ (({ dev := d, gathering := g } : FrameRun).run i rs).puts, p.Intact) ∨
      (d.ch i).dropped <
        ((({ dev := d, gathering := g } : FrameRun).run i rs).dev.ch i).dropped := by
  intro hall
  have h := hall 3 kLineDevice {} [] (List.replicate 16 (kLineFrame 0) ++ [kLineFrame opStsEnd])
    rfl (by decide) (underway_idle rfl fun _ => rfl)
    (holds_empty (c := kLineDevice.ch 3) (m := fun _ => 0) rfl rfl rfl rfl rfl)
    (kLine_endsKept kLineDevice_attached fun r hr => ?_)
  · have hcarry : ∀ r ∈ List.replicate 16 (kLineFrame 0), r.channel = 3 ∧ r.Carries := by
      intro r hr
      rw [List.eq_of_mem_replicate hr]
      exact ⟨rfl, kLineFrame_carries⟩
    obtain ⟨h1, h2, h3, h4⟩ := carries_run kLineDevice_attached hcarry
    have hrun : ({ dev := kLineDevice } : FrameRun).run 3
        (List.replicate 16 (kLineFrame 0) ++ [kLineFrame opStsEnd]) =
        (({ dev := kLineDevice } : FrameRun).run 3 (List.replicate 16 (kLineFrame 0))).step 3
          (kLineFrame opStsEnd) := by
      unfold FrameRun.run
      rw [List.foldl_append]
      rfl
    rw [hrun] at h
    generalize ({ dev := kLineDevice } : FrameRun).run 3 (List.replicate 16 (kLineFrame 0)) = s at *
    obtain ⟨-, hcase⟩ := closes_step h1 rfl kLineFrame_closes
    have hsz := ((s.dev.ch 3).nextPartial (kLineFrame opStsEnd)).size_le
    have hmax : j2534MsgDataMax = 4128 := rfl
    have hused : (s.dev.ch 3).rqUsed = 0 := h4.used
    rcases hcase with ⟨href, -⟩ | ⟨-, hputs, hdrop⟩
    · -- the ring is empty, so nothing is refused
      obtain ⟨mem, hm⟩ := Option.isSome_iff_exists.mp (h4.buffer.trans rfl)
      unfold queueRefuses at href
      rw [hm, hused] at href
      have hlt : opRxqBytes < 0 + qhdrSize +
        ((s.dev.ch 3).nextPartial (kLineFrame opStsEnd)).size :=
        of_decide_eq_true href
      have hq : qhdrSize = 24 := rfl
      have hcap : opRxqBytes = 1048576 := rfl
      omega
    rcases h with h | h
    · -- 4250 bytes were carried, and no message is longer than 4128
      have hputs' : (s.step 3 (kLineFrame opStsEnd)).puts =
          [{ carried := some ((s.gathering.add (kLineFrame opStsEnd)).bytes (s.dev.ch 3))
             msg := (s.dev.ch 3).nextPartial (kLineFrame opStsEnd) }] := by
        rw [hputs, h2]
        rfl
      rw [hputs'] at h
      have hp := h _ (List.mem_singleton.mpr rfl) _ rfl
      have hlen := congrArg List.length hp
      have hiso : (s.dev.ch 3).iso = false := by
        have hprot : (s.dev.ch 3).protocol = 3 := h4.protocol
        unfold OpChannel.iso OpChannel.base
        rw [hprot]
        decide
      have hcar : ((s.gathering.add (kLineFrame opStsEnd)).bytes (s.dev.ch 3)).length = 4250 := by
        unfold Gathering.bytes Gathering.add
        rw [h3, hiso, carried_kLine]
        simp [kLineFrame_length]
      rw [PassThruMsg.bytes_length, hcar] at hlen
      have hlen' : ((s.dev.ch 3).nextPartial (kLineFrame opStsEnd)).size = 4250 := hlen
      omega
    · have hzero : (s.dev.ch 3).dropped = 0 := h4.dropped
      rw [hdrop, hzero] at h
      exact absurd h (by decide)
  · rcases List.mem_append.mp hr with hr | hr
    · rw [List.eq_of_mem_replicate hr]
      exact Or.inl kLineFrame_carries
    · rw [List.mem_singleton.mp hr]
      exact Or.inr kLineFrame_closes

end Openport
