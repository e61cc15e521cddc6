/-
  File:      Openport/Transport/Write.lean
  Subject:   `usb_write` (`src/op_usb.c`) and `ser_write` with `wait_ready` and
             `from_errno` (`src/op_serial.c`).

  What the calls below answer is an argument, one entry for each turn of the
  loop; when the entries run out the loop is still running. The handle, the
  endpoint and the time a call may take are left out: they are the same in
  every turn. Both loops are `Lib.Sending.send` read through the turns.
-/
import Openport.Lib.Sending
import Openport.Transport.Usb

namespace Openport

open Lib.Sending

/-- A write handed to a device: the status it returned, if it did, and the bytes the device
    took. -/
abbrev Written := Sent UInt8 OpStatus

/-! ## 1. `usb_write` -/

namespace Usb

/-- What one `libusb_bulk_transfer` answers: its result, and how many bytes it moved. -/
structure BulkOutcome where
  result : LibusbResult
  moved : Nat
  deriving DecidableEq, Repr

/-- `INT_MAX`. -/
def intMax : Nat := 2147483647

/-- The loop of `usb_write`, from byte `sent` on. -/
def usbWriteLoop (buf : Bytes) (sent : Nat) : List BulkOutcome → Written
  | [] => if sent < buf.length then ⟨none, []⟩ else ⟨some .ok, []⟩
  | o :: os =>
    if sent < buf.length then
      let piece := (buf.drop sent).take o.moved
      if o.result ≠ .success then
        if o.result = .timeout ∧ 0 < o.moved then
          (usbWriteLoop buf (sent + o.moved) os).after piece
        else if o.result = .timeout then ⟨some .stalled, piece⟩
        else ⟨some (fromLibusb o.result), piece⟩
      else if o.moved = 0 then ⟨some .io, piece⟩
      else (usbWriteLoop buf (sent + o.moved) os).after piece
    else ⟨some .ok, []⟩

/-- `usb_write`. -/
def usbWrite (buf : Bytes) (outcomes : List BulkOutcome) : Written :=
  if intMax < buf.length then ⟨some .param, []⟩ else usbWriteLoop buf 0 outcomes

end Usb

/-! ## 2. `ser_write` -/

namespace Serial

/-- The values of `errno` the transport tells apart. -/
inductive Errno where
  | enoent | eacces | ebusy | eagain | einval | eintr
  | other (code : Nat)
  deriving DecidableEq, Repr

/-- `from_errno`. -/
def fromErrno : Errno → OpStatus
  | .enoent => .noDevice
  | .eacces => .access
  | .ebusy => .access
  | .eagain => .timeout
  | .einval => .param
  | .eintr => .io
  | .other _ => .io

/-- What `poll` answers: an error, nothing in time, or the events of the descriptor. -/
inductive PollResult where
  | failed (e : Errno)
  | timedOut
  | ready (error hup input : Bool)
  deriving DecidableEq, Repr

/-- `wait_ready`, over the answers of `poll`; without a further one it is still waiting. -/
def waitReady : List PollResult → Option OpStatus
  | [] => none
  | .failed e :: ps => if e = .eintr then waitReady ps else some (fromErrno e)
  | .timedOut :: _ => some .timeout
  | .ready error hup input :: _ =>
    if error then some .io
    else if hup && !input then some .noDevice
    else some .ok

/-- What `write` answers. -/
inductive WriteResult where
  | wrote (n : Nat)
  | failed (e : Errno)
  deriving DecidableEq, Repr

/-- What the calls of one turn of the loop answer. -/
structure SerTurn where
  polls : List PollResult
  write : WriteResult
  deriving DecidableEq, Repr

/-- The loop of `ser_write`, from byte `sent` on. -/
def serWriteLoop (buf : Bytes) (sent : Nat) : List SerTurn → Written
  | [] => if sent < buf.length then ⟨none, []⟩ else ⟨some .ok, []⟩
  | t :: ts =>
    if sent < buf.length then
      match waitReady t.polls with
      | none => ⟨none, []⟩
      | some st =>
        if st = .timeout then ⟨some .stalled, []⟩
        else if st ≠ .ok then ⟨some st, []⟩
        else
          match t.write with
          | .failed e =>
            if e = .eintr ∨ e = .eagain then serWriteLoop buf sent ts
            else ⟨some (fromErrno e), []⟩
          | .wrote n =>
            if n = 0 then ⟨some .io, []⟩
            else (serWriteLoop buf (sent + n) ts).after ((buf.drop sent).take n)
    else ⟨some .ok, []⟩

/-- `ser_write`. -/
def serWrite (buf : Bytes) (turns : List SerTurn) : Written := serWriteLoop buf 0 turns

end Serial

/-! ## 3. The loops as one -/

/-- What a turn of `usb_write` comes to. -/
def Usb.BulkOutcome.turn (o : Usb.BulkOutcome) : Turn OpStatus :=
  if o.result ≠ .success then
    if o.result = .timeout ∧ 0 < o.moved then .go o.moved
    else if o.result = .timeout then .stop .stalled o.moved
    else .stop (Usb.fromLibusb o.result) o.moved
  else if o.moved = 0 then .stop .io 0
  else .go o.moved

theorem Usb.usbWriteLoop_cons {buf : Bytes} {sent : Nat} (h : sent < buf.length)
    (o : Usb.BulkOutcome) (os : List Usb.BulkOutcome) :
    Usb.usbWriteLoop buf sent (o :: os) =
      o.turn.run buf sent fun n => Usb.usbWriteLoop buf n os := by
  simp only [Usb.usbWriteLoop, Usb.BulkOutcome.turn, if_pos h]
  by_cases hs : o.result = .success
  · by_cases hm : o.moved = 0
    · simp [hs, hm, Turn.run]
    · simp [hs, hm, Turn.run]
  · by_cases ht : o.result = .timeout
    · by_cases hm : 0 < o.moved
      · simp [ht, hm, Turn.run]
      · simp [ht, hm, Turn.run]
    · simp [hs, ht, Turn.run]

/-- `usb_write`'s loop is the loop over its turns. -/
theorem Usb.usbWriteLoop_eq (buf : Bytes) (os : List Usb.BulkOutcome) (sent : Nat) :
    Usb.usbWriteLoop buf sent os = send .ok buf sent (os.map Usb.BulkOutcome.turn) := by
  induction os generalizing sent with
  | nil => rfl
  | cons o os ih =>
      by_cases h : sent < buf.length
      · rw [Usb.usbWriteLoop_cons h, List.map_cons, send_cons OpStatus.ok buf h, funext ih]
      · rw [List.map_cons, send_done OpStatus.ok buf h]
        exact if_neg h

/-- What a turn of `ser_write` comes to. -/
def Serial.SerTurn.turn (t : Serial.SerTurn) : Turn OpStatus :=
  match Serial.waitReady t.polls with
  | none => .hang
  | some st =>
    if st = .timeout then .stop .stalled 0
    else if st ≠ .ok then .stop st 0
    else
      match t.write with
      | .failed e =>
        if e = .eintr ∨ e = .eagain then .go 0 else .stop (Serial.fromErrno e) 0
      | .wrote n => if n = 0 then .stop .io 0 else .go n

theorem Serial.serWriteLoop_cons {buf : Bytes} {sent : Nat} (h : sent < buf.length)
    (t : Serial.SerTurn) (ts : List Serial.SerTurn) :
    Serial.serWriteLoop buf sent (t :: ts) =
      t.turn.run buf sent fun n => Serial.serWriteLoop buf n ts := by
  have htake : (buf.drop sent).take 0 = [] := List.take_zero
  simp only [Serial.serWriteLoop, Serial.SerTurn.turn, if_pos h]
  cases Serial.waitReady t.polls with
  | none => rfl
  | some st =>
      by_cases ht : st = .timeout
      · simp [ht, Turn.run]
      by_cases ho : st = .ok
      · cases t.write with
        | failed e =>
            by_cases he : e = .eintr ∨ e = .eagain
            · simp [ho, he, Turn.run, Sent.after]
            · simp [ho, he, Turn.run]
        | wrote n =>
            by_cases hn : n = 0
            · simp [ho, hn, Turn.run]
            · simp [ho, hn, Turn.run]
      · simp [ht, ho, Turn.run]

/-- `ser_write`'s loop is the loop over its turns. -/
theorem Serial.serWriteLoop_eq (buf : Bytes) (ts : List Serial.SerTurn) (sent : Nat) :
    Serial.serWriteLoop buf sent ts = send .ok buf sent (ts.map Serial.SerTurn.turn) := by
  induction ts generalizing sent with
  | nil => rfl
  | cons t ts ih =>
      by_cases h : sent < buf.length
      · rw [Serial.serWriteLoop_cons h, List.map_cons, send_cons OpStatus.ok buf h, funext ih]
      · rw [List.map_cons, send_done OpStatus.ok buf h]
        exact if_neg h

/-! ## 4. When a write says what the device took -/

/-- The call moved bytes and the loop goes on: a transfer, whole or short, or a timeout behind
    some bytes. -/
def Usb.BulkOutcome.Progress (o : Usb.BulkOutcome) : Prop :=
  (o.result = .success ∨ o.result = .timeout) ∧ 0 < o.moved

/-- How many bytes some calls moved. -/
def Usb.movedBy (os : List Usb.BulkOutcome) : Nat := (os.map Usb.BulkOutcome.moved).sum

/-- No call the loop makes times out with nothing moved behind one that moved bytes, and none
    fails otherwise having moved all that was left. -/
def Usb.Truthful (len : Nat) (os : List Usb.BulkOutcome) : Prop :=
  ∀ pre o post, os = pre ++ o :: post → (∀ p ∈ pre, Usb.BulkOutcome.Progress p) →
    Usb.movedBy pre < len →
    (o.result = .timeout → o.moved = 0 → Usb.movedBy pre = 0) ∧
    (o.result ≠ .success → o.result ≠ .timeout → Usb.movedBy pre + o.moved < len)

/-- The loop goes on behind the turn: bytes were written, or `write` was interrupted or had no
    room. -/
def Serial.SerTurn.Progress (t : Serial.SerTurn) : Prop :=
  Serial.waitReady t.polls = some .ok ∧
    match t.write with
    | .wrote n => 0 < n
    | .failed e => e = .eintr ∨ e = .eagain

/-- How many bytes a turn wrote. -/
def Serial.SerTurn.wrote (t : Serial.SerTurn) : Nat :=
  match t.write with
  | .wrote n => n
  | .failed _ => 0

/-- How many bytes some turns wrote. -/
def Serial.wroteBy (ts : List Serial.SerTurn) : Nat := (ts.map Serial.SerTurn.wrote).sum

/-- No wait of the loop times out behind a `write` that took bytes. -/
def Serial.Truthful (len : Nat) (ts : List Serial.SerTurn) : Prop :=
  ∀ pre t post, ts = pre ++ t :: post → (∀ p ∈ pre, Serial.SerTurn.Progress p) →
    Serial.wroteBy pre < len → Serial.waitReady t.polls = some .timeout → Serial.wroteBy pre = 0

/-- The turns of some calls that moved bytes, and how many they moved. -/
theorem Usb.turns_progress {pre : List Usb.BulkOutcome}
    (h : ∀ p ∈ pre, Usb.BulkOutcome.Progress p) :
    (∀ t ∈ pre.map Usb.BulkOutcome.turn, Turn.Goes t) ∧
      total (pre.map Usb.BulkOutcome.turn) = Usb.movedBy pre := by
  induction pre with
  | nil => exact ⟨fun _ hm => absurd hm List.not_mem_nil, rfl⟩
  | cons p pre ih =>
      obtain ⟨hp, hpre⟩ := List.forall_mem_cons.mp h
      obtain ⟨hgo, hsum⟩ := ih hpre
      have hturn : p.turn = .go p.moved := by
        obtain ⟨hr, hm⟩ := hp
        unfold Usb.BulkOutcome.turn
        rcases hr with hr | hr
        · rw [hr, if_neg (fun hne => hne rfl), if_neg (by omega)]
        · rw [hr, if_pos (fun e => (nomatch e)), if_pos ⟨rfl, hm⟩]
      rw [List.map_cons, hturn]
      refine ⟨List.forall_mem_cons.mpr ⟨⟨_, rfl⟩, hgo⟩, ?_⟩
      show p.moved + total (pre.map Usb.BulkOutcome.turn) = _
      rw [hsum]
      exact List.sum_cons.symm

/-- A call that goes on moved bytes. -/
theorem Usb.progress_of_goes {o : Usb.BulkOutcome} (h : Turn.Goes o.turn) : o.Progress := by
  obtain ⟨n, hn⟩ := h
  unfold Usb.BulkOutcome.turn at hn
  split at hn
  · split at hn
    · rename_i ht
      exact ⟨.inr ht.1, ht.2⟩
    · split at hn
      · cases hn
      · cases hn
  · rename_i hs
    split at hn
    · cases hn
    · rename_i hm
      exact ⟨.inl (Classical.byContradiction hs), Nat.pos_of_ne_zero hm⟩

theorem Usb.right_iff (len : Nat) (os : List Usb.BulkOutcome) :
    Right OpStatus.ok .stalled len 0 (os.map Usb.BulkOutcome.turn) ↔ Usb.Truthful len os := by
  refine ⟨?_, ?_⟩
  · intro hr pre o post hs hp hlt
    obtain ⟨hgo, hsum⟩ := Usb.turns_progress hp
    have hends : ∀ e n, o.turn = .stop e n →
        (e = OpStatus.ok ↔ len ≤ Usb.movedBy pre + n) ∧
          (e = OpStatus.stalled → Usb.movedBy pre + n = 0) := fun e n he => by
      have h := hr (pre.map Usb.BulkOutcome.turn) e n (post.map Usb.BulkOutcome.turn)
        (by rw [hs, List.map_append, List.map_cons, he]) hgo (by rw [hsum]; omega)
      rw [hsum, Nat.zero_add] at h
      exact h
    refine ⟨?_, ?_⟩
    · intro ht hm
      have hstop : o.turn = .stop .stalled 0 := by
        unfold Usb.BulkOutcome.turn
        rw [ht, hm]
        rfl
      exact (hends _ _ hstop).2 rfl
    · intro hns hnt
      have hstop : o.turn = .stop (Usb.fromLibusb o.result) o.moved := by
        unfold Usb.BulkOutcome.turn
        rw [if_pos hns, if_neg (fun h => hnt h.1), if_neg hnt]
      have hne : ¬Usb.fromLibusb o.result = .ok := fun e => hns (Usb.fromLibusb_eq_ok.mp e)
      exact Nat.lt_of_not_le fun hle => hne ((hends _ _ hstop).1.mpr hle)
  · intro ht pre' e n post' hs hp hlt
    obtain ⟨pre, rest, rfl, rfl, hrest⟩ := List.map_eq_append_iff.mp hs
    obtain ⟨o, post, rfl, ho, -⟩ := List.map_eq_cons_iff.mp hrest
    have hprog : ∀ p ∈ pre, Usb.BulkOutcome.Progress p := fun p hm =>
      Usb.progress_of_goes (hp _ (List.mem_map_of_mem hm))
    rw [(Usb.turns_progress hprog).2] at hlt ⊢
    rw [Nat.zero_add] at hlt ⊢
    obtain ⟨htime, herr⟩ := ht pre o post rfl hprog hlt
    unfold Usb.BulkOutcome.turn at ho
    by_cases hsu : o.result = .success
    · rw [if_neg (fun hne => hne hsu)] at ho
      by_cases hm : o.moved = 0
      · rw [if_pos hm] at ho
        cases ho
        exact ⟨iff_of_false (fun e => (nomatch e)) (by omega), fun e => (nomatch e)⟩
      · rw [if_neg hm] at ho
        cases ho
    rw [if_pos hsu] at ho
    by_cases hti : o.result = .timeout
    · by_cases hm : 0 < o.moved
      · rw [if_pos ⟨hti, hm⟩] at ho
        cases ho
      · rw [if_neg (fun h => hm h.2), if_pos hti] at ho
        cases ho
        have hz := htime hti (by omega)
        exact ⟨iff_of_false (fun e => (nomatch e)) (by omega), fun _ => by omega⟩
    · rw [if_neg (fun h => hti h.1), if_neg hti] at ho
      cases ho
      have hlt' := herr hsu hti
      refine ⟨iff_of_false (fun e => hsu (Usb.fromLibusb_eq_ok.mp e)) (by omega), ?_⟩
      intro e
      cases hres : o.result <;> rw [hres] at e <;> exact (nomatch e)

theorem Serial.waitReady_ne_stalled (ps : List Serial.PollResult) :
    Serial.waitReady ps ≠ some .stalled := by
  induction ps with
  | nil => exact fun e => (nomatch e)
  | cons p ps ih =>
      cases p with
      | timedOut => exact fun e => (nomatch e)
      | failed e =>
          unfold Serial.waitReady
          split
          · exact ih
          · cases e <;> exact fun e => (nomatch e)
      | ready error hup input =>
          unfold Serial.waitReady
          split
          · exact fun e => (nomatch e)
          split <;> exact fun e => (nomatch e)

/-- The turns behind which the loop goes on, and how many bytes they wrote. -/
theorem Serial.turns_progress {pre : List Serial.SerTurn}
    (h : ∀ p ∈ pre, Serial.SerTurn.Progress p) :
    (∀ t ∈ pre.map Serial.SerTurn.turn, Turn.Goes t) ∧
      total (pre.map Serial.SerTurn.turn) = Serial.wroteBy pre := by
  induction pre with
  | nil => exact ⟨fun _ hm => absurd hm List.not_mem_nil, rfl⟩
  | cons p pre ih =>
      obtain ⟨⟨hw, hp⟩, hpre⟩ := List.forall_mem_cons.mp h
      obtain ⟨hgo, hsum⟩ := ih hpre
      have hturn : p.turn = .go p.wrote := by
        unfold Serial.SerTurn.turn Serial.SerTurn.wrote
        rw [hw]
        cases hwr : p.write with
        | wrote n =>
            rw [hwr] at hp
            exact if_neg (Nat.pos_iff_ne_zero.mp hp)
        | failed e =>
            rw [hwr] at hp
            exact if_pos hp
      rw [List.map_cons, hturn]
      refine ⟨List.forall_mem_cons.mpr ⟨⟨_, rfl⟩, hgo⟩, ?_⟩
      show p.wrote + total (pre.map Serial.SerTurn.turn) = _
      rw [hsum]
      exact List.sum_cons.symm

/-- A turn behind which the loop goes on found room. -/
theorem Serial.progress_of_goes {t : Serial.SerTurn} (h : Turn.Goes t.turn) : t.Progress := by
  obtain ⟨n, hn⟩ := h
  unfold Serial.SerTurn.turn at hn
  unfold Serial.SerTurn.Progress
  cases hw : Serial.waitReady t.polls with
  | none =>
      rw [hw] at hn
      cases hn
  | some st =>
      rw [hw] at hn
      simp only at hn
      split at hn
      · cases hn
      split at hn
      · cases hn
      rename_i ho
      refine ⟨congrArg some (Classical.byContradiction ho), ?_⟩
      cases hwr : t.write with
      | wrote k =>
          rw [hwr] at hn
          simp only at hn
          split at hn
          · cases hn
          · rename_i hk
            exact Nat.pos_of_ne_zero hk
      | failed e =>
          rw [hwr] at hn
          simp only at hn
          split at hn
          · rename_i he
            exact he
          · cases hn

/-- A turn that ends the loop takes nothing: `OP_ERR_STALLED` is a wait that timed out, and no
    turn ends it with `OP_OK`. -/
theorem Serial.turn_stop {t : Serial.SerTurn} {e : OpStatus} {n : Nat} (h : t.turn = .stop e n) :
    n = 0 ∧ e ≠ .ok ∧ (e = .stalled → Serial.waitReady t.polls = some .timeout) := by
  unfold Serial.SerTurn.turn at h
  cases hw : Serial.waitReady t.polls with
  | none =>
      rw [hw] at h
      cases h
  | some st =>
      rw [hw] at h
      simp only at h
      split at h
      · rename_i ht
        cases h
        exact ⟨rfl, (fun e => (nomatch e)), fun _ => by rw [ht]⟩
      split at h
      · rename_i ho
        cases h
        refine ⟨rfl, ho, ?_⟩
        intro e
        rw [e] at hw
        exact absurd hw (Serial.waitReady_ne_stalled _)
      cases hwr : t.write with
      | wrote k =>
          rw [hwr] at h
          simp only at h
          split at h
          · cases h
            exact ⟨rfl, (fun e => (nomatch e)), fun e => (nomatch e)⟩
          · cases h
      | failed err =>
          rw [hwr] at h
          simp only at h
          split at h
          · cases h
          · cases h
            refine ⟨rfl, ?_, ?_⟩
            · cases err <;> exact fun e => (nomatch e)
            · cases err <;> exact fun e => (nomatch e)

theorem Serial.right_iff (len : Nat) (ts : List Serial.SerTurn) :
    Right OpStatus.ok .stalled len 0 (ts.map Serial.SerTurn.turn) ↔ Serial.Truthful len ts := by
  refine ⟨?_, ?_⟩
  · intro hr pre t post hs hp hlt hw
    obtain ⟨hgo, hsum⟩ := Serial.turns_progress hp
    have hstop : t.turn = .stop .stalled 0 := by
      unfold Serial.SerTurn.turn
      rw [hw]
      rfl
    have h := hr (pre.map Serial.SerTurn.turn) .stalled 0 (post.map Serial.SerTurn.turn)
      (by rw [hs, List.map_append, List.map_cons, hstop]) hgo (by rw [hsum]; omega)
    rw [hsum] at h
    have hz := h.2 rfl
    omega
  · intro ht pre' e n post' hs hp hlt
    obtain ⟨pre, rest, rfl, rfl, hrest⟩ := List.map_eq_append_iff.mp hs
    obtain ⟨t, post, rfl, hstop, -⟩ := List.map_eq_cons_iff.mp hrest
    have hprog : ∀ p ∈ pre, Serial.SerTurn.Progress p := fun p hm =>
      Serial.progress_of_goes (hp _ (List.mem_map_of_mem hm))
    obtain ⟨rfl, hne, hst⟩ := Serial.turn_stop hstop
    rw [(Serial.turns_progress hprog).2] at hlt ⊢
    refine ⟨iff_of_false hne (by omega), ?_⟩
    intro e
    have hz := ht pre t post rfl hprog (by omega) (hst e)
    omega

/-- **What a write returns says what the device took**: the bytes taken are the front of the
    buffer, `OP_OK` means all of it and `OP_ERR_STALLED` none of it, for every buffer and every
    outcome of the calls below exactly where those are `Truthful`. -/
theorem write_exact_iff (buf : Bytes) :
    (∀ outcomes, Exact OpStatus.ok .stalled buf (Usb.usbWrite buf outcomes) ↔
      (buf.length ≤ Usb.intMax → Usb.Truthful buf.length outcomes)) ∧
    (∀ turns, Exact OpStatus.ok .stalled buf (Serial.serWrite buf turns) ↔
      Serial.Truthful buf.length turns) := by
  have hne : OpStatus.ok ≠ .stalled := fun e => (nomatch e)
  refine ⟨?_, ?_⟩
  · intro outcomes
    unfold Usb.usbWrite
    by_cases hl : Usb.intMax < buf.length
    · rw [if_pos hl]
      refine iff_of_true ⟨List.nil_prefix, ?_, fun _ => rfl⟩ fun hle => by omega
      intro e he
      rw [← Option.some.inj he]
      refine iff_of_false (fun e => (nomatch e)) ?_
      intro hb
      rw [← show ([] : Bytes) = buf from hb] at hl
      exact absurd hl (Nat.not_lt_zero _)
    · rw [if_neg hl, Usb.usbWriteLoop_eq, exact_iff buf hne, Usb.right_iff]
      exact ⟨fun h _ => h, fun h => h (Nat.le_of_not_lt hl)⟩
  · intro turns
    unfold Serial.serWrite
    rw [Serial.serWriteLoop_eq, exact_iff buf hne, Serial.right_iff]

/-- **Both writes report a stall behind a byte the device took**: one byte moves before the
    timeout, and the next call times out with nothing. -/
theorem write_stalls_late :
    ¬Exact OpStatus.ok .stalled [0x61, 0x74]
      (Usb.usbWrite [0x61, 0x74] [⟨.timeout, 1⟩, ⟨.timeout, 0⟩]) ∧
    ¬Exact OpStatus.ok .stalled [0x61, 0x74]
      (Serial.serWrite [0x61, 0x74]
        [⟨[.ready false false false], .wrote 1⟩, ⟨[.timedOut], .wrote 0⟩]) := by
  refine ⟨?_, ?_⟩
  · intro h
    exact absurd (h.nothing rfl) (List.cons_ne_nil _ _)
  · intro h
    exact absurd (h.nothing rfl) (List.cons_ne_nil _ _)

end Openport
