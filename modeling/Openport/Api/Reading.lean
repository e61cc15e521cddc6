/-
  File:      Openport/Api/Reading.lean
  Subject:   `PassThruReadMsgs` over a history of calls: the time it may wait, the
             messages it delivers, and the code it returns.

  A call waits no longer than what is left of its Timeout, and is over once that
  has gone by and the queue gives no more. What the calls of a history deliver is
  what was put in the queue, in order, without a gap. The code says that
  messages were dropped unless their count, 32 bits wide, has come round to zero
  (`reads_exact`).
-/
import Openport.Device.Fed
import Openport.Device.Reads
import Openport.Api.Messages

namespace Openport

open Lib.Ring Lib.BoundedFifo

/-! ## 1. The time that is left -/

/-- A reading of the clock in microseconds. -/
def Timeval.us (t : Timeval) : Int := t.sec * 1000000 + t.usec

/-- The whole milliseconds that have gone by. -/
def wholeMs (start now : Timeval) : Nat := ((now.us - start.us) / 1000).toNat

/-- `elapsed_ms` cuts the microseconds' part towards zero, so it may be one ahead, never behind. -/
theorem wholeMs_le (start now : Timeval) : wholeMs start now ≤ (elapsedMs start now).toNat := by
  unfold wholeMs elapsedMs Timeval.us
  have hcut : (now.usec - start.usec) / 1000 ≤ (now.usec - start.usec).tdiv 1000 := by
    rw [Int.tdiv_eq_ediv]
    split
    · omega
    · exact Int.le_add_of_nonneg_right (by decide)
  omega

/-- **A wait is at most what is left of the Timeout.** -/
theorem readWait_le (timeout : UInt64) (start now : Timeval) :
    (readWait timeout (elapsedMs start now)).toNat ≤
      min (timeout.toNat - wholeMs start now) 0xFFFFFFFF := by
  have hle := wholeMs_le start now
  unfold readWait
  by_cases h : (elapsedMs start now).toNat < timeout.toNat
  · rw [if_pos h, UInt32.toNat_ofNat']
    omega
  · rw [if_neg h]
    exact Nat.zero_le _

/-- Once the Timeout has gone by there is nothing left to wait. -/
theorem readWait_spent {timeout : UInt64} {start now : Timeval}
    (h : timeout.toNat ≤ wholeMs start now) : readWait timeout (elapsedMs start now) = 0 := by
  have hle := wholeMs_le start now
  unfold readWait
  rw [if_neg (by omega)]

/-- The clock does not go back. -/
def NoGoingBack (clock : Nat → Timeval) : Prop := ∀ m n, m ≤ n → (clock m).us ≤ (clock n).us

theorem wholeMs_mono {clock : Nat → Timeval} (h : NoGoingBack clock) {m n : Nat} (hmn : m ≤ n) :
    wholeMs (clock 0) (clock m) ≤ wholeMs (clock 0) (clock n) := by
  have := h m n hmn
  unfold wholeMs
  omega

/-! ## 2. The loop -/

/-- What arrives for the queue in the turns the loop makes. -/
def readFeed (env : CallEnv) (i : Fin 10) (want timeout : UInt64) :
    Nat → Nat → List PassThruMsg → OpDevice → Feed
  | 0, _, _, _ => {}
  | fuel + 1, turn, got, d =>
    let fed := arrivalsFeed i d (env.wait turn)
    let p := opDevicePop (arrivals d (env.wait turn)) i
    match p.1, p.2.1 with
    | .ok, some m =>
      if want.toNat ≤ got.length + 1 then fed
      else fed.and (readFeed env i want timeout fuel (turn + 1) (got ++ [m]) p.2.2)
    | .timeout, _ =>
      if readWait timeout (elapsedMs (env.clock 0) (env.clock (turn + 1))) = 0 then fed
      else fed.and (readFeed env i want timeout fuel (turn + 1) got p.2.2)
    | _, _ => fed

section Loop

variable {env : CallEnv} {i : Fin 10} {want timeout : UInt64}

/-- **The loop ends once the Timeout has gone by**: from then on every turn but the last
    delivers a message. -/
theorem readLoop_ends (hclock : NoGoingBack env.clock) {spent : Nat}
    (hspent : timeout.toNat ≤ wholeMs (env.clock 0) (env.clock (spent + 1))) :
    ∀ {fuel turn : Nat} {got : List PassThruMsg} {d : OpDevice}, got.length < want.toNat →
      spent - turn + (want.toNat - got.length) ≤ fuel →
      readLoop env i want timeout fuel turn got d ≠ none
  | 0, turn, got, d, hgot, hfuel => by omega
  | fuel + 1, turn, got, d, hgot, hfuel => by
      unfold readLoop
      simp only
      generalize opDevicePop (arrivals d (env.wait turn)) i = p
      obtain ⟨st, m, d'⟩ := p
      cases st with
      | ok =>
          cases m with
          | none => exact fun e => (nomatch e)
          | some m =>
              simp only
              by_cases hw : want.toNat ≤ got.length + 1
              · rw [if_pos hw]
                exact fun e => (nomatch e)
              · rw [if_neg hw]
                have hlen : (got ++ [m]).length = got.length + 1 := List.length_append
                exact readLoop_ends hclock hspent (by omega) (by omega)
      | timeout =>
          simp only
          by_cases hz : readWait timeout (elapsedMs (env.clock 0) (env.clock (turn + 1))) = 0
          · rw [if_pos hz]
            exact fun e => (nomatch e)
          · rw [if_neg hz]
            -- there is time left, so this turn is before the one the Timeout ends in
            have hturn : turn < spent := Nat.lt_of_not_le fun hle =>
              hz (readWait_spent (Nat.le_trans hspent
                (wholeMs_mono hclock (Nat.succ_le_succ hle))))
            exact readLoop_ends hclock hspent hgot (by omega)
      | io | noDevice | access | massStorage | param | overflow | protocol | stalled =>
          exact fun e => (nomatch e)

/-- The queue at the end of a loop that put `got` behind what it had. -/
structure LoopEnd (i : Fin 10) (want : Nat) (all got : List PassThruMsg) (n : Nat)
    (r : ReadLoop) : Prop where
  fifo : ∃ gone rest more, all = gone ++ rest ∧ List.Forall₂ SameMessage gone more ∧
    r.got = got ++ more ∧ Queued i r.dev rest n
  count : r.got.length ≤ want
  opened : r.dev.opened = true
  lost : r.dev.lost = r.closed

/-- **What the loop pops is the front of the queue**, and the rest is still there. -/
theorem readLoop_fifo {r : ReadLoop} : ∀ {fuel turn : Nat} {got q : List PassThruMsg} {n : Nat}
    {d : OpDevice}, Queued i d q n → d.opened = true → got.length < want.toNat →
    readLoop env i want timeout fuel turn got d = some r →
    LoopEnd i want.toNat (q ++ (readFeed env i want timeout fuel turn got d).put) got
      (n + (readFeed env i want timeout fuel turn got d).refused) r
  | 0, _, _, _, _, _, _, _, _, h => by cases h
  | fuel + 1, turn, got, q, n, d, hq, hop, hgot, h => by
      have hfed := queued_arrivals (env.wait turn) hq
      have hop' : (arrivals d (env.wait turn)).opened = true :=
        (arrivals_steady d (env.wait turn)).opened.trans hop
      unfold readLoop at h
      unfold readFeed
      simp only at h ⊢
      rcases queued_pop hfed with ⟨hp, hgone⟩ | ⟨hp, hnil, hhere⟩ |
        ⟨m, q', p, d', hcons, hp, hsame, hq', hhere⟩
      · rw [hp] at h ⊢
        simp only at h ⊢
        cases h
        have hlost : (arrivals d (env.wait turn)).lost = true :=
          hgone.resolve_left (by rw [hop']; exact Bool.noConfusion)
        exact ⟨⟨[], _, [], rfl, .nil, (List.append_nil got).symm, hfed⟩, Nat.le_of_lt hgot, hop',
          hlost⟩
      · rw [hp] at h ⊢
        simp only at h ⊢
        by_cases hz : readWait timeout (elapsedMs (env.clock 0) (env.clock (turn + 1))) = 0
        · rw [if_pos hz] at h ⊢
          cases h
          exact ⟨⟨[], _, [], rfl, .nil, (List.append_nil got).symm, hfed⟩, Nat.le_of_lt hgot,
            hhere.1, hhere.2⟩
        · rw [if_neg hz] at h ⊢
          have ih := readLoop_fifo hfed hop' hgot h
          rw [List.append_assoc, Nat.add_assoc] at ih
          exact ih
      · have hlen : (got ++ [p]).length = got.length + 1 := List.length_append
        rw [hp] at h ⊢
        simp only at h ⊢
        by_cases hw : want.toNat ≤ got.length + 1
        · rw [if_pos hw] at h ⊢
          cases h
          refine ⟨⟨[m], q', [p], hcons, .cons hsame .nil, rfl, hq'⟩, ?_, hhere.1, hhere.2⟩
          rw [hlen]
          exact hgot
        · rw [if_neg hw] at h ⊢
          obtain ⟨⟨gone, rest, more, h1, h2, h3, h4⟩, h5, h6, h7⟩ :=
            readLoop_fifo hq' hhere.1 (by omega) h
          rw [Nat.add_assoc] at h4
          refine ⟨⟨m :: gone, rest, p :: more, ?_, .cons hsame h2, ?_, h4⟩, h5, h6, h7⟩
          · show q ++ ((arrivalsFeed i d (env.wait turn)).put ++ _) = _
            rw [← List.append_assoc, hcons, List.cons_append, h1]
            rfl
          · rw [h3, List.append_assoc]
            rfl

end Loop

/-! ## 3. A history of calls -/

/-- One call of `PassThruReadMsgs` on a channel, with what arrives before it. -/
structure ReadCall where
  want : UInt64
  timeout : UInt64
  fuel : Nat
  before : List Arrival := []
  env : CallEnv := {}
  wanted : want ≠ 0

/-- What was put in the queue since a history began, with what was in it, what its calls have
    delivered, and how many messages were dropped since a call last reported any. -/
structure ReadHistory where
  drv : Driver
  put : List PassThruMsg
  delivered : List PassThruMsg := []
  unreported : Nat := 0

section Call

variable (c : ReadCall) (i : Fin 10) (id : UInt64) (h : ReadHistory)

/-- The driver a call begins on. -/
def ReadCall.start : Driver := { h.drv with dev := arrivals h.drv.dev c.before }

def ReadCall.result : Option (Ret (List PassThruMsg)) :=
  passThruReadMsgs c.fuel c.env (c.start h) id true (some c.want) c.timeout

/-- What arrives for the queue before and in the call. -/
def ReadCall.feed : Feed :=
  (arrivalsFeed i h.drv.dev c.before).and
    (readFeed c.env i c.want c.timeout c.fuel 0 [] (c.start h).dev)

/-- Messages dropped since the last report, when the call ends. -/
def ReadCall.lost : Nat := h.unreported + (c.feed i h).refused

/-- The history with one more call, which returned `r`. -/
def ReadHistory.after (r : Ret (List PassThruMsg)) : ReadHistory :=
  { drv := r.drv, put := h.put ++ (c.feed i h).put, delivered := h.delivered ++ r.out.getD []
    unreported := if r.code = errBufferOverflow then 0 else c.lost i h }

end Call

/-- The code of a read that found the device there to its end. -/
def readCode (lost : Nat) (got : List PassThruMsg) (want timeout : UInt64) : Nat :=
  if 0 < lost then errBufferOverflow
  else if got = [] then errBufferEmpty
  else if timeout ≠ 0 ∧ got.length < want.toNat then errTimeout
  else statusNoerror

/-- **One budget, spent on the queue, and an exact report.** -/
structure CallGood (i : Fin 10) (id : UInt64) (h : ReadHistory) (c : ReadCall) : Prop where
  /-- a wait is at most the Timeout less the whole milliseconds that have gone by -/
  waits : ∀ turn, (readWait c.timeout (elapsedMs (c.env.clock 0) (c.env.clock (turn + 1)))).toNat ≤
    min (c.timeout.toNat - wholeMs (c.env.clock 0) (c.env.clock (turn + 1))) 0xFFFFFFFF
  /-- once the Timeout has gone by the loop makes at most one turn for each message wanted -/
  ends : NoGoingBack c.env.clock → ∀ turn,
    c.timeout.toNat ≤ wholeMs (c.env.clock 0) (c.env.clock (turn + 1)) →
    turn + c.want.toNat ≤ c.fuel → c.result id h ≠ none
  /-- all that was ever put in the queue is what was delivered, in order, and what is in it; the
      count of messages is written on every return -/
  delivers : ∀ r, c.result id h = some r → ∃ got gone rest, r.out = some got ∧
    got.length ≤ c.want.toNat ∧ (h.after c i r).put = gone ++ rest ∧
    List.Forall₂ SameMessage gone (h.delivered ++ got) ∧ Holds (r.drv.dev.ch i) rest
  code : ∀ r got, c.result id h = some r → r.out = some got → r.drv.dev.opened = true →
    r.drv.dev.lost = false → r.code = readCode (c.lost i h) got c.want c.timeout

/-- Every call of a history is good, as long as the calls before it returned. -/
def AllGood (i : Fin 10) (id : UInt64) : ReadHistory → List ReadCall → Prop
  | _, [] => True
  | h, c :: cs =>
    CallGood i id h c ∧ ∀ r, c.result id h = some r → AllGood i id (h.after c i r) cs

/-- The number of messages dropped since the last report is told by its low 32 bits, when the
    call ends with the device there. -/
def LossTold (i : Fin 10) (id : UInt64) (h : ReadHistory) (c : ReadCall) : Prop :=
  ∀ r, c.result id h = some r → r.drv.dev.opened = true → r.drv.dev.lost = false →
    0 < c.lost i h → ¬2 ^ 32 ∣ c.lost i h

def AllTold (i : Fin 10) (id : UInt64) : ReadHistory → List ReadCall → Prop
  | _, [] => True
  | h, c :: cs =>
    LossTold i id h c ∧ ∀ r, c.result id h = some r → AllTold i id (h.after c i r) cs

/-- The channel is open on an open device, and its books are right. -/
structure Reading (i : Fin 10) (id : UInt64) (h : ReadHistory) : Prop where
  channel : id.toNat = i.val
  opened : h.drv.dev.opened = true
  queue : ∃ gone rest, h.put = gone ++ rest ∧ List.Forall₂ SameMessage gone h.delivered ∧
    Queued i h.drv.dev rest h.unreported

theorem channelOf_open {d : OpDevice} {id : UInt64} {i : Fin 10} (hid : id.toNat = i.val)
    (ho : (d.ch i).isOpen = true) : channelOf d id = some i := by
  have hi : (⟨i.val, i.isLt⟩ : Fin 10) = i := rfl
  unfold channelOf
  simp only [hid]
  rw [dif_pos i.isLt, hi, if_pos ho]

section Call

variable {i : Fin 10} {id : UInt64} {h : ReadHistory} {c : ReadCall}

/-- Behind the argument checks a call is its loop and its end. -/
theorem result_eq (hs : Reading i id h) : c.result id h =
    (readLoop c.env i c.want c.timeout c.fuel 0 [] (c.start h).dev).map
      (readEnd (c.start h).errClear i c.want c.timeout) := by
  obtain ⟨_, _, _, _, hq⟩ := hs.queue
  have hst := arrivals_steady h.drv.dev c.before
  have hopen : (c.start h).dev.opened = true := hst.opened.trans hs.opened
  have hch : channelOf (c.start h).dev id = some i :=
    channelOf_open hs.channel ((hst.isOpen i).trans hq.isOpen)
  unfold ReadCall.result passThruReadMsgs
  simp only [Driver.errClear_dev, hopen, hch, c.wanted, Bool.not_true, Bool.false_and,
    Bool.false_eq_true, if_false]

/-- The end of a loop that found the device there: the count is taken and the code told by it. -/
theorem readEnd_present (s : Driver) (i : Fin 10) (want timeout : UInt64) {l : ReadLoop}
    (hclosed : l.closed = false) (hopen : l.dev.opened = true) :
    (readEnd s i want timeout l).out = some l.got ∧
      (readEnd s i want timeout l).drv.dev = l.dev.setCh i { l.dev.ch i with dropped := 0 } ∧
      (readEnd s i want timeout l).code =
        readCode (l.dev.ch i).dropped.toNat l.got want timeout := by
  have htake : opDeviceTakeDropped l.dev i =
      ((l.dev.ch i).dropped, l.dev.setCh i { l.dev.ch i with dropped := 0 }) := by
    unfold opDeviceTakeDropped
    rw [hopen]
    rfl
  have hpos : 0 < (l.dev.ch i).dropped ↔ 0 < (l.dev.ch i).dropped.toNat := UInt32.lt_iff_toNat_lt
  unfold readEnd readCode
  rw [hclosed, htake]
  simp only [Bool.false_eq_true, if_false]
  by_cases h1 : 0 < (l.dev.ch i).dropped
  · rw [if_pos h1, if_pos (hpos.mp h1)]
    exact ⟨rfl, rfl, rfl⟩
  rw [if_neg h1, if_neg fun e => h1 (hpos.mpr e)]
  by_cases h2 : l.got = []
  · rw [if_pos h2, if_pos h2]
    exact ⟨rfl, rfl, rfl⟩
  rw [if_neg h2, if_neg h2]
  by_cases h3 : timeout ≠ 0 ∧ l.got.length < want.toNat
  · rw [if_pos h3, if_pos h3]
    exact ⟨rfl, rfl, rfl⟩
  · rw [if_neg h3, if_neg h3]
    exact ⟨rfl, rfl, rfl⟩

/-- **What a call that returns leaves**: the queue, and the count of dropped messages, taken if
    the device is still there. -/
theorem result_spec (hs : Reading i id h) {r : Ret (List PassThruMsg)}
    (hr : c.result id h = some r) : ∃ got gone rest n, r.out = some got ∧
      got.length ≤ c.want.toNat ∧ (h.after c i r).put = gone ++ rest ∧
      List.Forall₂ SameMessage gone (h.delivered ++ got) ∧ Queued i r.drv.dev rest n ∧
      r.drv.dev.opened = true ∧
      (r.drv.dev.lost = false → n = 0 ∧
        r.code = readCode (c.lost i h % 2 ^ 32) got c.want c.timeout) ∧
      (r.drv.dev.lost = true → n = c.lost i h ∧ r.code ≠ errBufferOverflow) := by
  obtain ⟨gone0, rest0, hput, hsame0, hq⟩ := hs.queue
  have hstart : Queued i (c.start h).dev (rest0 ++ (arrivalsFeed i h.drv.dev c.before).put)
      (h.unreported + (arrivalsFeed i h.drv.dev c.before).refused) :=
    queued_arrivals c.before hq
  have hopen : (c.start h).dev.opened = true :=
    (arrivals_steady h.drv.dev c.before).opened.trans hs.opened
  have hwant : ([] : List PassThruMsg).length < c.want.toNat :=
    Nat.pos_of_ne_zero fun e => c.wanted (UInt64.toNat_inj.mp e)
  rw [result_eq hs] at hr
  obtain ⟨l, hl, rfl⟩ := Option.map_eq_some_iff.mp hr
  obtain ⟨⟨gone, rest, more, h1, h2, h3, h4⟩, h5, h6, h7⟩ := readLoop_fifo hstart hopen hwant hl
  rw [List.nil_append] at h3
  subst h3
  have hlost : h.unreported + (arrivalsFeed i h.drv.dev c.before).refused +
      (readFeed c.env i c.want c.timeout c.fuel 0 [] (c.start h).dev).refused = c.lost i h :=
    Nat.add_assoc _ _ _
  rw [hlost] at h4
  have hall : h.put ++ (c.feed i h).put = gone0 ++ gone ++ rest := by
    show h.put ++ (_ ++ _) = _
    rw [hput, List.append_assoc, List.append_assoc, ← h1, List.append_assoc]
  have hsame : List.Forall₂ SameMessage (gone0 ++ gone) (h.delivered ++ l.got) :=
    List.rel_append hsame0 h2
  unfold readEnd
  cases hclosed : l.closed with
  | true =>
      have hlost' : l.dev.lost = true := h7.trans hclosed
      simp only [if_true, h6]
      refine ⟨l.got, gone0 ++ gone, rest, c.lost i h, rfl, h5, hall, hsame, ?_, ?_, ?_, ?_⟩
      · rw [Ret.writing_drv, Driver.fail_dev]
        exact h4
      · rw [Ret.writing_drv, Driver.fail_dev]
        exact h6
      · rw [Ret.writing_drv, Driver.fail_dev]
        exact fun e => absurd (hlost'.symm.trans e) (by decide)
      · exact fun _ => ⟨rfl, show errDeviceNotConnected ≠ errBufferOverflow by decide⟩
  | false =>
      have hlost' : l.dev.lost = false := h7.trans hclosed
      obtain ⟨e1, e2, e3⟩ := readEnd_present (c.start h).errClear i c.want c.timeout hclosed h6
      unfold readEnd at e1 e2 e3
      rw [hclosed] at e1 e2 e3
      rw [h4.dropped] at e3
      refine ⟨l.got, gone0 ++ gone, rest, 0, e1, h5, hall, hsame, ?_, ?_, ?_, ?_⟩
      · rw [e2]
        refine ⟨?_, ?_, h4.fits, ?_, ?_⟩
        · rw [OpDevice.setCh_same]
          exact h4.isOpen
        · rw [OpDevice.setCh_same]
          exact h4.holds.congr rfl rfl rfl rfl rfl
        · rw [OpDevice.setCh_same]
          exact h4.reassembly
        · rw [OpDevice.setCh_same]
          rfl
      · rw [e2]
        exact h6
      · exact fun _ => ⟨rfl, e3⟩
      · rw [e2]
        exact fun e => absurd (hlost'.symm.trans e) (by decide)

theorem readCode_pos {n : Nat} (hn : 0 < n) (got : List PassThruMsg) (want timeout : UInt64) :
    readCode n got want timeout = errBufferOverflow := if_pos hn

theorem readCode_zero (got : List PassThruMsg) (want timeout : UInt64) :
    readCode 0 got want timeout ≠ errBufferOverflow := by
  unfold readCode
  rw [if_neg (Nat.lt_irrefl 0)]
  split
  · decide
  split
  · decide
  · decide

/-- **A call is good exactly when its loss is told**: all but the code holds in any case. -/
theorem callGood_iff (hs : Reading i id h) : CallGood i id h c ↔ LossTold i id h c := by
  constructor
  · intro hgood r hr hopen hlost hpos hdvd
    obtain ⟨got, _, _, _, hout, -, -, -, -, -, hcode, -⟩ := result_spec hs hr
    have hlow := (hcode hlost).2
    rw [Nat.mod_eq_zero_of_dvd hdvd] at hlow
    refine readCode_zero got c.want c.timeout (hlow.symm.trans ?_)
    rw [hgood.code r got hr hout hopen hlost, readCode_pos hpos]
  · intro htold
    refine ⟨fun _ => readWait_le _ _ _, ?_, ?_,
      ?_⟩
    · intro hclock turn hspent hfuel
      have hwant : ([] : List PassThruMsg).length < c.want.toNat :=
        Nat.pos_of_ne_zero fun e => c.wanted (UInt64.toNat_inj.mp e)
      rw [result_eq hs]
      refine fun e => readLoop_ends hclock hspent hwant ?_ (Option.map_eq_none_iff.mp e)
      rw [List.length_nil]
      omega
    · intro r hr
      obtain ⟨got, gone, rest, _, h1, h2, h3, h4, h5, -⟩ := result_spec hs hr
      exact ⟨got, gone, rest, h1, h2, h3, h4, h5.holds⟩
    · intro r got hr hout hopen hlost
      obtain ⟨got', _, _, _, hout', -, -, -, -, -, hcode, -⟩ := result_spec hs hr
      have hgot : got = got' := Option.some.inj (hout.symm.trans hout')
      rw [(hcode hlost).2, ← hgot]
      rcases Nat.eq_zero_or_pos (c.lost i h) with h0 | hpos
      · rw [h0, Nat.zero_mod]
      · have hne : 0 < c.lost i h % 2 ^ 32 :=
          Nat.pos_of_ne_zero fun e => htold r hr hopen hlost hpos (Nat.dvd_of_mod_eq_zero e)
        rw [readCode_pos hne, readCode_pos hpos]

/-- A call that returned leaves right books. -/
theorem reading_after (hs : Reading i id h) {r : Ret (List PassThruMsg)}
    (hr : c.result id h = some r) : Reading i id (h.after c i r) := by
  obtain ⟨got, gone, rest, n, h1, -, h3, h4, h5, h6, h7, h8⟩ := result_spec hs hr
  refine ⟨hs.channel, h6, gone, rest, h3, ?_, ⟨h5.isOpen, h5.holds, h5.fits, h5.reassembly, ?_⟩⟩
  · show List.Forall₂ SameMessage gone (h.delivered ++ r.out.getD [])
    rw [h1]
    exact h4
  · show (r.drv.dev.ch i).dropped.toNat =
      (if r.code = errBufferOverflow then 0 else c.lost i h) % 2 ^ 32
    rw [h5.dropped]
    cases hlost : r.drv.dev.lost with
    | true =>
        obtain ⟨hn, hcode⟩ := h8 hlost
        rw [if_neg hcode, hn]
    | false =>
        obtain ⟨hn, hcode⟩ := h7 hlost
        rw [hn]
        by_cases hov : r.code = errBufferOverflow
        · rw [if_pos hov]
        · rw [if_neg hov]
          -- a loss the code does not tell is a multiple of the count's range
          refine (Nat.eq_zero_of_not_pos fun hpos => hov ?_).symm
          rw [hcode, readCode_pos hpos]

end Call

/-! ## 4. Histories -/

/-- **When every call of a history is good**: exactly when the count of dropped messages, 32 bits
    wide, never stands at zero at the end of a call before which messages were dropped. -/
theorem reads_exact {i : Fin 10} {id : UInt64} {h : ReadHistory} (hs : Reading i id h)
    (cs : List ReadCall) : AllGood i id h cs ↔ AllTold i id h cs := by
  induction cs generalizing h with
  | nil => exact Iff.rfl
  | cons c cs ih =>
      exact and_congr (callGood_iff hs) (forall_congr' fun r =>
        forall_congr' fun hr => ih (reading_after hs hr))

/-- A history that begins with an empty queue on channel 3. -/
def kLineHistory : ReadHistory := { drv := { dev := kLineDevice }, put := [] }

theorem kLineHistory_reading : Reading 3 3 kLineHistory :=
  ⟨rfl, rfl, [], [], rfl, .nil, rfl,
    holds_empty (c := kLineDevice.ch 3) (m := fun _ => 0) rfl rfl rfl rfl rfl,
    fun _ hm => absurd hm List.not_mem_nil, PassThruMsg.zero_fits, rfl⟩

/-- No message is dropped before or in any of the calls. -/
def lossless (i : Fin 10) (id : UInt64) : ReadHistory → List ReadCall → Bool
  | _, [] => true
  | h, c :: cs =>
    c.lost i h == 0 &&
      match c.result id h with
      | none => true
      | some r => lossless i id (h.after c i r) cs

theorem told_lossless {i : Fin 10} {id : UInt64} {h : ReadHistory} {cs : List ReadCall}
    (hl : lossless i id h cs = true) : AllTold i id h cs := by
  induction cs generalizing h with
  | nil => trivial
  | cons c cs ih =>
      obtain ⟨hnone, hrest⟩ := Bool.and_eq_true_iff.mp hl
      refine ⟨fun r _ _ _ hpos => absurd (beq_iff_eq.mp hnone) (Nat.ne_of_gt hpos), fun r hr => ?_⟩
      rw [hr] at hrest
      exact ih hrest

/-- What the calls return: the code, and the data bytes of each message. -/
def returned (i : Fin 10) (id : UInt64) : ReadHistory → List ReadCall → List (Nat × List Bytes)
  | _, [] => []
  | h, c :: cs =>
    match c.result id h with
    | none => []
    | some r => (r.code, (r.out.getD []).map fun m => m.bytes m.dataSize.toNat) ::
        returned i id (h.after c i r) cs

/-- A START frame of the K line. -/
def kStartBytes : Bytes := [0x61, 0x72, 0x33, 0x05, 0x80, 0, 0, 0, 0]

/-- Three calls: a message that comes in the second and the fourth wait of the first, with its
    START's indication; another START, and no message for 50 ms; and a look at the empty queue. -/
def kReads : List ReadCall :=
  [{ want := 2, timeout := 100, fuel := 9, wanted := by decide
     env :=
      { clock := fun n => ⟨5, 10000 * n⟩
        wait := fun n =>
          if n = 1 then [.read kStartBytes]
          else if n = 3 then [.read [0x61, 0x72, 0x33, 0x04, 0x00, 0xc1, 0xef, 0x8f, 0x61, 0x72],
            .read [0x33, 0x05, 0x40, 0, 0, 0, 2]]
          else [] } },
    { want := 2, timeout := 50, fuel := 9, wanted := by decide
      before := [.read kStartBytes]
      env := { clock := fun n => ⟨6, 10000 * n⟩ } },
    { want := 1, timeout := 0, fuel := 1, wanted := by decide }]

/-- They return two messages, one message and ERR_TIMEOUT, and none and ERR_BUFFER_EMPTY. -/
theorem reads_exact_sample : AllGood 3 3 kLineHistory kReads ∧
    returned 3 3 kLineHistory kReads =
      [(statusNoerror, [[], [0xc1, 0xef, 0x8f]]), (errTimeout, [[]]), (errBufferEmpty, [])] :=
  ⟨(reads_exact kLineHistory_reading kReads).mpr (told_lossless (by decide +kernel)),
    by decide +kernel⟩

/-! ## 5. Four thousand million messages nobody asked about -/

/-- A message that takes a whole number of times 4096 bytes. -/
def kRoundMsg : PassThruMsg := { protocolID := 3, dataSize := 4072, extraDataIndex := 4072 }

theorem kRoundMsg_fits : kRoundMsg.Fits :=
  ⟨by decide, by decide, by decide, by decide, by decide, by decide⟩

theorem kRoundMsg_total (k : Nat) : total cost (List.replicate k kRoundMsg) = k * 4096 := by
  have hc : cost kRoundMsg = 4096 := by decide
  unfold total
  rw [List.map_replicate, List.sum_replicate, hc]
  rfl

/-- ISO 9141 on channel 3, with `k` such messages in its queue. -/
def kFilled : Nat → OpChannel
  | 0 => { isOpen := true, protocol := 3, rq := some fun _ => 0 }
  | k + 1 => queuePush (kFilled k) kRoundMsg

/-- A K-line whose queue is full of such messages. -/
structure Filled (c : OpChannel) (k : Nat) : Prop where
  holds : Holds c (List.replicate k kRoundMsg)
  isOpen : c.isOpen = true
  protocol : c.protocol = 3
  reassembly : c.partialMsg.Fits

theorem filled_push {c : OpChannel} {k : Nat} (h : Filled c k) (hk : k < 256) :
    Filled (queuePush c kRoundMsg) (k + 1) := by
  have hroom : queueRefuses c kRoundMsg = false := by
    refine Bool.eq_false_iff.mpr fun e => (queueRefuses_iff h.holds kRoundMsg).mp e ?_
    have hc : cost kRoundMsg = 4096 := by decide
    have hcap : opRxqBytes = 1048576 := rfl
    rw [kRoundMsg_total, hc, hcap]
    omega
  obtain ⟨c1, c2, -⟩ := queuePush_config c kRoundMsg
  refine ⟨?_, c1.trans h.isOpen, c2.trans h.protocol, ?_⟩
  · rw [List.replicate_succ']
    exact holds_push h.holds hroom
  · rw [queuePush_reassembly]
    exact h.reassembly

theorem kFilled_filled : ∀ {k : Nat}, k ≤ 256 → Filled (kFilled k) k
  | 0, _ => ⟨holds_empty (m := fun _ => 0) rfl rfl rfl rfl rfl, rfl, rfl, PassThruMsg.zero_fits⟩
  | _ + 1, hk => filled_push (kFilled_filled (Nat.le_of_succ_le hk)) hk

/-- An open device with channel 3 as given, but for a full count of dropped messages. -/
def kFullDevice (c : OpChannel) : OpDevice :=
  { opened := true
    ch := fun i => if i = 3 then { c with dropped := 0xFFFFFFFF } else {} }

/-- 256 messages wait, and 2 ^ 32 - 1 were dropped that no read has reported. -/
def kFullHistory (c : OpChannel) : ReadHistory :=
  { drv := { dev := kFullDevice c }, put := List.replicate 256 kRoundMsg, unreported := 0xFFFFFFFF }

/-- The START of one more message arrives, and the application reads one message. -/
def kFullCall : ReadCall :=
  { want := 1, timeout := 0, fuel := 1, wanted := by decide
    before := [.read kStartBytes] }

theorem filled_queued {c : OpChannel} (h : Filled c 256) :
    Queued 3 (kFullDevice c) (List.replicate 256 kRoundMsg) 0xFFFFFFFF := by
  refine ⟨h.isOpen, h.holds.congr rfl rfl rfl rfl rfl, ?_, h.reassembly, rfl⟩
  intro m hm
  rw [List.eq_of_mem_replicate hm]
  exact kRoundMsg_fits

theorem filled_reading {c : OpChannel} (h : Filled c 256) : Reading 3 3 (kFullHistory c) :=
  ⟨rfl, rfl, [], List.replicate 256 kRoundMsg, rfl, .nil, filled_queued h⟩

/-- The START's frame. -/
def kStartFrame : OpReply := { kind := .frame, channel := 3, status := 0x80, data := some [] }

/-- Its indication finds the queue full. -/
theorem filled_feed {c : OpChannel} (h : Filled c 256) :
    arrivalsFeed 3 (kFullDevice c) kFullCall.before = { refused := 1 } := by
  have hread : readerRead [] kStartBytes = ([.frame kStartFrame], []) := by decide
  have hbase : ((kFullDevice c).ch 3).base ≠ can := by
    show opProtocolBase c.protocol.toUInt64 ≠ can
    rw [h.protocol]
    decide
  obtain ⟨-, m, hout, -⟩ := announces_frame (r := kStartFrame) hbase ⟨rfl, rfl, rfl⟩
  have hoff : offered 3 (kFullDevice c) (.frame kStartFrame) = some m := by
    unfold offered FrameRun.offer
    simp only
    rw [if_pos (show kStartFrame.channel = (3 : Fin 10).val from rfl), hout]
    rfl
  have hholds : Holds ((kFullDevice c).ch 3) (List.replicate 256 kRoundMsg) :=
    h.holds.congr rfl rfl rfl rfl rfl
  have href : queueRefuses ((kFullDevice c).ch 3) m = true := by
    refine (queueRefuses_iff hholds m).mpr ?_
    have hcap : opRxqBytes = 1048576 := rfl
    have hcost : 24 ≤ cost m := Nat.le_add_right _ _
    rw [kRoundMsg_total, hcap]
    omega
  have hread' : arriveFeed 3 (kFullDevice c) (.read kStartBytes) =
      handFeed 3 { kFullDevice c with accum := (readerRead [] kStartBytes).2 }
        (readerRead [] kStartBytes).1 := rfl
  show (arriveFeed 3 (kFullDevice c) (.read kStartBytes)).and {} = _
  rw [hread', hread]
  show ((feedOf ((kFullDevice c).ch 3) (offered 3 (kFullDevice c) (.frame kStartFrame))).and
    {}).and {} = _
  rw [hoff]
  unfold feedOf
  simp only
  rw [href]
  rfl

/-- The call finds a message and returns, the device there. -/
theorem filled_result {c : OpChannel} (h : Filled c 256) :
    ∃ r, kFullCall.result 3 (kFullHistory c) = some r ∧ r.drv.dev.opened = true ∧
      r.drv.dev.lost = false ∧ kFullCall.lost 3 (kFullHistory c) = 2 ^ 32 := by
  have hfeed := filled_feed h
  have hq := queued_arrivals kFullCall.before (filled_queued h)
  have hopen : (arrivals (kFullDevice c) kFullCall.before).opened = true :=
    (arrivals_steady (kFullDevice c) kFullCall.before).opened
  have hlost : (arrivals (kFullDevice c) kFullCall.before).lost = false := by
    rw [show arrivals (kFullDevice c) kFullCall.before = _ from
      arrivals_reads [kStartBytes] (d := kFullDevice c) rfl]
    exact handAll_lost _ (kFullDevice c)
  rw [hfeed] at hq
  have hsum : kFullCall.lost 3 (kFullHistory c) = 0xFFFFFFFF +
      ((arrivalsFeed 3 (kFullDevice c) kFullCall.before).refused +
        (readFeed {} 3 1 0 1 0 [] (arrivals (kFullDevice c) kFullCall.before)).refused) := rfl
  have hloop : kFullCall.result 3 (kFullHistory c) =
      (readLoop {} 3 1 0 1 0 [] (arrivals (kFullDevice c) kFullCall.before)).map
        (readEnd (kFullCall.start (kFullHistory c)).errClear 3 1 0) := result_eq (filled_reading h)
  generalize arrivals (kFullDevice c) kFullCall.before = d at hq hopen hlost hsum hloop
  rcases queued_pop hq with ⟨-, hgone⟩ | ⟨-, hnil, -⟩ | ⟨m, q', p, d', -, hp, -, -, hopen', hlost'⟩
  · rw [hopen, hlost] at hgone
    exact absurd hgone (by decide)
  · cases hnil
  · have hl : readLoop {} 3 1 0 1 0 [] d = some ⟨[p], false, d'⟩ := by
      unfold readLoop
      simp only
      rw [show arrivals d [] = d from rfl, hp]
      rfl
    have hf : readFeed {} 3 1 0 1 0 [] d = {} := by
      unfold readFeed
      simp only
      rw [show arrivals d [] = d from rfl, hp]
      rfl
    rw [hl] at hloop
    obtain ⟨-, e, -⟩ := readEnd_present (kFullCall.start (kFullHistory c)).errClear 3 1 0
      (l := ⟨[p], false, d'⟩) rfl hopen'
    refine ⟨_, hloop, ?_, ?_, ?_⟩
    · rw [e]
      exact hopen'
    · rw [e]
      exact hlost'
    · rw [hsum, hfeed, hf]
      decide

/-- **At 2 ^ 32 dropped messages the read reports none.** -/
theorem reads_wrapped : Reading 3 3 (kFullHistory (kFilled 256)) ∧
    ¬AllGood 3 3 (kFullHistory (kFilled 256)) [kFullCall] := by
  have hf : Filled (kFilled 256) 256 := kFilled_filled (Nat.le_refl 256)
  refine ⟨filled_reading hf, ?_⟩
  intro hall
  obtain ⟨r, hr, hopen, hlost, hn⟩ := filled_result hf
  refine (callGood_iff (filled_reading hf)).mp hall.1 r hr hopen hlost ?_ ?_
  · rw [hn]
    decide
  · rw [hn]

end Openport
