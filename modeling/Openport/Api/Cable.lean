/-
  File:      Openport/Api/Cable.lean
  Subject:   The cable's voltage against the driver's record of it.

  The cable carries out an `atv` whatever becomes of its reply; the driver
  enters a pin only when the reply comes. Its record covers the cable as long as
  every command that powers a pin is answered in time by a success, or powers a
  pin already entered (`cable_run`). A lost reply breaks it: the driver then lets
  a second pin be powered (`cable_two_pins`).
-/
import Openport.Api.Ledger

namespace Openport

open Lib.BitSet

/-! ## 1. The cable -/

/-- The pins with voltage once the cable has carried out a command; `takes` are the pins and the
    millivolts it powers. -/
def cableAfter (takes : Int → Int → Bool) (on : Nat → Bool) (t : Txn) : Nat → Bool :=
  match t.voltage with
  | some (pin, v) =>
    if v = -1 ∨ v = -2 then fun q => on q && decide ((q : Int) ≠ pin)
    else if takes pin v = true then fun q => on q || decide ((q : Int) = pin)
    else on
  | none => on

/-- The driver, and the pins of its cable that carry a voltage. -/
structure Plugged where
  drv : Driver
  on : Nat → Bool

/-- One call of `PassThruSetProgrammingVoltage`, or an arrival between two. The cable carries out
    what is written; what the transport failed to write it may not have heard. -/
inductive VoltageStep (takes : Int → Int → Bool) : Plugged → Plugged → Prop where
  | silent (x : Plugged) (s : Driver) (env : CallEnv) (id pin voltage : UInt64) :
      pin.toNat < 32 → voltage.toNat < 2 ^ 32 →
      (passThruSetProgrammingVoltage env x.drv id pin voltage).drv = s →
      s.dev.log = x.drv.dev.log → VoltageStep takes x ⟨s, x.on⟩
  | obeyed (x : Plugged) (s : Driver) (env : CallEnv) (id pin voltage : UInt64) (t : Txn) :
      pin.toNat < 32 → voltage.toNat < 2 ^ 32 →
      (passThruSetProgrammingVoltage env x.drv id pin voltage).drv = s →
      s.dev.log = .txn t :: x.drv.dev.log → VoltageStep takes x ⟨s, cableAfter takes x.on t⟩
  | unheard (x : Plugged) (s : Driver) (env : CallEnv) (id pin voltage : UInt64) (t : Txn) :
      pin.toNat < 32 → voltage.toNat < 2 ^ 32 →
      (passThruSetProgrammingVoltage env x.drv id pin voltage).drv = s →
      s.dev.log = .txn t :: x.drv.dev.log → t.written ≠ .ok → VoltageStep takes x ⟨s, x.on⟩
  | arrive (x : Plugged) (a : Arrival) :
      VoltageStep takes x ⟨{ x.drv with dev := arrive x.drv.dev a }, x.on⟩

/-- A command that powers a pin was answered in time by a success, or the pin was entered before. -/
def Sure (takes : Int → Int → Bool) (x y : Plugged) : Prop :=
  ∀ t (pin : Nat) v, y.drv.dev.log = .txn t :: x.drv.dev.log → t.voltage = some ((pin : Int), v) →
    v ≠ -1 → v ≠ -2 → takes pin v = true → t.accepted ∨ has x.drv.dev.pinsPowered pin = true

/-! ## 2. What one call does -/

section Call

variable {env : CallEnv} {s s' : Driver} {id pin voltage : UInt64} {t : Txn}

/-- A call that wrote nothing. -/
theorem setVoltage_silent (hs : (passThruSetProgrammingVoltage env s id pin voltage).drv = s')
    (hlog : s'.dev.log = s.dev.log) : Kept s.dev s'.dev := by
  subst hs
  obtain ⟨d, hk, ⟨-, e⟩ | ⟨t, -, hl, -, ⟨-, e⟩ | ⟨-, e⟩⟩⟩ :=
    passThruSetProgrammingVoltage_cases env s id pin voltage
  · rw [e]
    exact hk
  · rw [e]
    exact hk
  · rw [e, pinsAfter_log, hl] at hlog
    exact absurd hlog (List.cons_ne_self _ _)

/-- A call that wrote one transaction. -/
theorem setVoltage_sent (hs : (passThruSetProgrammingVoltage env s id pin voltage).drv = s')
    (hlog : s'.dev.log = .txn t :: s.dev.log) :
    PinFree s.dev pin voltage ∧ (askVoltage pin voltage).Sent t ∧ t.Settled ∧
      (¬t.accepted ∧ Kept s.dev s'.dev ∨
        t.accepted ∧ ∃ d, Kept s.dev d ∧ s'.dev = pinsAfter d pin voltage) := by
  subst hs
  obtain ⟨d, hk, ⟨hl, e⟩ | ⟨u, hf, hl, ⟨hsent, hst⟩, hend⟩⟩ :=
    passThruSetProgrammingVoltage_cases env s id pin voltage
  · rw [e, hl] at hlog
    exact absurd hlog.symm (List.cons_ne_self _ _)
  · have hnew : (passThruSetProgrammingVoltage env s id pin voltage).drv.dev.log =
      .txn u :: s.dev.log := by
      rcases hend with ⟨-, e⟩ | ⟨-, e⟩
      · rw [e, hl]
      · rw [e, pinsAfter_log, hl]
    obtain rfl : t = u := by
      have := hlog.symm.trans hnew
      injection this with h1 h2
      injection h1
    rcases hend with ⟨ha, e⟩ | ⟨ha, e⟩
    · exact ⟨hf, hsent, hst, Or.inl ⟨ha, by rw [e]; exact hk⟩⟩
    · exact ⟨hf, hsent, hst, Or.inr ⟨ha, d, hk, e⟩⟩

end Call

/-! ## 3. The driver's record covers the cable -/

/-- Every pin with voltage is entered, and at most one is. -/
structure Covered (x : Plugged) : Prop where
  cover : ∀ q, x.on q = true → has x.drv.dev.pinsPowered q = true
  one : ∀ p q, has x.drv.dev.pinsPowered p = true → has x.drv.dev.pinsPowered q = true → p = q

/-- A pin the driver still has on, or has just powered. -/
theorem pinsAfter_cover {d : OpDevice} {pin voltage : UInt64} (hp : pin.toNat < 32)
    (hv : voltage.toNat < 2 ^ 32) {takes : Int → Int → Bool} {on : Nat → Bool} {t : Txn}
    (hs : (askVoltage pin voltage).Sent t)
    (h : ∀ q, on q = true → has d.pinsPowered q = true) (q : Nat)
    (hq : cableAfter takes on t q = true) : has (pinsAfter d pin voltage).pinsPowered q = true := by
  obtain ⟨hg, ho⟩ := (show Legible voltage from Or.inl hv).reads
  unfold cableAfter at hq
  rw [sent_voltage hs] at hq
  simp only at hq
  rw [(pinsAfter_has d hp voltage q).2]
  by_cases hoff : asSigned32 voltage = -1 ∨ asSigned32 voltage = -2
  · -- switched off or grounded: the other pins are as they were
    rw [if_pos hoff] at hq
    obtain ⟨hon, hne⟩ := Bool.and_eq_true_iff.mp hq
    have hne' : q ≠ pin.toNat := fun e => of_decide_eq_true hne (congrArg Int.ofNat e)
    rw [if_neg hne']
    exact h q hon
  · have hlive : voltage ≠ shortToGround ∧ voltage ≠ voltageOff :=
      ⟨fun e => hoff (Or.inr (hg.mpr e)), fun e => hoff (Or.inl (ho.mpr e))⟩
    rw [if_neg hoff] at hq
    by_cases e : q = pin.toNat
    · rw [if_pos e]
      exact decide_eq_true hlive
    · rw [if_neg e]
      have hne : ¬((q : Int) = (pin.toNat : Int)) := fun e' => e (Int.ofNat.inj e')
      by_cases ht : takes pin.toNat (asSigned32 voltage) = true
      · rw [if_pos ht] at hq
        simp only [decide_eq_false hne, Bool.or_false] at hq
        exact h q hq
      · rw [if_neg ht] at hq
        exact h q hq

/-- A command that powers no new pin leaves the driver's record covering. -/
theorem cableAfter_cover {takes : Int → Int → Bool} {on : Nat → Bool} {t : Txn} {powered : UInt32}
    {pin voltage : UInt64} (hs : (askVoltage pin voltage).Sent t)
    (h : ∀ q, on q = true → has powered q = true)
    (hsure : asSigned32 voltage ≠ -1 → asSigned32 voltage ≠ -2 →
      takes pin.toNat (asSigned32 voltage) = true → has powered pin.toNat = true) (q : Nat)
    (hq : cableAfter takes on t q = true) : has powered q = true := by
  unfold cableAfter at hq
  rw [sent_voltage hs] at hq
  simp only at hq
  split at hq
  · exact h q (Bool.and_eq_true_iff.mp hq).1
  rename_i hoff
  obtain ⟨h1, h2⟩ := not_or.mp hoff
  split at hq
  · rename_i ht
    rcases Bool.or_eq_true_iff.mp hq with hon | e
    · exact h q hon
    · rw [Int.ofNat.inj (of_decide_eq_true e)]
      exact hsure h1 h2 ht
  · exact h q hq

/-- **A step the driver is sure of keeps its record covering the cable.** -/
theorem covered_step {takes : Int → Int → Bool} {x y : Plugged} (h : Covered x)
    (hstep : VoltageStep takes x y) (hsure : Sure takes x y) : Covered y := by
  have hkept : ∀ {s : Driver}, Kept x.drv.dev s.dev → Covered ⟨s, x.on⟩ := fun {s} hk => by
    refine ⟨?_, ?_⟩
    · intro q hq
      show has s.dev.pinsPowered q = true
      rw [hk.pinsPowered]
      exact h.cover q hq
    · show ∀ p q, has s.dev.pinsPowered p = true → has s.dev.pinsPowered q = true → p = q
      rw [hk.pinsPowered]
      exact h.one
  cases hstep with
  | silent s env id pin voltage hp hv hs hlog => exact hkept (setVoltage_silent hs hlog)
  | unheard s env id pin voltage t hp hv hs hlog hw =>
      obtain ⟨-, -, hst, ⟨-, hk⟩ | ⟨ha, -⟩⟩ := setVoltage_sent hs hlog
      · exact hkept hk
      · exact absurd (hst.accepted ha) hw
  | arrive a => exact hkept (arrive_steady x.drv.dev a).kept
  | obeyed s env id pin voltage t hp hv hs hlog =>
      obtain ⟨hf, hsent, hst, ⟨ha, hk⟩ | ⟨ha, d, hk, e⟩⟩ := setVoltage_sent hs hlog
      · refine ⟨?_, (hkept hk).one⟩
        intro q hq
        show has s.dev.pinsPowered q = true
        rw [hk.pinsPowered]
        refine cableAfter_cover hsent h.cover (?_) q hq
        intro h1 h2 ht
        rcases hsure t pin.toNat _ hlog (sent_voltage hsent) h1 h2 ht with hacc | hon
        · exact absurd hacc ha
        · exact hon
      · have hcover : ∀ q, x.on q = true → has d.pinsPowered q = true := fun q hq => by
          rw [hk.pinsPowered]
          exact h.cover q hq
        have hone : ∀ p q, has d.pinsPowered p = true → has d.pinsPowered q = true → p = q := by
          rw [hk.pinsPowered]
          exact h.one
        refine ⟨?_, ?_⟩
        · intro q hq
          show has s.dev.pinsPowered q = true
          rw [e]
          exact pinsAfter_cover hp hv hsent hcover q hq
        · show ∀ p q, has s.dev.pinsPowered p = true → has s.dev.pinsPowered q = true → p = q
          rw [e]
          exact (hf.kept hk).one hone

/-- **In every run whose steps the driver is sure of, at most one pin carries a voltage**, from a
    session with no pin on. -/
theorem cable_run {takes : Int → Int → Bool} {x y : Plugged} (hoff : ∀ q, x.on q = false)
    (hnone : x.drv.dev.pinsPowered = 0)
    (h : Relation.ReflTransGen (fun x y => VoltageStep takes x y ∧ Sure takes x y) x y) :
    ∀ p q, y.on p = true → y.on q = true → p = q := by
  have hcov : Covered y := by
    induction h with
    | refl =>
        refine ⟨?_, ?_⟩
        · intro q hq
          rw [hoff q] at hq
          cases hq
        · intro p q hp
          rw [hnone, has_zero] at hp
          cases hp
    | tail _ hs ih => exact covered_step ih hs.1 hs.2
  exact fun p q hp hq => hcov.one p q (hcov.cover p hp) (hcov.cover q hq)

/-- The cable powers any pin with 5000 to 20000 mV. -/
def takesRange (_pin v : Int) : Bool := decide (5000 ≤ v ∧ v ≤ 20000)

/-- The session a run begins with. -/
def unpowered : Plugged := ⟨openedDriver, fun _ => false⟩

/-- Pin 12 is powered, and the reply comes. -/
def poweredDriver : Driver := (passThruSetProgrammingVoltage (okEnv 258) openedDriver 1 12 5000).drv

/-- A second pin is refused before anything is written. -/
def refusedDriver : Driver := (passThruSetProgrammingVoltage (okEnv 259) poweredDriver 1 9 8000).drv

/-- Pin 12 is switched off, and then the second pin is taken. -/
def offDriver : Driver :=
  (passThruSetProgrammingVoltage (okEnv 259) refusedDriver 1 12 voltageOff).drv
def movedDriver : Driver := (passThruSetProgrammingVoltage (okEnv 260) offDriver 1 9 8000).drv

/-- A voltage command as it is written and answered. -/
def voltageTxn (line : String) (seq : UInt32) : Txn :=
  { line := ascii line, payload := [], seq := seq, waited := true, timeoutMs := 1000
    written := .ok, result := .ok, reply := some { kind := .ok, tail := [seq] } }

def poweredTxn : Txn := voltageTxn "atv 12 5000 258\r\n" 258
def offTxn : Txn := voltageTxn "atv 12 -1 259\r\n" 259
def movedTxn : Txn := voltageTxn "atv 9 8000 260\r\n" 260

/-- The session with pin 12 on, with a second pin refused, with none on, and with pin 9 on. -/
def powered : Plugged := ⟨poweredDriver, cableAfter takesRange unpowered.on poweredTxn⟩
def refused : Plugged := ⟨refusedDriver, powered.on⟩
def switchedOff : Plugged := ⟨offDriver, cableAfter takesRange refused.on offTxn⟩
def moved : Plugged := ⟨movedDriver, cableAfter takesRange switchedOff.on movedTxn⟩

/-- A step whose one command was accepted is one the driver is sure of. -/
theorem sure_accepted {takes : Int → Int → Bool} {x y : Plugged} {t : Txn} (ha : t.accepted)
    (hlog : y.drv.dev.log = .txn t :: x.drv.dev.log) : Sure takes x y := by
  intro u pin v hl _ _ _ _
  obtain rfl : u = t := Event.txn.inj (List.cons.inj (hl.symm.trans hlog)).1
  exact Or.inl ha

theorem moved_run : Relation.ReflTransGen
    (fun x y => VoltageStep takesRange x y ∧ Sure takesRange x y) unpowered moved := by
  have h1 : poweredDriver.dev.log = .txn poweredTxn :: openedDriver.dev.log := by decide
  have h2 : refusedDriver.dev.log = poweredDriver.dev.log := by decide
  have h3 : offDriver.dev.log = .txn offTxn :: refusedDriver.dev.log := by decide
  have h4 : movedDriver.dev.log = .txn movedTxn :: offDriver.dev.log := by decide
  have s1 : VoltageStep takesRange unpowered powered ∧ Sure takesRange unpowered powered :=
    ⟨.obeyed unpowered poweredDriver (okEnv 258) 1 12 5000 poweredTxn (by decide) (by decide) rfl h1,
      sure_accepted ⟨_, rfl, rfl⟩ h1⟩
  have s2 : VoltageStep takesRange powered refused ∧ Sure takesRange powered refused :=
    ⟨.silent powered refusedDriver (okEnv 259) 1 9 8000 (by decide) (by decide) rfl h2,
      fun t pin v hl => absurd (hl.symm.trans h2) (List.cons_ne_self _ _)⟩
  have s3 : VoltageStep takesRange refused switchedOff ∧ Sure takesRange refused switchedOff :=
    ⟨.obeyed refused offDriver (okEnv 259) 1 12 voltageOff offTxn (by decide) (by decide) rfl h3,
      sure_accepted ⟨_, rfl, rfl⟩ h3⟩
  have s4 : VoltageStep takesRange switchedOff moved ∧ Sure takesRange switchedOff moved :=
    ⟨.obeyed switchedOff movedDriver (okEnv 260) 1 9 8000 movedTxn (by decide) (by decide) rfl h4,
      sure_accepted ⟨_, rfl, rfl⟩ h4⟩
  exact .tail (.tail (.tail (.tail .refl s1) s2) s3) s4

/-- The second pin was refused, and is on once the first is off; then it is the only one. -/
theorem cable_run_moved :
    (passThruSetProgrammingVoltage (okEnv 259) poweredDriver 1 9 8000).code ≠ statusNoerror ∧
      refused.on 12 = true ∧ moved.on 9 = true ∧
      ∀ p q, moved.on p = true → moved.on q = true → p = q :=
  ⟨by decide, by decide, by decide, cable_run (fun _ => rfl) (by decide) moved_run⟩

/-- The reply is lost. -/
def lostDriver : Driver := (passThruSetProgrammingVoltage {} openedDriver 1 12 5000).drv

/-- And a second pin is powered behind it. -/
def secondDriver : Driver := (passThruSetProgrammingVoltage (okEnv 259) lostDriver 1 9 8000).drv

def lostTxn : Txn :=
  { line := ascii "atv 12 5000 258\r\n", payload := [], seq := 258, waited := true,
    timeoutMs := 1000
    written := .ok, result := .timeout, reply := none }

def secondTxn : Txn :=
  { line := ascii "atv 9 8000 259\r\n", payload := [], seq := 259, waited := true, timeoutMs := 1000
    written := .ok, result := .ok, reply := some { kind := .ok, tail := [259] } }

/-- The session behind the lost reply, and behind the second pin. -/
def lost : Plugged := ⟨lostDriver, cableAfter takesRange unpowered.on lostTxn⟩
def second : Plugged := ⟨secondDriver, cableAfter takesRange lost.on secondTxn⟩

/-- **A lost reply lets a second pin be powered.** -/
theorem cable_two_pins : Relation.ReflTransGen (VoltageStep takesRange) unpowered second ∧
    second.on 12 = true ∧ second.on 9 = true := by
  have h1 : lostDriver.dev.log = .txn lostTxn :: openedDriver.dev.log := by decide
  have h2 : secondDriver.dev.log = .txn secondTxn :: lostDriver.dev.log := by decide
  have hlost : VoltageStep takesRange unpowered lost :=
    .obeyed unpowered lostDriver {} 1 12 5000 lostTxn (by decide) (by decide) rfl h1
  have hsecond : VoltageStep takesRange lost second :=
    .obeyed lost secondDriver (okEnv 259) 1 9 8000 secondTxn (by decide) (by decide) rfl h2
  exact ⟨.tail (.tail .refl hlost) hsecond, by decide, by decide⟩

end Openport
