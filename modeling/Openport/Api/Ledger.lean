/-
  File:      Openport/Api/Ledger.lean
  Subject:   The driver's pin sets against what it put on the wire.

  The guards of `PassThruSetProgrammingVoltage` compare the 64 bits of its
  argument with 32-bit constants, and the line carries the low 32 bits read as
  signed. Where the two readings agree (`Legible`), and no `atv` is answered by
  an error of code 0, the pin sets are what the newest acknowledged `atv` of the
  session says of each pin (`ledger_run`). They part for a sign-extended -1 or
  -2 (`ledger_misread`).
-/
import Openport.Api.Exclusive

namespace Openport

open Lib.BitSet Lib.Decimal

/-! ## 1. What the log says of a pin -/

/-- The command a transaction wrote, its number among the arguments. -/
def Txn.command (t : Txn) : Option Command := parseCommand (t.line.take (t.line.length - 2))

/-- The pin and the value of an `atv`. -/
def Txn.voltage (t : Txn) : Option (Int × Int) :=
  match t.command with
  | some ⟨0x76, none, pin :: value :: _⟩ => some (pin, value)
  | _ => none

/-- Whether the command was answered, and by no error. -/
def Txn.acknowledged (t : Txn) : Bool :=
  match t.reply with
  | some r => r.kind != .error
  | none => false

/-- The value of the newest acknowledged `atv` of the session for a pin; the log is newest first. -/
def lastVoltage (pin : Nat) : List Event → Option Int
  | [] => none
  | .session :: _ => none
  | .txn t :: log =>
    match t.voltage with
    | some (p, v) => if p = (pin : Int) ∧ t.acknowledged = true then some v else lastVoltage pin log
    | none => lastVoltage pin log

/-- The pin sets are what the log says: grounded by a -2, powered by anything but -1 and -2. -/
def Ledger (d : OpDevice) : Prop :=
  ∀ pin, pin < 32 →
    (has d.pinsGrounded pin = true ↔ lastVoltage pin d.log = some (-2)) ∧
    (has d.pinsPowered pin = true ↔ ∃ v, lastVoltage pin d.log = some v ∧ v ≠ -1 ∧ v ≠ -2)

/-- A transaction's command is read back from its line. -/
theorem Ask.Sent.command {a : Ask} {t : Txn} (h : a.Sent t) :
    t.command = some (a.command.issued t.seq) := by
  have hlen : t.line.length - 2 = (a.command.issued t.seq).text.length := by
    rw [h.1, Command.line, List.length_append]
    exact Nat.add_sub_cancel _ _
  have htake : t.line.take (t.line.length - 2) = (a.command.issued t.seq).text := by
    rw [hlen, h.1, Command.line]
    exact List.take_left
  unfold Txn.command
  rw [htake]
  exact parseCommand_text _

/-- A command that is no `atv` sets no voltage. -/
theorem Ask.Sent.no_voltage {a : Ask} {t : Txn} (h : a.Sent t) (hv : a.command.verb ≠ 0x76) :
    t.voltage = none := by
  have hverb := Command.issued_verb a.command t.seq
  unfold Txn.voltage
  rw [h.command]
  split
  · rename_i pin value rest e
    have he : a.command.issued t.seq = ⟨0x76, none, pin :: value :: rest⟩ := Option.some.inj e
    rw [he] at hverb
    exact absurd hverb.symm hv
  · rfl

/-- The `atv` of a pin and a voltage is read back with its value. -/
theorem sent_voltage {t : Txn} {pin voltage : UInt64} (h : (askVoltage pin voltage).Sent t) :
    t.voltage = some ((pin.toNat : Int), asSigned32 voltage) := by
  unfold Txn.voltage
  rw [h.command]
  rfl

/-- Commands that are no `atv` leave what the log says of a pin. -/
theorem lastVoltage_txns (pin : Nat) (log : List Event) {txns : List Txn}
    (h : ∀ t ∈ txns, t.voltage = none) :
    lastVoltage pin ((txns.map Event.txn).reverse ++ log) = lastVoltage pin log := by
  induction txns generalizing log with
  | nil => rfl
  | cons t txns ih =>
      have ht : lastVoltage pin (.txn t :: log) = lastVoltage pin log := by
        rw [lastVoltage, h t List.mem_cons_self]
      rw [List.map_cons, List.reverse_cons, List.append_assoc, List.singleton_append,
        ih _ fun u hu => h u (List.mem_cons_of_mem _ hu), ht]

/-- What a call that asks for no `atv` adds to the log sets no voltage. -/
theorem Effect.no_voltage {d d' : OpDevice} {asks : List Ask} (h : Effect d d' asks)
    (hv : ∀ a ∈ asks, a.command.verb ≠ 0x76) :
    ∃ txns : List Txn, d'.log = (txns.map Event.txn).reverse ++ d.log ∧ ∀ t ∈ txns,
      t.voltage = none := by
  obtain ⟨given, hsub, txns, hlog, hsent⟩ := h.spoke
  refine ⟨txns, hlog, ?_⟩
  intro t ht
  obtain ⟨a, ha, hat⟩ := sent_asked hsent t ht
  exact hat.no_voltage (hv a (hsub.subset ha))

/-! ## 2. Runs -/

/-- The guards, which see 64 bits of a voltage, and the line, which carries 32, take it alike for
    -1 and for -2: it has 32 bits, or its low 32 are neither of the two. -/
def Legible (voltage : UInt64) : Prop :=
  voltage.toNat < 2 ^ 32 ∨ (voltage.toUInt32 ≠ 0xFFFFFFFF ∧ voltage.toUInt32 ≠ 0xFFFFFFFE)

/-- Whether the reply was an error of code 0, "are 0". -/
def Txn.zeroError (t : Txn) : Bool :=
  match t.reply with
  | some r => r.kind == .error && r.errorCode == 0
  | none => false

/-- A transaction between two states. -/
def Sends (d d' : OpDevice) (t : Txn) : Prop := ∃ new, d'.log = new ++ d.log ∧ Event.txn t ∈ new

/-- Any call that returns, or an arrival between two calls, where a voltage asked for is legible and
    no `atv` is answered by an error of code 0. -/
inductive LedgerStep : Driver → Driver → Prop where
  | call (s s' : Driver) (c : Call) (fuel : Nat) (env : CallEnv) (code : Nat) :
      c.run fuel env s = some (code, s') →
      (∀ id pin voltage, c = .passThruSetProgrammingVoltage id pin voltage → Legible voltage) →
      (∀ t, Sends s.dev s'.dev t → t.voltage ≠ none → t.zeroError = false) → LedgerStep s s'
  | arrive (s : Driver) (a : Arrival) : LedgerStep s { s with dev := arrive s.dev a }

/-- No `atv` between the two states grounds a pin an open channel drives. -/
def GroundsNoLine (d d' : OpDevice) : Prop :=
  ∀ t (pin : UInt64), Sends d d' t → t.voltage = some ((pin.toNat : Int), -2) →
    ∀ i, (d.ch i).isOpen = true → protocolUsesPin (d.ch i).protocol.toUInt64 pin = false

/-- What a legible voltage is read as. -/
theorem Legible.reads {voltage : UInt64} (h : Legible voltage) :
    (asSigned32 voltage = -2 ↔ voltage = shortToGround) ∧
    (asSigned32 voltage = -1 ↔ voltage = voltageOff) := by
  have hlow : voltage.toUInt32.toNat = voltage.toNat % 2 ^ 32 := UInt64.toNat_toUInt32 voltage
  have hlt := voltage.toUInt32.toNat_lt
  have hg : voltage = shortToGround ↔ voltage.toNat = 0xFFFFFFFE := by
    rw [← UInt64.toNat_inj]
    rfl
  have ho : voltage = voltageOff ↔ voltage.toNat = 0xFFFFFFFF := by
    rw [← UInt64.toNat_inj]
    rfl
  have h' : voltage.toNat < 2 ^ 32 ∨
      (voltage.toUInt32.toNat ≠ 0xFFFFFFFF ∧ voltage.toUInt32.toNat ≠ 0xFFFFFFFE) := by
    rcases h with h | ⟨h1, h2⟩
    · exact Or.inl h
    · exact Or.inr ⟨fun e => h1 (UInt32.toNat_inj.mp e), fun e => h2 (UInt32.toNat_inj.mp e)⟩
  rw [hg, ho]
  unfold asSigned32
  constructor <;> split <;> omega

/-- What the driver takes for success is an acknowledgement, or an error of code 0. -/
theorem accepted_iff {t : Txn} (hz : t.zeroError = false) : t.accepted ↔ t.acknowledged = true := by
  unfold Txn.accepted Txn.acknowledged
  cases hr : t.reply with
  | none => exact ⟨fun ⟨r, e, _⟩ => (nomatch e), fun h => (nomatch h)⟩
  | some r =>
      have hst : replyToStatus r = statusNoerror ↔ r.kind ≠ .error := by
        unfold replyToStatus
        by_cases hk : r.kind = .error
        · rw [if_pos hk, deviceError_zero]
          have hcode : r.errorCode ≠ 0 := by
            unfold Txn.zeroError at hz
            rw [hr] at hz
            simpa [hk] using hz
          exact ⟨fun h0 => absurd h0 hcode, fun h => absurd hk h⟩
        · rw [if_neg hk]
          exact ⟨fun _ => hk, fun _ => rfl⟩
      show (∃ r', some r = some r' ∧ replyToStatus r' = statusNoerror) ↔ (r.kind != .error) = true
      rw [bne_iff_ne, ← hst]
      exact ⟨fun ⟨r', e, h⟩ => by rw [Option.some.inj e]; exact h, fun h => ⟨r, rfl, h⟩⟩

/-! ## 3. The ledger -/

theorem ledger_start : Ledger {} := fun pin _ =>
  ⟨⟨fun h => absurd h (by rw [show ({} : OpDevice).pinsGrounded = 0 from rfl, has_zero]; decide),
      fun h => (nomatch h)⟩,
    ⟨fun h => absurd h (by rw [show ({} : OpDevice).pinsPowered = 0 from rfl, has_zero]; decide),
      fun ⟨_, h, _⟩ => (nomatch h)⟩⟩

theorem ledger_newSession (d : OpDevice) (clock : Timeval) :
    Ledger (newSession d clock) := fun pin _ => by
  have hgrounded : (newSession d clock).pinsGrounded = 0 := rfl
  have hpowered : (newSession d clock).pinsPowered = 0 := rfl
  refine ⟨⟨?_, fun h => (nomatch h)⟩, ⟨?_, fun ⟨_, h, _⟩ => (nomatch h)⟩⟩
  · intro h
    rw [hgrounded, has_zero] at h
    exact absurd h (by decide)
  · intro h
    rw [hpowered, has_zero] at h
    exact absurd h (by decide)

/-- The ledger goes by the pin sets and by what the log says of each pin. -/
theorem Ledger.of_eq {d d' : OpDevice} (h : Ledger d) (hn : NoNewLine d d')
    (hl : ∀ pin, lastVoltage pin d'.log = lastVoltage pin d.log) : Ledger d' := by
  intro pin hp
  rw [hn.pinsGrounded, hn.pinsPowered, hl pin]
  exact h pin hp

/-- Commands that are no `atv` keep the ledger. -/
theorem Ledger.effect {d d' : OpDevice} {asks : List Ask} (h : Ledger d) (heff : Effect d d' asks)
    (hv : ∀ a ∈ asks, a.command.verb ≠ 0x76) : Ledger d' := by
  obtain ⟨txns, hlog, hnone⟩ := heff.no_voltage hv
  exact h.of_eq heff.lines fun pin => by rw [hlog, lastVoltage_txns pin _ hnone]

/-- What the log says of a pin behind an `atv`. -/
theorem lastVoltage_atv {d d' : OpDevice} {t : Txn} {pin voltage : UInt64}
    (hlog : d'.log = .txn t :: d.log)
    (hs : (askVoltage pin voltage).Sent t) (q : Nat) : lastVoltage q d'.log =
      if pin.toNat = q ∧ t.acknowledged = true then some (asSigned32 voltage)
        else lastVoltage q d.log := by
  rw [hlog, lastVoltage, sent_voltage hs]
  simp only [Int.natCast_inj]

/-- **An `atv` that is entered as the driver takes it keeps the ledger**, where its voltage is
    legible. -/
theorem Ledger.setVoltage {d d' : OpDevice} {t : Txn} {pin voltage : UInt64} (h : Ledger d)
    (hk : Kept d d') (hlog : d'.log = .txn t :: d.log) (hs : (askVoltage pin voltage).Sent t)
    (hlegible : Legible voltage) (hack : t.acknowledged = true) :
      Ledger (pinsAfter d' pin voltage) := by
  intro q hq
  have hsays := lastVoltage_atv hlog hs q
  rw [pinsAfter_log, hsays]
  obtain ⟨hg, ho⟩ := hlegible.reads
  by_cases hp : pin.toNat < 32
  · obtain ⟨hbg, hbp⟩ := pinsAfter_has d' hp voltage q
    rw [hbg, hbp]
    by_cases e : q = pin.toNat
    · rw [if_pos e, if_pos e, if_pos ⟨e.symm, hack⟩, decide_eq_true_eq, decide_eq_true_eq]
      refine ⟨?_, ?_⟩
      · rw [Option.some.injEq]
        exact hg.symm
      · refine ⟨fun hv => ⟨_, rfl, fun e' => hv.2 (ho.mp e'), fun e' => hv.1 (hg.mp e')⟩, ?_⟩
        rintro ⟨v, hv, h1, h2⟩
        cases hv
        exact ⟨fun e' => h2 (hg.mpr e'), fun e' => h1 (ho.mpr e')⟩
    · rw [if_neg e, if_neg e, if_neg fun h' => e h'.1.symm, hk.pinsGrounded, hk.pinsPowered]
      exact h q hq
  · have hne : ¬(pin.toNat = q ∧ t.acknowledged = true) := fun h' => hp (h'.1 ▸ hq)
    have hsame : pinsAfter d' pin voltage = d' :=
      if_neg fun hlt => hp (UInt64.lt_iff_toNat_lt.mp hlt)
    rw [if_neg hne, hsame, hk.pinsGrounded, hk.pinsPowered]
    exact h q hq

/-- An `atv` that is not acknowledged keeps the ledger. -/
theorem Ledger.unacknowledged {d d' : OpDevice} {t : Txn} {pin voltage : UInt64} (h : Ledger d)
    (hk : Kept d d') (hlog : d'.log = .txn t :: d.log) (hs : (askVoltage pin voltage).Sent t)
    (hack : ¬t.acknowledged = true) : Ledger d' :=
  h.of_eq hk.noNewLine fun q => by rw [lastVoltage_atv hlog hs q, if_neg fun h' => hack h'.2]

/-- **A step keeps the ledger.** -/
theorem ledger_step {s s' : Driver} (h : Ledger s.dev) (hstep : LedgerStep s s') :
    Ledger s'.dev := by
  cases hstep with
  | arrive a =>
      have hst := arrive_steady s.dev a
      exact h.of_eq hst.kept.noNewLine fun pin => by rw [hst.log]
  | call s' c fuel env code hrun hlegible hzero =>
      have hfit := asks_fit env s.dev c
      have ho := call_outcome hrun
      generalize hd : s'.dev = d' at ho hzero ⊢
      cases ho with
      | refuses _ _ hn hl => exact h.of_eq hn fun pin => by rw [hl]
      | keeps _ _ hc heff =>
          exact h.effect heff fun a ha e => by
            obtain ⟨id, pin, voltage, e'⟩ := (hfit a ha).2 e
            exact hc id pin voltage e'
      | opens p _ heff =>
          exact (ledger_newSession _ _).effect heff fun a ha e => by
            obtain ⟨id, pin, voltage, e'⟩ := (hfit a ha).2 e
            cases e'
      | connects id protocolID flags baud p fw d c hf heff hc =>
          have hd := h.effect heff fun a ha e => by
            obtain ⟨id, pin, voltage, e'⟩ := (hfit a ha).2 e
            cases e'
          exact hd
      | fails id pin voltage _ t hf hk hlog hsent hst hacc =>
          have hsends : Sends s.dev d' t := ⟨[.txn t], hlog, List.mem_singleton_self _⟩
          have hz := hzero t hsends (by rw [sent_voltage hsent]; exact Option.some_ne_none _)
          exact h.unacknowledged hk hlog hsent fun e => hacc ((accepted_iff hz).mpr e)
      | sets id pin voltage d t hf hk hlog hsent hst hacc =>
          have hsends : Sends s.dev (pinsAfter d pin voltage) t :=
            ⟨[.txn t], (pinsAfter_log _ _ _).trans hlog, List.mem_singleton_self _⟩
          have hz := hzero t hsends (by rw [sent_voltage hsent]; exact Option.some_ne_none _)
          exact h.setVoltage hk hlog hsent (hlegible id pin voltage rfl) ((accepted_iff hz).mp hacc)

/-! ## 4. No line is grounded under a channel -/

/-- What a step sent is what it added to the log. -/
theorem sends_new {d d' : OpDevice} {new : List Event} (hlog : d'.log = new ++ d.log) {t : Txn}
    (h : Sends d d' t) : Event.txn t ∈ new := by
  obtain ⟨new', hlog', ht⟩ := h
  rwa [List.append_cancel_right (hlog.symm.trans hlog')]

/-- What no `atv` is among grounds nothing. -/
theorem groundsNoLine_silent {d d' : OpDevice} {new : List Event} (hlog : d'.log = new ++ d.log)
    (h : ∀ t, Event.txn t ∈ new → t.voltage = none) : GroundsNoLine d d' := by
  intro t pin ht hv
  rw [h t (sends_new hlog ht)] at hv
  cases hv

/-- The `atv` of a pin no channel holds grounds no line. -/
theorem groundsNoLine_atv {d d' : OpDevice} {t : Txn} {pin voltage : UInt64}
    (hf : PinFree d pin voltage)
    (hlog : d'.log = .txn t :: d.log) (hs : (askVoltage pin voltage).Sent t)
    (hlegible : Legible voltage) :
    GroundsNoLine d d' := by
  intro u q hu hv i ho
  obtain rfl : u = t := by
    have hmem := sends_new (show d'.log = [.txn t] ++ d.log from hlog) hu
    injection List.mem_singleton.mp hmem
  rw [sent_voltage hs] at hv
  injection hv with hv
  obtain ⟨hq, hval⟩ := Prod.mk.inj hv
  have hpin : pin = q := UInt64.toNat_inj.mp (by omega)
  subst hpin
  exact pinHolder_none (hf.holder (hlegible.reads.1.mp hval)) ho

theorem groundsNoLine_step {s s' : Driver} (hstep : LedgerStep s s') :
    GroundsNoLine s.dev s'.dev := by
  have hsame : ∀ {d' : OpDevice}, d'.log = s.dev.log → GroundsNoLine s.dev d' := fun {d'} hl =>
    groundsNoLine_silent (show d'.log = [] ++ s.dev.log from hl) fun t h => (nomatch h)
  cases hstep with
  | arrive a => exact hsame (arrive_steady s.dev a).log
  | call s' c fuel env code hrun hlegible hzero =>
      have hfit := asks_fit env s.dev c
      have hnone : ∀ {txns : List Txn}, (∀ t ∈ txns, t.voltage = none) →
          ∀ t, Event.txn t ∈ (txns.map Event.txn).reverse → t.voltage = none := fun h t ht => by
        obtain ⟨u, hu, e⟩ := List.mem_map.mp (List.mem_reverse.mp ht)
        injection e with e
        exact e ▸ h u hu
      have ho := call_outcome hrun
      generalize s'.dev = d' at ho hzero ⊢
      cases ho with
      | refuses _ _ hn hl => exact hsame hl
      | keeps _ _ hc heff =>
          obtain ⟨txns, hlog, hv⟩ := heff.no_voltage fun a ha e => by
            obtain ⟨id, pin, voltage, e'⟩ := (hfit a ha).2 e
            exact hc id pin voltage e'
          exact groundsNoLine_silent hlog (hnone hv)
      | opens p _ heff =>
          obtain ⟨txns, hlog, hv⟩ := heff.no_voltage fun a ha e => by
            obtain ⟨id, pin, voltage, e'⟩ := (hfit a ha).2 e
            cases e'
          have hclose := (opDeviceClose_noNewLine s.dev).2
          have hlog' : d'.log = ((txns.map Event.txn).reverse ++ [.session]) ++ s.dev.log := by
            rw [hlog, List.append_assoc, ← hclose]
            rfl
          refine groundsNoLine_silent hlog' ?_
          intro t ht
          rcases List.mem_append.mp ht with ht | ht
          · exact hnone hv t ht
          · cases List.mem_singleton.mp ht
      | connects id protocolID flags baud p fw d c hf heff hc =>
          obtain ⟨txns, hlog, hv⟩ := heff.no_voltage fun a ha e => by
            obtain ⟨id, pin, voltage, e'⟩ := (hfit a ha).2 e
            cases e'
          exact groundsNoLine_silent (show (d.setCh fw c).log = _ from hlog) (hnone hv)
      | fails id pin voltage _ t hf hk hlog hsent hst hacc =>
          exact groundsNoLine_atv hf hlog hsent (hlegible id pin voltage rfl)
      | sets id pin voltage d t hf hk hlog hsent hst hacc =>
          exact groundsNoLine_atv hf ((pinsAfter_log _ _ _).trans hlog) hsent
            (hlegible id pin voltage rfl)

/-- **In every run whose voltages are legible and whose `atv`s are answered by no error of code 0,
    the pin sets are what the newest acknowledged `atv` of the session says of each pin**, and no
    step grounds a pin an open channel drives. -/
theorem ledger_run {s : Driver} (h : Relation.ReflTransGen LedgerStep {} s) :
    Ledger s.dev ∧ ∀ s', LedgerStep s s' → GroundsNoLine s.dev s'.dev := by
  refine ⟨?_, fun s' hs => groundsNoLine_step hs⟩
  induction h with
  | refl => exact ledger_start
  | tail _ hs ih => exact ledger_step ih hs

/-- Whether a transaction of the log was answered by an error of code 0. -/
def Event.zeroError : Event → Bool
  | .session => false
  | .txn t => t.zeroError

/-- A call that leaves no such transaction in the log. -/
theorem ledgerStep_clean (s s' : Driver) (c : Call) (fuel : Nat) (env : CallEnv) (code : Nat)
    (hrun : c.run fuel env s = some (code, s'))
    (hlegible : ∀ id pin voltage, c = .passThruSetProgrammingVoltage id pin voltage →
      Legible voltage)
    (hclean : ∀ e ∈ s'.dev.log, e.zeroError = false) : LedgerStep s s' := by
  refine .call s s' c fuel env code hrun hlegible fun t ⟨new, hlog, ht⟩ _ => hclean (.txn t) ?_
  rw [hlog]
  exact List.mem_append_left _ ht

/-- The driver behind a grounded L pin, with the K line open. -/
def groundedDriver : Driver :=
  (passThruSetProgrammingVoltage (okEnv 259) kLineDriver 1 opPinL shortToGround).drv

theorem kLineDriver_run : Relation.ReflTransGen LedgerStep {} kLineDriver :=
  .tail (.tail .refl (ledgerStep_clean _ openedDriver (.passThruOpen true) 0 openedEnv _ rfl
    (fun _ _ _ e => (nomatch e)) (by decide)))
    (ledgerStep_clean _ kLineDriver (.passThruConnect 1 iso9141 0 10400 true) 0 (okEnv 258) _ rfl
      (fun _ _ _ e => (nomatch e)) (by decide))

theorem groundedDriver_run : Relation.ReflTransGen LedgerStep {} groundedDriver :=
  kLineDriver_run.tail (ledgerStep_clean _ groundedDriver
    (.passThruSetProgrammingVoltage 1 opPinL shortToGround) 0 (okEnv 259) _ rfl
    (fun _ _ _ e => by cases e; exact Or.inl (by decide)) (by decide))

/-- The L pin is grounded, in the pin set and in the log. -/
theorem ledger_run_grounded : Relation.ReflTransGen LedgerStep {} groundedDriver ∧
    has groundedDriver.dev.pinsGrounded 15 = true ∧
      lastVoltage 15 groundedDriver.dev.log = some (-2) ∧
    Ledger groundedDriver.dev :=
  ⟨groundedDriver_run, by decide, by decide, (ledger_run groundedDriver_run).1⟩

/-- A sign-extended -2. -/
def wideGround : UInt64 := 0xFFFFFFFFFFFFFFFE

/-- The driver behind it on the K pin, with the K line open. -/
def misreadDriver : Driver :=
  (passThruSetProgrammingVoltage (okEnv 259) kLineDriver 1 opPinK wideGround).drv

/-- What it wrote. -/
def misreadTxn : Txn :=
  { line := ascii "atv 7 -2 259\r\n", payload := [], seq := 259, waited := true, timeoutMs := 1000
    written := .ok, result := .ok, reply := some { kind := .ok, tail := [259] } }

/-- Whether every transaction of the log was acknowledged. -/
def Event.acknowledged : Event → Bool
  | .session => true
  | .txn t => t.acknowledged

/-- **A sign-extended -2 grounds the K pin under its open channel, and is entered as a voltage.**
    Every command of the run was acknowledged. -/
theorem ledger_misread : Reachable misreadDriver ∧
    (∀ e ∈ misreadDriver.dev.log, e.acknowledged = true) ∧
    lastVoltage 7 misreadDriver.dev.log = some (-2) ∧ has misreadDriver.dev.pinsGrounded 7 = false ∧
    has misreadDriver.dev.pinsPowered 7 = true ∧ ¬Ledger misreadDriver.dev ∧
    ¬GroundsNoLine kLineDriver.dev misreadDriver.dev := by
  have hlog : misreadDriver.dev.log = .txn misreadTxn :: kLineDriver.dev.log := by decide
  refine ⟨kLineDriver_reachable.tail
    (.call _ _ (.passThruSetProgrammingVoltage 1 opPinK wideGround) 0 (okEnv 259) _ rfl), by decide,
    by decide, by decide, by decide, ?_, ?_⟩
  · intro h
    exact absurd ((h 7 (by decide)).1.mpr (by decide)) (by decide)
  · intro h
    exact absurd (h misreadTxn 7 ⟨[.txn misreadTxn], hlog, List.mem_singleton_self _⟩ (by decide) 3
      (by decide)) (by decide)

end Openport
