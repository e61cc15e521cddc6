/-
  File:      Openport/Api/Exclusive.lean
  Subject:   Lines and pins are held by one at a time, in every state of the driver.

  Three entry points move a line or a pin: `PassThruConnect` guards the line a
  channel is about to take, `PassThruSetProgrammingVoltage` the pin it is about
  to ground or power, and an opening starts from nothing. `Exclusive` holds what
  the guards rely on between them, and is inductive as a whole
  (`exclusive_moves`).
-/
import Openport.Api.Entries

namespace Openport

open Lib.BitSet Lib.Decimal

/-! ## 1. The invariant -/

/-- Lines and pins are held by one at a time. -/
structure Exclusive (d : OpDevice) : Prop where
  kLine : ¬((d.ch 3).isOpen = true ∧ (d.ch 4).isOpen = true)
  lLine : ¬((d.ch 7).isOpen = true ∧ (d.ch 8).isOpen = true)
  /-- no open channel drives a pin shorted to ground -/
  grounded : ∀ i, (d.ch i).isOpen = true → ∀ pin, has d.pinsGrounded pin = true →
    protocolUsesPin (d.ch i).protocol.toUInt64 (UInt64.ofNat pin) = false
  /-- at most one pin has voltage -/
  powered : ∀ p q, has d.pinsPowered p = true → has d.pinsPowered q = true → p = q
  disjoint : ∀ p, has d.pinsGrounded p = true → has d.pinsPowered p = false
  /-- an open channel's protocol is this channel's -/
  channel : ∀ i, (d.ch i).isOpen = true → opProtocolChannel (d.ch i).protocol.toUInt64 = some i

theorem exclusive_start : Exclusive {} :=
  ⟨fun h => (nomatch h.1), fun h => (nomatch h.1), fun _ h => (nomatch h),
    fun p _ h => absurd h (by rw [has_zero]; decide), fun p _ => has_zero p, fun _ h => (nomatch h)⟩

/-- A new session holds nothing. -/
theorem exclusive_newSession (d : OpDevice) (clock : Timeval) : Exclusive (newSession d clock) :=
  ⟨fun h => (nomatch h.1), fun h => (nomatch h.1), fun _ h => (nomatch h),
    fun p _ h => absurd h (by
      rw [show (newSession d clock).pinsPowered = 0 from rfl, has_zero]
      decide),
    fun p _ => has_zero p, fun _ h => (nomatch h)⟩

/-- **What takes no line and no pin keeps the invariant.** -/
theorem Exclusive.noNewLine {d d' : OpDevice} (h : Exclusive d) (hn : NoNewLine d d') :
    Exclusive d' := by
  refine ⟨fun ho => h.kLine ⟨(hn.held 3 ho.1).1, (hn.held 4 ho.2).1⟩,
    fun ho => h.lLine ⟨(hn.held 7 ho.1).1, (hn.held 8 ho.2).1⟩, ?_, ?_, ?_,
    ?_⟩
  · intro i ho pin hp
    obtain ⟨ho', e⟩ := hn.held i ho
    rw [hn.pinsGrounded] at hp
    rw [e]
    exact h.grounded i ho' pin hp
  · rw [hn.pinsPowered]
    exact h.powered
  · rw [hn.pinsGrounded, hn.pinsPowered]
    exact h.disjoint
  · intro i ho
    obtain ⟨ho', e⟩ := hn.held i ho
    rw [e]
    exact h.channel i ho'

/-! ## 2. A channel is opened -/

/-- A protocol with a channel is a small number: it survives being stored in 32 bits. -/
theorem stored_protocol {protocolID : UInt64} {i : Fin 10}
    (h : opProtocolChannel protocolID = some i) :
    protocolID.toUInt32.toUInt64 = protocolID := by
  unfold opProtocolChannel at h
  split at h
  · rename_i hp
    rcases hp with rfl | rfl <;> rfl
  split at h
  · rename_i hp
    rcases hp with rfl | rfl <;> rfl
  split at h
  · rename_i hp
    rcases hp with rfl | rfl <;> rfl
  split at h
  · rename_i hp
    rcases hp with rfl | rfl <;> rfl
  split at h
  · rename_i hp
    rw [hp]
    rfl
  split at h
  · rename_i hp
    rw [hp]
    rfl
  split at h
  · rename_i hp
    rw [hp]
    rfl
  · cases h

/-- No grounded pin belongs to the protocol when `PassThruConnect` finds none. -/
theorem groundedPin_none {d : OpDevice} {protocolID : UInt64} (h : groundedPin d protocolID = none)
    {pin : Nat} (hp : has d.pinsGrounded pin = true) :
    protocolUsesPin protocolID (UInt64.ofNat pin) = false := by
  have hlt : pin < 32 := has_lt hp
  have hno := List.find?_eq_none.mp h pin (List.mem_range.mpr hlt)
  have hpin : (UInt64.ofNat pin).toNat = pin :=
    UInt64.toNat_ofNat_of_lt' (Nat.lt_trans hlt (by decide))
  have hbit : d.pinsGrounded &&& pinBit (UInt64.ofNat pin) ≠ 0 := by
    unfold pinBit
    rw [hpin]
    exact (and_bit_ne_zero hlt _).mpr hp
  cases hu : protocolUsesPin protocolID (UInt64.ofNat pin) with
  | false => rfl
  | true => exact absurd (by simp [hbit, hu]) hno

theorem LineFree.noNewLine {d d' : OpDevice} {protocolID : UInt64} {fw : Fin 10}
    (h : LineFree d protocolID fw) (hn : NoNewLine d d') : LineFree d' protocolID fw := by
  have hclosed : ∀ i, (d.ch i).isOpen = false → (d'.ch i).isOpen = false := fun i hi => by
    refine Bool.eq_false_iff.mpr ?_
    intro ho
    rw [(hn.held i ho).1] at hi
    cases hi
  refine ⟨h.channel, hclosed fw h.closed, fun p hp => hclosed p (h.partner p hp), ?_⟩
  have := h.ungrounded
  unfold groundedPin at this ⊢
  rw [hn.pinsGrounded]
  exact this

theorem linePartner_ne : ∀ i j : Fin 10, linePartner i = some j → j ≠ i := by decide

/-- Opening a channel whose partner is closed keeps a line with one. -/
theorem line_setCh {d : OpDevice} {fw i j : Fin 10} {c : OpChannel} (hij : linePartner i = some j)
    (hji : linePartner j = some i) (hp : ∀ p, linePartner fw = some p → (d.ch p).isOpen = false)
    (h : ¬((d.ch i).isOpen = true ∧ (d.ch j).isOpen = true)) :
    ¬(((d.setCh fw c).ch i).isOpen = true ∧ ((d.setCh fw c).ch j).isOpen = true) := by
  rintro ⟨hi, hj⟩
  by_cases ei : i = fw
  · subst ei
    rw [OpDevice.setCh_other d c (linePartner_ne i j hij), hp j hij] at hj
    cases hj
  by_cases ej : j = fw
  · subst ej
    rw [OpDevice.setCh_other d c ei, hp i hji] at hi
    cases hi
  · rw [OpDevice.setCh_other d c ei] at hi
    rw [OpDevice.setCh_other d c ej] at hj
    exact h ⟨hi, hj⟩

/-- **A channel opened on a free line keeps the invariant.** -/
theorem Exclusive.connect {d : OpDevice} {protocolID : UInt64} {fw : Fin 10} {c : OpChannel}
    (h : Exclusive d) (hf : LineFree d protocolID fw) (hc : c.protocol = protocolID.toUInt32) :
    Exclusive (d.setCh fw c) := by
  have hproto : c.protocol.toUInt64 = protocolID := by rw [hc, stored_protocol hf.channel]
  refine ⟨line_setCh rfl rfl hf.partner h.kLine, line_setCh rfl rfl hf.partner h.lLine,
    ?_, h.powered, h.disjoint, ?_⟩
  · intro i ho pin hp
    by_cases e : i = fw
    · subst e
      rw [OpDevice.setCh_same, hproto]
      exact groundedPin_none hf.ungrounded hp
    · rw [OpDevice.setCh_other d c e] at ho ⊢
      exact h.grounded i ho pin hp
  · intro i ho
    by_cases e : i = fw
    · subst e
      rw [OpDevice.setCh_same, hproto]
      exact hf.channel
    · rw [OpDevice.setCh_other d c e] at ho ⊢
      exact h.channel i ho

/-! ## 3. A pin is grounded, powered or released -/

/-- No open channel drives a pin no channel holds. -/
theorem pinHolder_none {d : OpDevice} {pin : UInt64} (h : pinHolder d pin = none) {i : Fin 10}
    (ho : (d.ch i).isOpen = true) : protocolUsesPin (d.ch i).protocol.toUInt64 pin = false := by
  have hno := List.find?_eq_none.mp h i (List.mem_finRange i)
  cases hu : protocolUsesPin (d.ch i).protocol.toUInt64 pin with
  | false => rfl
  | true => exact absurd (by simp [ho, hu]) hno

/-- The pin sets after an `atv`, pin by pin. -/
theorem pinsAfter_has (d : OpDevice) {pin : UInt64} (hp : pin.toNat < 32)
    (voltage : UInt64) (q : Nat) :
    has (pinsAfter d pin voltage).pinsGrounded q =
        (if q = pin.toNat then decide (voltage = shortToGround) else has d.pinsGrounded q) ∧
      has (pinsAfter d pin voltage).pinsPowered q =
        (if q = pin.toNat then decide (voltage ≠ shortToGround ∧ voltage ≠ voltageOff)
          else has d.pinsPowered q) := by
  have hlt : pin < 32 := UInt64.lt_iff_toNat_lt.mpr hp
  unfold pinsAfter pinBit
  rw [if_pos hlt]
  simp only
  by_cases hg : voltage = shortToGround
  · rw [if_pos hg]
    by_cases hq : q = pin.toNat
    · subst hq
      simp [has_insert hp, has_erase hp, hg]
    · simp [has_insert hp, has_erase hp, hq, Ne.symm hq]
  · rw [if_neg hg]
    by_cases ho : voltage ≠ voltageOff
    · rw [if_pos ho]
      by_cases hq : q = pin.toNat
      · subst hq
        simp [has_insert hp, has_erase hp, hg, ho]
      · simp [has_insert hp, has_erase hp, hq, Ne.symm hq]
    · rw [if_neg ho]
      by_cases hq : q = pin.toNat
      · subst hq
        have hoff : voltage = voltageOff := Decidable.not_not.mp ho
        have hne : voltageOff ≠ shortToGround := by decide
        simp [has_erase hp, hoff, hne]
      · simp [has_erase hp, hq, Ne.symm hq]

/-- Channels keep their place when pins move. -/
theorem pinsAfter_ch (d : OpDevice) (pin voltage : UInt64) :
    (pinsAfter d pin voltage).ch = d.ch := by
  unfold pinsAfter
  simp only
  repeat' split
  all_goals rfl

theorem pinsAfter_log (d : OpDevice) (pin voltage : UInt64) :
    (pinsAfter d pin voltage).log = d.log := by
  unfold pinsAfter
  simp only
  repeat' split
  all_goals rfl

/-- No other pin has voltage where one is about to be powered. -/
theorem PinFree.alone {d : OpDevice} {pin voltage : UInt64} (h : PinFree d pin voltage)
    (hp : pin.toNat < 32) (hg : voltage ≠ shortToGround) (ho : voltage ≠ voltageOff) {q : Nat}
    (hq : has d.pinsPowered q = true) : q = pin.toNat := by
  have hlt : pin < 32 := UInt64.lt_iff_toNat_lt.mpr hp
  have hz : d.pinsPowered &&& ~~~bit pin.toNat = 0 := by
    have := h.elsewhere
    unfold voltageElsewhere pinBit at this
    simpa [hg, ho, hlt] using this
  exact (and_not_bit_eq_zero hp _).mp hz q hq

/-- At most one pin has voltage behind an `atv` to a free pin, if at most one had. -/
theorem PinFree.one {d : OpDevice} {pin voltage : UInt64} (h : PinFree d pin voltage)
    (hone : ∀ p q, has d.pinsPowered p = true → has d.pinsPowered q = true → p = q) (p q : Nat)
    (hpow : has (pinsAfter d pin voltage).pinsPowered p = true)
    (hqow : has (pinsAfter d pin voltage).pinsPowered q = true) : p = q := by
  by_cases hp : pin.toNat < 32
  · have hbits := pinsAfter_has d hp voltage
    rw [(hbits p).2] at hpow
    rw [(hbits q).2] at hqow
    by_cases e : p = pin.toNat
    · rw [if_pos e] at hpow
      obtain ⟨hg, ho⟩ := of_decide_eq_true hpow
      by_cases e' : q = pin.toNat
      · rw [e, e']
      · rw [if_neg e'] at hqow
        rw [e, h.alone hp hg ho hqow]
    · rw [if_neg e] at hpow
      by_cases e' : q = pin.toNat
      · rw [if_pos e'] at hqow
        obtain ⟨hg, ho⟩ := of_decide_eq_true hqow
        rw [e', h.alone hp hg ho hpow]
      · rw [if_neg e'] at hqow
        exact hone p q hpow hqow
  · have hsame : pinsAfter d pin voltage = d := if_neg fun hlt => hp (UInt64.lt_iff_toNat_lt.mp hlt)
    rw [hsame] at hpow hqow
    exact hone p q hpow hqow

/-- **An `atv` to a free pin keeps the invariant.** -/
theorem Exclusive.setVoltage {d : OpDevice} {pin voltage : UInt64} (h : Exclusive d)
    (hf : PinFree d pin voltage) : Exclusive (pinsAfter d pin voltage) := by
  by_cases hp : pin.toNat < 32
  · have hch := pinsAfter_ch d pin voltage
    have hbits := pinsAfter_has d hp voltage
    refine ⟨by rw [hch]; exact h.kLine, by rw [hch]; exact h.lLine, ?_, hf.one h.powered, ?_,
      by rw [hch]; exact h.channel⟩
    · intro i ho q hq
      rw [hch] at ho ⊢
      rw [(hbits q).1] at hq
      by_cases e : q = pin.toNat
      · -- the pin is grounded now: no open channel drives it
        rw [if_pos e] at hq
        have hnone := hf.holder (of_decide_eq_true hq)
        rw [e, UInt64.ofNat_toNat]
        exact pinHolder_none hnone ho
      · rw [if_neg e] at hq
        exact h.grounded i ho q hq
    · intro q hq
      rw [(hbits q).1] at hq
      rw [(hbits q).2]
      by_cases e : q = pin.toNat
      · rw [if_pos e] at hq ⊢
        exact decide_eq_false fun hn => hn.1 (of_decide_eq_true hq)
      · rw [if_neg e] at hq ⊢
        exact h.disjoint q hq
  · have hlt : ¬pin < 32 := fun hlt => hp (UInt64.lt_iff_toNat_lt.mp hlt)
    have hsame : pinsAfter d pin voltage = d := if_neg hlt
    rw [hsame]
    exact h

/-! ## 4. Every call -/

theorem PinFree.kept {d d' : OpDevice} (h : Kept d d') {pin voltage : UInt64}
    (hf : PinFree d pin voltage) :
    PinFree d' pin voltage := by
  refine ⟨?_, ?_⟩
  · have := hf.elsewhere
    unfold voltageElsewhere at this ⊢
    rw [h.pinsPowered]
    exact this
  · intro hv
    have := hf.holder hv
    unfold pinHolder at this ⊢
    simp only [h.isOpen, h.protocol]
    exact this

/-- **Every call keeps the invariant.** -/
theorem Exclusive.call {env : CallEnv} {s : Driver} {c : Call} {d' : OpDevice} (h : Exclusive s.dev)
    (ho : Outcome env s c d') : Exclusive d' := by
  cases ho with
  | refuses _ _ hn _ => exact h.noNewLine hn
  | keeps _ _ _ heff => exact h.noNewLine heff.lines
  | opens p _ heff => exact (exclusive_newSession _ _).noNewLine heff.lines
  | connects id protocolID flags baud p fw d c hf heff hc =>
      exact (h.noNewLine heff.lines).connect (hf.noNewLine heff.lines) hc
  | fails id pin voltage _ t hf hk hlog hsent hst hacc => exact h.noNewLine hk.noNewLine
  | sets id pin voltage d t hf hk hlog hsent hst hacc =>
      exact (h.noNewLine hk.noNewLine).setVoltage (hf.kept hk)

theorem exclusive_moves {s s' : Driver} (h : Exclusive s.dev) (hm : Moves s s') :
    Exclusive s'.dev := by
  cases hm with
  | call s' c fuel env code hrun => exact h.call (call_outcome hrun)
  | arrive a => exact h.noNewLine (arrive_steady s.dev a).kept.noNewLine

/-- **In every state any calls and arrivals lead to, lines and pins are held by one at a time**:
    channels 3 and 4 are not both open, nor 7 and 8; no open channel drives a grounded pin; at
    most one pin has voltage, and no grounded one; and every open channel is its protocol's. -/
theorem reachable_exclusive {s : Driver} (h : Reachable s) : Exclusive s.dev :=
  h.invariant (P := fun s => Exclusive s.dev) exclusive_start fun _ _ => exclusive_moves

/-- A transaction answered by these bytes in one read. -/
def answeredBy (bytes : Bytes) : Exchange := { late := [.read bytes] }

/-- "aro <seq>\r\n" -/
def okLine (seq : Nat) : Bytes := ascii "aro " ++ decimal seq ++ [0x0d, 0x0a]

/-- An opening that goes well: the first session's numbers begin with 256. -/
def openedEnv : CallEnv :=
  { opening := { exchange := fun k => answeredBy (okLine (if k = 0 then 256 else 257)) }
    exchange := fun _ => answeredBy (ascii "ari main code version : 1.17.4877\r\n") }

/-- A call whose command is answered `aro` under this number. -/
def okEnv (seq : Nat) : CallEnv :=
  { exchange := fun _ => answeredBy (okLine seq), mem := some fun _ => 0 }

/-- The driver behind an opening. -/
def openedDriver : Driver := (passThruOpen openedEnv {} true).drv

/-- The driver behind an opening and a connect on the K line. -/
def kLineDriver : Driver := (passThruConnect (okEnv 258) openedDriver 1 iso9141 0 10400 true).drv

theorem kLineDriver_reachable : Reachable kLineDriver :=
  .tail (.tail .refl (.call _ _ (.passThruOpen true) 0 openedEnv _ rfl))
    (.call _ _ (.passThruConnect 1 iso9141 0 10400 true) 0 (okEnv 258) _ rfl)

/-- With a channel open on the K line. -/
theorem reachable_exclusive_kLine :
    Reachable kLineDriver ∧ (kLineDriver.dev.ch 3).isOpen = true ∧ Exclusive kLineDriver.dev :=
  ⟨kLineDriver_reachable, by decide, reachable_exclusive kLineDriver_reachable⟩

end Openport
