/-
  File:      Openport/Car/Envelope.lean
  Subject:   The safety envelope of the capture tool, as a property of what it
             wrote, and what its port keeps.

  `Inside` reads the log: every CAN frame an `att` asks for carries an id of the
  diagnostic range or one unlocked before it, and every request begins with a
  service of the whitelist or is the one session the operator allowed. A request
  on the raw CAN channel is a TP2.0 message, so it is looked at where it starts.

  `Conduct I E` is what a function that transmits through the guards asks of an
  invariant: that it stands a system call, a line that is no `att`, and a guarded
  frame. Each function is shown once to keep every such `I`.
-/
import Openport.Car.Main

namespace Openport.Car

open Lib Lib.Decimal Lib.Raising Simulator

/-! ## 1. The envelope -/

def isAtt (line : Bytes) : Bool := (ascii "att").isPrefixOf line

def attOn (ch : Nat) (line : Bytes) : Bool := (ascii "att" ++ (decimal ch ++ [0x20])).isPrefixOf line

/-- The ids unlocked so far. -/
def unlockedIds : List Event → List Int
  | [] => []
  | .unlocked id _ :: log => id :: unlockedIds log
  | .wrote .. :: log => unlockedIds log

/-- The CAN id in front of a payload. -/
def canIdOf (payload : Bytes) : Int := BigEndian.value (payload.take 4)

/-- The id may be transmitted on behind the log. -/
def IdOk (log : List Event) (id : Int) : Prop :=
  (0x7df ≤ id ∧ id ≤ 0x7ff) ∨ id ∈ unlockedIds log

/-- The request begins with a read of the whitelist, or is the session the operator allowed. -/
def ServiceOk (session : Option UInt8) : Bytes → Prop
  | [] => False
  | sid :: rest => sid ∈ safeServices ∨ (sid = 0x10 ∧ ∃ b, session = some b ∧ rest.head? = some b)

/-- The opcode of a raw frame's data. -/
def opcode (d : Bytes) : UInt8 := d.headD 0 >>> 4

/-- A raw frame that asks for a channel. -/
def isSetup (payload : Bytes) : Bool :=
  decide (canIdOf payload = 0x200) && decide ((payload.drop 4).length = 7) &&
    (payload.drop 4).getD 1 0 == 0xc0

/-- Behind a frame of the raw channel: whether a TP2.0 message is still going on. A frame that is
    neither data nor, between messages, anything but a setup leaves that as it was. -/
def midAfter (mid : Bool) (payload : Bytes) : Bool :=
  if 3 < opcode (payload.drop 4) ∨ (mid = false ∧ isSetup payload = true) then mid
  else opcode (payload.drop 4) == 2

/-- A frame of the raw channel that a TP2.0 message starts with. -/
def starts (mid : Bool) (payload : Bytes) : Bool :=
  !mid && !isSetup payload && decide (opcode (payload.drop 4) ≤ 3)

/-- A TP2.0 message is going on behind the log. -/
def midMessage : List Event → Bool
  | [] => false
  | .wrote line payload :: log =>
    if attOn 5 line then midAfter (midMessage log) payload else midMessage log
  | .unlocked .. :: log => midMessage log

/-- A write, behind the log. Behind the CAN id stands an ISO 15765 request, and in the first frame
    of a TP2.0 message behind its number and the length; on a K-line it stands behind the header. -/
structure WriteOk (o : Options) (log : List Event) (line payload : Bytes) : Prop where
  id : attOn 5 line = true ∨ attOn 6 line = true → 4 ≤ payload.length ∧ IdOk log (canIdOf payload)
  iso : attOn 6 line = true → ServiceOk o.session (payload.drop 4)
  tp20 : attOn 5 line = true → starts (midMessage log) payload = true →
    ServiceOk o.session (payload.drop 7)
  kline : isAtt line = true → attOn 5 line = false → attOn 6 line = false →
    ServiceOk o.session (payload.drop 3)

/-- An id is unlocked by the option, or by the module's own setup reply. -/
def UnlockOk (o : Options) (id : Int) : Why → Prop
  | .option => o.tp20 = true ∧ id = tp20SetupId
  | .setupReply d => ∃ rxId txId, tp20ParseSetup d = some (rxId, txId) ∧ id = txId

/-- **The envelope**: all that was written and unlocked is in order. -/
def Inside (o : Options) : List Event → Prop
  | [] => True
  | .wrote line payload :: log => WriteOk o log line payload ∧ Inside o log
  | .unlocked id why :: log => UnlockOk o id why ∧ Inside o log

/-! ## 2. What a function asks of an invariant -/

/-- The tool behind a write. -/
def Tool.wrote (s : Tool) (line payload : Bytes) : Tool :=
  { s with log := .wrote line payload :: s.log }

/-- A number `struct.pack(">I", …)` takes. -/
def Packs (n : Int) : Prop := 0 ≤ n ∧ n < 2 ^ 32

/-- An id the guard lets through. -/
def Admitted (extraTx : List Int) (id : Int) : Prop :=
  id ∈ extraTx ∨ (safeTxLo ≤ id ∧ id ≤ safeTxHi)

/-- The invariant stands system calls and lines that are no `att`, and the faults of the cable are
    of the kind `E`. -/
structure Steady (I : Tool → Prop) (E : Raised → Prop) : Prop where
  calls : ∀ s n, I s → I { s with calls := n }
  plain : ∀ s line payload, I s → isAtt line = false → I (s.wrote line payload)
  failed : ∀ s n, I s → s.cable.fault n = some .failed → E .failed
  interrupt : ∀ s n, I s → s.cable.fault n = some .interrupt → E .interrupt

/-- It stands guarded frames too, on the ISO 15765 channel and on the K-line. -/
structure Conduct (I : Tool → Prop) (E : Raised → Prop) : Prop extends Steady I E where
  refusal : E .refused
  failure : E .failed
  can : ∀ s id service n args, I s → Admitted s.extraTx id → Packs id →
    ServiceOk s.session service →
    I (s.wrote (lineOf "att" 6 (n :: args)) (BigEndian.bytes 4 id.toNat ++ service))
  kline : ∀ s ch header service n args, I s → ch = 3 ∨ ch = 4 → header.length = 3 →
    ServiceOk s.session service → I (s.wrote (lineOf "att" ch (n :: args)) (header ++ service))

variable {I : Tool → Prop} {E : Raised → Prop}

/-- What is said of `TP20_EXTRA_TX` and the session stands all of it. -/
theorem Conduct.extra (h : Conduct I E) (P : List Int → Option UInt8 → Prop) :
    Conduct (fun s => I s ∧ P s.extraTx s.session) E where
  calls := fun s n hs => ⟨h.calls s n hs.1, hs.2⟩
  plain := fun s line payload hs hl => ⟨h.plain s line payload hs.1 hl, hs.2⟩
  failed := fun s n hs => h.failed s n hs.1
  interrupt := fun s n hs => h.interrupt s n hs.1
  refusal := h.refusal
  failure := h.failure
  can := fun s id service n args hs ha hp hok => ⟨h.can s id service n args hs.1 ha hp hok, hs.2⟩
  kline := fun s ch header service n args hs hc hl hok =>
    ⟨h.kline s ch header service n args hs.1 hc hl hok, hs.2⟩

/-! ## 3. The port -/

theorem sysCall_eq (s : Tool) : sysCall s = (match s.cable.fault s.calls with
    | some .failed => .error .failed
    | some .interrupt => .error .interrupt
    | none => .ok s.calls, { s with calls := s.calls + 1 }) := by
  show (match s.cable.fault s.calls with
    | some .failed => (throw Raised.failed : Act Nat)
    | some .interrupt => throw Raised.interrupt
    | none => Pure.pure s.calls) { s with calls := s.calls + 1 } = _
  rcases s.cable.fault s.calls with _ | _ | _ <;> rfl

section Steady

theorem Steady.sysCall_keeps (h : Steady I E) : Keeps I E sysCall := by
  intro s hs
  rw [sysCall_eq]
  have hI := h.calls s (s.calls + 1) hs
  cases hf : s.cable.fault s.calls with
  | none => exact hI
  | some f =>
      cases f with
      | failed => exact ⟨hI, h.failed s _ hs hf⟩
      | interrupt => exact ⟨hI, h.interrupt s _ hs hf⟩

theorem Steady.drain_keeps (h : Steady I E) : Keeps I E drain :=
  Keeps.bind h.sysCall_keeps fun _ => Keeps.bind Keeps.get fun _ => Keeps.pure _

theorem Steady.rounds_keeps (_ : Steady I E) : Keeps I E rounds :=
  Keeps.bind Keeps.get fun _ => Keeps.pure _

/-- A write behind which the invariant holds. -/
theorem Steady.osWrite_to {P : Tool → Prop} (h : Steady I E) {line payload : Bytes}
    (hw : ∀ s, P s → I (s.wrote line payload)) :
    Triple P (osWrite line payload) (fun _ => I) fun e s => I s ∧ E e :=
  Triple.bind (Triple.modify hw) fun _ => Keeps.bind h.sysCall_keeps fun _ => Keeps.pure _

theorem Steady.osWrite_keeps (h : Steady I E) {line : Bytes} (payload : Bytes)
    (hl : isAtt line = false) : Keeps I E (osWrite line payload) :=
  h.osWrite_to fun s hs => h.plain s line payload hs hl

/-- A command whose write leads from one invariant to another. -/
theorem Steady.cmd_to {J : Tool → Prop} (h : Steady I E) (hJ : Steady J E) {line payload : Bytes}
    (hw : ∀ s, I s → J (s.wrote line payload)) :
    Triple I (cmd line payload) (fun _ => J) fun e s => (I s ∨ J s) ∧ E e := by
  refine Triple.bind (M := fun _ => I)
    (h.sysCall_keeps.raising fun e s hs => ⟨Or.inl hs.1, hs.2⟩) fun _ => ?_
  refine Triple.bind (M := fun _ => J)
    ((hJ.osWrite_to hw).raising fun e s hs => ⟨Or.inr hs.1, hs.2⟩) fun _ => ?_
  exact hJ.drain_keeps.raising fun e s hs => ⟨Or.inr hs.1, hs.2⟩

/-- A command the invariant stands. -/
theorem Steady.cmd_step (h : Steady I E) {line payload : Bytes}
    (hw : ∀ s, I s → I (s.wrote line payload)) : Keeps I E (cmd line payload) :=
  (h.cmd_to h hw).raising fun _ _ hs => ⟨hs.1.elim id id, hs.2⟩

theorem Steady.cmd_keeps (h : Steady I E) {line : Bytes} (payload : Bytes)
    (hl : isAtt line = false) : Keeps I E (cmd line payload) :=
  h.cmd_step fun s hs => h.plain s line payload hs hl

theorem Steady.tell_keeps (h : Steady I E) {line : Bytes} (payload : Bytes)
    (hl : isAtt line = false) : Keeps I E (tell line payload) :=
  Keeps.bind (h.cmd_keeps payload hl) fun _ => Keeps.pure _

theorem Steady.cmdLine_keeps (h : Steady I E) {line : Bytes} (hl : isAtt line = false) :
    Keeps I E (cmdLine line) :=
  Keeps.bind h.sysCall_keeps fun _ => Keeps.bind (h.osWrite_keeps [] hl) fun _ => h.drain_keeps

theorem Steady.resync_keeps (h : Steady I E) : Keeps I E resync := by
  have hone : Keeps I E resyncOnce := by
    refine Keeps.bind (h.osWrite_keeps [] (by decide)) fun _ => ?_
    refine Keeps.bind h.drain_keeps fun _ => ?_
    refine Keeps.bind (h.osWrite_keeps [] (by decide)) fun _ => ?_
    refine Keeps.bind h.drain_keeps fun _ => ?_
    refine Keeps.bind h.sysCall_keeps fun _ => Keeps.bind h.sysCall_keeps fun _ => ?_
    exact Keeps.bind (h.cmd_keeps [] (by decide)) fun _ => Keeps.pure _
  have htries : ∀ n, Keeps I E (resyncTries n) := by
    intro n
    induction n with
    | zero => exact Keeps.pure _
    | succ n ih =>
        refine Keeps.bind hone fun r => ?_
        cases r with
        | true => exact Keeps.pure _
        | false => exact ih
  exact htries 6

end Steady

/-! ## 4. The guards -/

/-- `pack` raises for a number that does not fit, and for no other. -/
theorem pack_spec {P : Tool → Prop} {R : Raised → Tool → Prop} (n : Int)
    (hR : ¬Packs n → ∀ s, P s → R .failed s) :
    Triple P (pack n) (fun b s => P s ∧ b = BigEndian.bytes 4 n.toNat ∧ Packs n) R := by
  unfold pack
  split
  · rename_i hn
    exact Triple.pure fun s hs => ⟨hs, rfl, hn⟩
  · rename_i hn
    exact Triple.throw (hR hn)

/-- Behind `guard_tx` the id is admitted. -/
theorem guardTx_spec {P : Tool → Prop} (id : Int) :
    Triple P (guardTx id) (fun _ s => P s ∧ Admitted s.extraTx id)
      fun e s => P s ∧ e = .refused ∧ ¬Admitted s.extraTx id := by
  refine Triple.bind (M := fun s s' => P s' ∧ s = s') (Triple.get fun s hs => ⟨hs, rfl⟩) fun s => ?_
  split
  · rename_i hin
    refine Triple.pure fun s' hs => ⟨hs.1, Or.inl ?_⟩
    rw [← hs.2]
    exact hin
  · rename_i hin
    split
    · rename_i hout
      refine Triple.throw fun s' hs => ⟨hs.1, rfl, ?_⟩
      rw [← hs.2]
      exact fun ha => ha.elim hin hout
    · rename_i hr
      exact Triple.pure fun s' hs => ⟨hs.1, Or.inr (Decidable.not_not.mp hr)⟩

/-- Behind `guard_service` the request it looked at is in order: the service, or with a payload the
    session allowed. -/
theorem guardService_spec {P : Tool → Prop} (sid : UInt8) (payload : Bytes) :
    Triple P (guardService sid payload)
      (fun _ s => P s ∧ (sid ∈ safeServices ∨
        (sid = 0x10 ∧ ∃ b, s.session = some b ∧ payload[1]? = some b)))
      fun e s => P s ∧ e = .refused := by
  refine Triple.bind (M := fun s s' => P s' ∧ s = s') (Triple.get fun s hs => ⟨hs, rfl⟩) fun s => ?_
  split
  · rename_i hsess
    refine Triple.pure fun s' hs => ⟨hs.1, Or.inr ⟨hsess.1, ?_⟩⟩
    rw [← hs.2]
    obtain ⟨b, hb⟩ := Option.ne_none_iff_exists'.mp hsess.2.1
    exact ⟨b, hb, hsess.2.2.2.trans hb⟩
  · split
    · exact Triple.throw fun s' hs => ⟨hs.1, rfl⟩
    · split
      · exact Triple.throw fun s' hs => ⟨hs.1, rfl⟩
      · rename_i hsafe
        exact Triple.pure fun s' hs => ⟨hs.1, Or.inl (Decidable.not_not.mp hsafe)⟩

/-! ## 5. Guarded frames -/

/-- **A frame of `transmit` is in order**, and where it returns its id was admitted. -/
theorem Conduct.transmit_spec (h : Conduct I E) (id : Int) {service : Bytes} (hne : service ≠ []) :
    Triple I (transmit 6 id service) (fun _ s => I s ∧ Admitted s.extraTx id)
      fun e s => I s ∧ E e := by
  obtain ⟨sid, rest, rfl⟩ := List.exists_cons_of_ne_nil hne
  have hJ := h.extra fun extraTx _ => Admitted extraTx id
  refine Triple.bind ((guardTx_spec id).raising
    fun e s hs => ⟨hs.1, by rw [hs.2.1]; exact h.refusal⟩) fun _ => ?_
  refine Triple.bind (M := fun _ s => (I s ∧ Admitted s.extraTx id) ∧ sid ∈ safeServices)
    ((guardService_spec sid []).exits (fun _ s hs => ⟨hs.1, ?_⟩)
      fun e s hs => ⟨hs.1.1, by rw [hs.2]; exact h.refusal⟩) fun _ => Triple.fact fun hsafe => ?_
  · rcases hs.2 with hs | ⟨-, b, -, hb⟩
    · exact hs
    · cases hb
  refine Triple.bind (M := fun b s => (I s ∧ Admitted s.extraTx id) ∧
      (b = BigEndian.bytes 4 id.toNat ∧ Packs id))
    (pack_spec id fun _ s hs => ⟨hs.1, h.failure⟩) fun b => Triple.fact fun hb => ?_
  rw [hb.1]
  refine (hJ.cmd_step fun s hs => ?_).raising fun e s hs => ⟨hs.1.1, hs.2⟩
  exact hJ.can s id (sid :: rest) _ _ hs hs.2 hb.2 (Or.inl hsafe)

theorem Conduct.transmit_keeps (h : Conduct I E) (id : Int) {service : Bytes} (hne : service ≠ []) :
    Keeps I E (transmit 6 id service) :=
  (h.transmit_spec id hne).returning fun _ _ hs => hs.1

theorem Conduct.ask_keeps (h : Conduct I E) (id : Int) {service : Bytes} (hne : service ≠ []) :
    Keeps I E (ask id service) :=
  Keeps.bind (h.transmit_keeps id hne) fun _ => Keeps.bind h.drain_keeps fun _ => Keeps.pure _

/-- **A frame of `transmit_kline` is in order**, in either form. -/
theorem Conduct.transmitKline_keeps (h : Conduct I E) {ch : Nat} (hch : ch = 3 ∨ ch = 4)
    {header service : Bytes} (hlen : header.length = 3) (hne : service ≠ []) :
    Keeps I E (transmitKline ch header service) := by
  obtain ⟨sid, rest, rfl⟩ := List.exists_cons_of_ne_nil hne
  have hJ := h.extra fun _ session => ServiceOk session (sid :: rest)
  have hw : ∀ n args s, I s ∧ ServiceOk s.session (sid :: rest) →
      I (s.wrote (lineOf "att" ch (n :: args)) (header ++ (sid :: rest))) ∧
        ServiceOk (s.wrote (lineOf "att" ch (n :: args)) (header ++ (sid :: rest))).session
          (sid :: rest) :=
    fun n args s hs => hJ.kline s ch header (sid :: rest) n args hs hch hlen hs.2
  have hdone : ∀ {β : Type} {x : Act β}, Keeps (fun s => I s ∧ ServiceOk s.session (sid :: rest)) E x →
      Triple (fun s => I s ∧ ServiceOk s.session (sid :: rest)) x
        (fun _ s => I s ∧ ServiceOk s.session (sid :: rest)) fun e s => I s ∧ E e :=
    fun hx => hx.raising fun e s hs => ⟨hs.1.1, hs.2⟩
  refine Triple.bind (M := fun _ s => I s ∧ ServiceOk s.session (sid :: rest))
    ((guardService_spec sid (sid :: rest)).exits (fun _ s hs => ⟨hs.1, ?_⟩)
      fun e s hs => ⟨hs.1, by rw [hs.2]; exact h.refusal⟩) fun _ => ?_
  · rcases hs.2 with hs | ⟨hsid, b, hsess, hb⟩
    · exact Or.inl hs
    · refine Or.inr ⟨hsid, b, hsess, ?_⟩
      rw [List.head?_eq_getElem?]
      exact hb
  · refine Triple.bind (hdone (hJ.cmd_step (hw _ _))) fun r => ?_
    split
    · exact (hdone (hJ.cmd_step (hw _ _))).returning fun _ _ hs => hs.1
    · exact Triple.pure fun s hs => hs.1

end Openport.Car
