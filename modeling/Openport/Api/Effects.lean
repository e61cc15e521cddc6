/-
  File:      Openport/Api/Effects.lean
  Subject:   What each entry point does to the device: the commands it puts on the
             wire, and that it takes no line and no pin.

  `Call.asks` is the table of the commands a call has to give, in order. `Effect`
  says of a piece of the driver that it left lines and pins alone and that what it
  wrote are some of the commands it had to give, in their order, one transaction
  each. The three entry points that do take a line or a pin are left to
  `Openport/Api/Exclusive.lean`; here only what they write is said.
-/
import Openport.Api.Calls

namespace Openport

/-! ## 1. Commands and transactions -/

/-- A command to be given, and the bytes behind its line. -/
structure Ask where
  command : Command
  payload : Bytes := []

/-- A line is the one a command prints, if there is a line at all. -/
def Prints (line : Bytes) (c : Command) : Prop := line ≠ [] → line = c.line

theorem prints_emit (c : Command) : Prints (emit c.line) c := emit_ne_nil

theorem prints_unless {p : Prop} [Decidable p] {line : Bytes} {c : Command} (h : Prints line c) :
    Prints (if p then [] else line) c := by
  split
  · exact fun hne => absurd rfl hne
  · exact h

/-- The transaction is this command's: its line is the command printed with its number. -/
def Ask.Sent (a : Ask) (t : Txn) : Prop := t.line = (a.command.issued t.seq).line ∧
    t.payload = a.payload

/-- The commands given between two states, one transaction each. -/
def Spoke (d d' : OpDevice) (asks : List Ask) : Prop :=
  ∃ txns : List Txn, d'.log = (txns.map Event.txn).reverse ++ d.log ∧
    List.Forall₂ Ask.Sent asks txns

theorem Spoke.none {d d' : OpDevice} (h : d'.log = d.log) : Spoke d d' [] := ⟨[], h, .nil⟩

theorem Spoke.trans {d d' d'' : OpDevice} {as bs : List Ask} (h : Spoke d d' as)
    (h' : Spoke d' d'' bs) :
    Spoke d d'' (as ++ bs) := by
  obtain ⟨ts, e, ht⟩ := h
  obtain ⟨us, e', hu⟩ := h'
  refine ⟨ts ++ us, ?_, List.rel_append ht hu⟩
  rw [e', e, List.map_append, List.reverse_append, List.append_assoc]

/-- Every transaction was asked for. -/
theorem sent_asked {asks : List Ask} {txns : List Txn} (h : List.Forall₂ Ask.Sent asks txns) :
    ∀ t ∈ txns, ∃ a ∈ asks, a.Sent t := by
  induction h with
  | nil => exact fun t ht => (nomatch ht)
  | cons hat _ ih =>
      intro t ht
      rcases List.mem_cons.mp ht with rfl | ht
      · exact ⟨_, List.mem_cons_self, hat⟩
      · obtain ⟨a, ha, has⟩ := ih t ht
        exact ⟨a, List.mem_cons_of_mem _ ha, has⟩

/-! ## 2. Effects -/

/-- The pin sets are as they were, a channel that is open was open for the same protocol, no
    session begins and its numbers go on. -/
structure NoNewLine (d d' : OpDevice) : Prop where
  opened : d'.opened = true → d.opened = true
  numbers : 256 ≤ d.seqNext.toNat → 256 ≤ d'.seqNext.toNat
  pinsGrounded : d'.pinsGrounded = d.pinsGrounded
  pinsPowered : d'.pinsPowered = d.pinsPowered
  held : ∀ i, (d'.ch i).isOpen = true → (d.ch i).isOpen = true ∧ (d'.ch i).protocol =
    (d.ch i).protocol

theorem NoNewLine.refl (d : OpDevice) : NoNewLine d d :=
  ⟨fun h => h, fun h => h, rfl, rfl, fun _ h => ⟨h, rfl⟩⟩

theorem NoNewLine.trans {d d' d'' : OpDevice} (h : NoNewLine d d') (h' : NoNewLine d' d'') :
    NoNewLine d d'' := by
  refine ⟨fun ho => h.opened (h'.opened ho), fun hn => h'.numbers (h.numbers hn),
    h'.pinsGrounded.trans h.pinsGrounded,
    h'.pinsPowered.trans h.pinsPowered, ?_⟩
  intro i ho
  obtain ⟨ho', e'⟩ := h'.held i ho
  obtain ⟨ho'', e⟩ := h.held i ho'
  exact ⟨ho'', e'.trans e⟩

theorem Kept.noNewLine {d d' : OpDevice} (h : Kept d d') : NoNewLine d d' :=
  ⟨fun ho => h.opened.symm.trans ho, h.numbers, h.pinsGrounded, h.pinsPowered,
    fun i ho => ⟨(h.isOpen i).symm.trans ho, h.protocol i⟩⟩

/-- Lines and pins are left alone, and what was written are some of these commands, in order. -/
structure Effect (d d' : OpDevice) (asks : List Ask) : Prop where
  lines : NoNewLine d d'
  spoke : ∃ given, List.Sublist given asks ∧ Spoke d d' given

/-- Nothing was written. -/
theorem Effect.silent {d d' : OpDevice} (h : NoNewLine d d') (hl : d'.log = d.log)
    (asks : List Ask) :
    Effect d d' asks :=
  ⟨h, [], List.nil_sublist asks, Spoke.none hl⟩

theorem Effect.refl (d : OpDevice) (asks : List Ask) : Effect d d asks := .silent (.refl d) rfl asks

theorem Effect.trans {d d' d'' : OpDevice} {as bs : List Ask} (h : Effect d d' as)
    (h' : Effect d' d'' bs) :
    Effect d d'' (as ++ bs) := by
  obtain ⟨as', hs, hsp⟩ := h.spoke
  obtain ⟨bs', hs', hsp'⟩ := h'.spoke
  exact ⟨h.lines.trans h'.lines, as' ++ bs', hs.append hs', hsp.trans hsp'⟩

/-- An effect with more commands still to give. -/
theorem Effect.mono {d d' : OpDevice} {as bs : List Ask} (h : Effect d d' as)
    (hs : List.Sublist as bs) :
    Effect d d' bs := by
  obtain ⟨as', hs', hsp⟩ := h.spoke
  exact ⟨h.lines, as', hs'.trans hs, hsp⟩

/-- What changes no line, no pin and no log may come behind. -/
theorem Effect.after {d d' d'' : OpDevice} {as : List Ask} (h : Effect d d' as)
    (h' : NoNewLine d' d'')
    (hl : d''.log = d'.log) : Effect d d'' as := by
  have := h.trans (Effect.silent h' hl [])
  rwa [List.append_nil] at this

/-- What changes no line, no pin and no log may come before. -/
theorem Effect.before {d d' d'' : OpDevice} {as : List Ask} (h : NoNewLine d d')
    (hl : d'.log = d.log)
    (h' : Effect d' d'' as) : Effect d d'' as := (Effect.silent h hl []).trans h'

/-- Replacing a channel by one on the same line, or a closed one. -/
theorem noNewLine_setCh {d : OpDevice} {i : Fin 10} {c : OpChannel}
    (h : c.isOpen = true → (d.ch i).isOpen = true ∧ c.protocol = (d.ch i).protocol) :
    NoNewLine d (d.setCh i c) := by
  refine ⟨fun h => h, fun h => h, rfl, rfl, ?_⟩
  intro j ho
  by_cases e : j = i
  · subst e
    rw [OpDevice.setCh_same] at ho ⊢
    exact h ho
  · rw [OpDevice.setCh_other d c e] at ho ⊢
    exact ⟨ho, rfl⟩

/-- A channel may be replaced by one on the same line, or a closed one, behind an effect. -/
theorem Effect.setCh {d d' : OpDevice} {as : List Ask} (h : Effect d d' as) (i : Fin 10)
    (c : OpChannel)
    (hc : c.isOpen = true → (d'.ch i).isOpen = true ∧ c.protocol = (d'.ch i).protocol) :
    Effect d (d'.setCh i c) as := h.after (noNewLine_setCh hc) (d'.setCh_log i c)

theorem arrivals_noNewLine (d : OpDevice) (as : List Arrival) :
    NoNewLine d (arrivals d as) ∧ (arrivals d as).log = d.log :=
  ⟨(arrivals_steady d as).kept.noNewLine, (arrivals_steady d as).log⟩

theorem opDeviceClose_noNewLine (d : OpDevice) :
    NoNewLine d (opDeviceClose d) ∧ (opDeviceClose d).log = d.log := by
  unfold opDeviceClose
  split
  · exact ⟨⟨fun h => (nomatch h), fun h => h, rfl, rfl, fun _ h => ⟨h, rfl⟩⟩, rfl⟩
  · exact ⟨NoNewLine.refl d, rfl⟩

/-! ## 3. One command -/

section Command

variable {line : Bytes} {c : Command}

/-- **A command is not given, and then not well, or it is one transaction.** -/
theorem cmdExchange_spoke (x : Exchange) (d : OpDevice) (hl : Prints line c) (hv : c.verb ≠ 0)
    (payload : Bytes) (timeoutMs : UInt32) (wait : Bool) :
    ((cmdExchange x d line payload timeoutMs wait).1 ≠ .ok ∧
        Spoke d (cmdExchange x d line payload timeoutMs wait).2.2 []) ∨
      Spoke d (cmdExchange x d line payload timeoutMs wait).2.2 [⟨c, payload⟩] := by
  obtain ⟨-, ⟨hlog, hne, -⟩ | ⟨t, ht⟩⟩ := cmdExchange_cases x d line payload timeoutMs wait
  · exact Or.inl ⟨hne, Spoke.none hlog⟩
  · refine Or.inr ⟨[t], ht.log, .cons ⟨?_, ht.payload⟩ .nil⟩
    have hline := hl ht.nonempty
    subst hline
    exact ht.line hv

theorem cmdExchange_effect (x : Exchange) (d : OpDevice) (hl : Prints line c) (hv : c.verb ≠ 0)
    (payload : Bytes) (timeoutMs : UInt32) (wait : Bool) :
    Effect d (cmdExchange x d line payload timeoutMs wait).2.2 [⟨c, payload⟩] := by
  refine ⟨(cmdExchange_cases x d line payload timeoutMs wait).1.noNewLine, ?_⟩
  rcases cmdExchange_spoke x d hl hv payload timeoutMs wait with ⟨-, h⟩ | h
  · exact ⟨[], List.nil_sublist _, h⟩
  · exact ⟨_, List.Sublist.refl _, h⟩

/-- A reply the driver takes for success came to the transaction. -/
def Txn.accepted (t : Txn) : Prop := ∃ r, t.reply = some r ∧ replyToStatus r = statusNoerror

/-- An accepted transaction was written. -/
theorem Txn.Settled.accepted {t : Txn} (h : t.Settled) (ha : t.accepted) : t.written = .ok := by
  obtain ⟨r, hr, -⟩ := ha
  obtain ⟨hw, hok⟩ := h.reply.mp (by rw [hr]; rfl)
  exact h.written hw hok

/-- Where the transaction ran, `simple_cmd` succeeds exactly where it was accepted. -/
theorem Ran.accepted {x : Exchange} {d : OpDevice} {line payload : Bytes}
    {timeoutMs : UInt32} {t : Txn}
    (ht : Ran x d line payload timeoutMs true (cmdExchange x d line payload timeoutMs true) t) :
    (simpleCmd x d line payload timeoutMs).1 = statusNoerror ↔ t.accepted := by
  refine ⟨?_, ?_⟩
  · intro h
    obtain ⟨t', reply, ht', -, hr, hst, -⟩ := simpleCmd_ok h
    have e : Event.txn t = Event.txn t' := (List.cons.inj (ht.log.symm.trans ht'.log)).1
    obtain rfl := Event.txn.inj e
    exact ⟨reply, hr, hst⟩
  · rintro ⟨reply, hr, hst⟩
    have hok : (cmdExchange x d line payload timeoutMs true).1 = .ok :=
      ht.result.symm.trans (ht.settled.reply.mp (by rw [hr]; rfl)).2
    have hrep : (cmdExchange x d line payload timeoutMs true).2.1 = some reply :=
      ht.reply.symm.trans hr
    unfold simpleCmd opDeviceCmd
    simp only
    rw [if_neg (not_not_intro hok), hrep]
    exact hst

/-- And where none ran it does not. -/
theorem simpleCmd_unrun {x : Exchange} {d : OpDevice} {line payload : Bytes} {timeoutMs : UInt32}
    (hne : (cmdExchange x d line payload timeoutMs true).1 ≠ .ok) :
    (simpleCmd x d line payload timeoutMs).1 ≠ statusNoerror := fun h => by
  obtain ⟨t, reply, hr, hok, -⟩ := simpleCmd_ok h
  exact hne (hr.result.symm.trans hok)

/-- **`simple_cmd` succeeds exactly where its transaction is answered by a success.** -/
theorem simpleCmd_cases (x : Exchange) (d : OpDevice) (hl : Prints line c) (hv : c.verb ≠ 0)
    (payload : Bytes) (timeoutMs : UInt32) : Kept d (simpleCmd x d line payload timeoutMs).2.2 ∧
    ((simpleCmd x d line payload timeoutMs).2.2.log = d.log ∧
        (simpleCmd x d line payload timeoutMs).1 ≠ statusNoerror ∨
      ∃ t, (simpleCmd x d line payload timeoutMs).2.2.log = .txn t :: d.log ∧
        Ask.Sent ⟨c, payload⟩ t ∧
        t.Settled ∧ ((simpleCmd x d line payload timeoutMs).1 = statusNoerror ↔ t.accepted)) := by
  refine ⟨simpleCmd_kept x d line payload timeoutMs, ?_⟩
  rw [simpleCmd_dev]
  obtain ⟨-, ⟨hlog, hne, -⟩ | ⟨t, ht⟩⟩ := cmdExchange_cases x d line payload timeoutMs true
  · exact Or.inl ⟨hlog, simpleCmd_unrun hne⟩
  · have hline := hl ht.nonempty
    have hsent : Ask.Sent ⟨c, payload⟩ t := by
      subst hline
      exact ⟨ht.line hv, ht.payload⟩
    exact Or.inr ⟨t, ht.log, hsent, ht.settled, ht.accepted⟩

theorem simpleCmd_effect (x : Exchange) (d : OpDevice) (hl : Prints line c) (hv : c.verb ≠ 0)
    (payload : Bytes) (timeoutMs : UInt32) :
    Effect d (simpleCmd x d line payload timeoutMs).2.2 [⟨c, payload⟩] := by
  rw [simpleCmd_dev]
  exact cmdExchange_effect x d hl hv payload timeoutMs true

end Command

/-! ## 4. The table of commands -/

/-- A 64-bit argument as a command prints it, through `uint32_t`. -/
def printed (v : UInt64) : Int := arg v.toUInt32

/-- `att` for a message. -/
def askTransmit (w : UInt64 → Int) (ch : Nat) (m : PassThruMsg) (budget : UInt32) : Ask :=
  ⟨{ verb := 0x74, channel := some ch
     args := [(m.dataSize.toNat : Int), w m.txFlags, arg budget] },
    m.payload⟩

/-- The transmits of `PassThruWriteMsgs`. -/
def writeAsks (w : UInt64 → Int) (env : CallEnv) (d : OpDevice) (i : Fin 10)
    (msgs : Nat → PassThruMsg)
    (timeout : UInt64) (sent : Nat) : Nat → List Ask
  | 0 => []
  | left + 1 =>
    let budget := budgetUs d i (writeWait timeout (elapsedMs (env.clock 0) (env.clock (sent + 1))))
    askTransmit w i.val (msgs sent) budget :: writeAsks w env d i msgs timeout (sent + 1) left

/-- The parameters of `GET_CONFIG` and `SET_CONFIG`, a command each. -/
def configAsks (ask : UInt64 × UInt64 → Ask) (list : Nat → UInt64 × UInt64) (i : Nat) :
    Nat → List Ask
  | 0 => []
  | left + 1 => ask (list i) :: configAsks ask list (i + 1) left

/-- The command of a K-line initialisation: the address, or the request message. -/
def initAsks (ch : Nat) (fiveBaud : Bool) (input : IoctlIn) : List Ask :=
  if fiveBaud then
    match input.bytes.bind (·.bytes) with
    | none => []
    | some bytes => [⟨{ verb := 0x77, channel := some ch, args := [((bytes 0).toNat : Int)] }, []⟩]
  else
    match input.msg with
    | none => [⟨{ verb := 0x79, channel := some ch, args := [0, 0] }, []⟩]
    | some m =>
      [⟨{ verb := 0x79, channel := some ch, args := [(m.dataSize.toNat : Int), 0] }, m.payload⟩]

/-- The commands of a channel's ioctl. -/
def channelAsks (w : UInt64 → Int) (ch : Nat) (ioctlID : UInt64) (input : IoctlIn) : List Ask :=
  if ioctlID = getConfig then
    match configParams input.config with
    | none => []
    | some p => configAsks
      (fun v => ⟨{ verb := 0x67, channel := some ch, args := [w v.1] }, []⟩) p.2 0 p.1
  else if ioctlID = setConfig then
    match configParams input.config with
    | none => []
    | some p =>
      configAsks (fun v => ⟨{ verb := 0x73, channel := some ch, args := [w v.1, w v.2] }, []⟩) p.2 0
        p.1
  else if ioctlID = fiveBaudInit then initAsks ch true input
  else if ioctlID = fastInit then initAsks ch false input
  else if ioctlID = clearTxBuffer ∨ ioctlID = clearRxBuffer then []
  else if ioctlID = clearPeriodicMsgs then [⟨{ verb := 0x6c, channel := some ch }, []⟩]
  else [⟨{ verb := 0x6b, channel := some ch, args := [-1] }, []⟩]

/-- The commands of `PassThruIoctl`. -/
def ioctlAsks (w : UInt64 → Int) (ch : Nat) (ioctlID : UInt64) (input : IoctlIn) : List Ask :=
  if ioctlID = readVbatt then [⟨{ verb := 0x72, args := [16] }, []⟩]
  else if ioctlID = readProgVoltage
    then [⟨{ verb := 0x72, args := [(input.pin.map w).getD 12] }, []⟩]
  else if (channelIoctlName ioctlID).isSome then channelAsks w ch ioctlID input
  else []

/-- The command of `PassThruStartPeriodicMsg`. -/
def periodicAsks (w : UInt64 → Int) (ch : Nat) (pMsg : Option PassThruMsg)
    (interval : UInt64) : List Ask :=
  match pMsg with
  | none => []
  | some m => [⟨{ verb := 0x6d, channel := some ch
                  args := [w interval * 1000, 0, w m.txFlags, (m.dataSize.toNat : Int)] },
                    m.payload⟩]

/-- The command of `PassThruStartMsgFilter`, where there are as many messages as the type takes,
    all of one length. -/
def filterAsks (w : UInt64 → Int) (ch : Nat) (type : UInt64)
    (pMask pPattern pFlow : Option PassThruMsg) :
    List Ask :=
  match pMask, pPattern with
  | some mask, some pattern =>
    let flow := if opFilterMsgCount type.toUInt32 = 2 then none else pFlow
    let msgs := mask :: pattern :: flow.toList
    if msgs.length = opFilterMsgCount type.toUInt32 ∧ ∀ m ∈ msgs, m.dataSize.toNat =
      mask.dataSize.toNat then
      [⟨{ verb := 0x66, channel := some ch
          args := [w type, w (flow.getD mask).txFlags, (mask.dataSize.toNat : Int)] },
        (msgs.map PassThruMsg.payload).flatten⟩]
    else []
  | _, _ => []

/-- The commands a call has to give, in order, where it comes that far: `atz` up to three times
    and `ata` to open, `ati` behind them. `w` reads an argument the driver narrows to 32 bits. -/
def Call.asks (w : UInt64 → Int) (env : CallEnv) (d : OpDevice) : Call → List Ask
  | .passThruOpen _ =>
    [⟨{ verb := 0x7a }, []⟩, ⟨{ verb := 0x7a }, []⟩, ⟨{ verb := 0x7a }, []⟩, ⟨{ verb := 0x61 }, []⟩,
      ⟨{ verb := 0x69 }, []⟩]
  | .passThruClose _ => [⟨{ verb := 0x7a }, []⟩]
  | .passThruConnect _ protocolID flags baudRate _ =>
    match opProtocolChannel protocolID with
    | none => []
    | some fw => [⟨{ verb := 0x6f, channel := some fw.val, args := [w flags, w baudRate, 0] }, []⟩,
        ⟨{ verb := 0x63, channel := some fw.val }, []⟩]
  | .passThruDisconnect ch => [⟨{ verb := 0x63, channel := some ch.toNat }, []⟩]
  | .passThruReadMsgs _ _ _ _ => []
  | .passThruWriteMsgs ch pMsg pNumMsgs timeout =>
    match channelOf d ch with
    | none => []
    | some i => writeAsks w env d i (pMsg.getD fun _ => {}) timeout 0 (pNumMsgs.getD 0).toNat
  | .passThruStartPeriodicMsg ch pMsg _ interval =>
    periodicAsks w ch.toNat pMsg interval
  | .passThruStopPeriodicMsg ch id =>
    [⟨{ verb := 0x6e, channel := some ch.toNat, args := [w id] }, []⟩]
  | .passThruStartMsgFilter ch type pMask pPattern pFlow _ =>
    filterAsks w ch.toNat type pMask pPattern pFlow
  | .passThruStopMsgFilter ch id =>
    [⟨{ verb := 0x6b, channel := some ch.toNat, args := [w id] }, []⟩]
  | .passThruSetProgrammingVoltage _ pin voltage =>
    [⟨{ verb := 0x76, args := [(pin.toNat : Int), asSigned32 voltage] }, []⟩]
  | .passThruReadVersion _ _ _ _ => []
  | .passThruGetLastError _ => []
  | .passThruIoctl ch id input _ => ioctlAsks w ch.toNat id input

/-! ## 5. What the table holds -/

/-- A command whose line declares the bytes behind it, whatever its number. -/
structure Ask.Fits (a : Ask) : Prop where
  verb : isPrintable a.command.verb = true
  payload : ∀ seq, a.payload.length = (a.command.issued seq).declares

theorem PassThruMsg.payload_length (m : PassThruMsg) : m.payload.length = m.dataSize.toNat :=
  m.bytes_length _

theorem askTransmit_fits (ch : Nat) (m : PassThruMsg) (budget : UInt32) :
    (askTransmit printed ch m budget).Fits := ⟨rfl, fun _ => m.payload_length⟩

theorem writeAsks_forall {P : Ask → Prop} {w : UInt64 → Int} {i : Fin 10} {msgs : Nat → PassThruMsg}
    (h : ∀ k budget, P (askTransmit w i.val (msgs k) budget)) (env : CallEnv) (d : OpDevice)
    (timeout : UInt64) (left : Nat) :
    ∀ sent : Nat, ∀ a ∈ writeAsks w env d i msgs timeout sent left, P a := by
  induction left with
  | zero => exact fun _ a ha => (nomatch ha)
  | succ left ih =>
      intro sent a ha
      rcases List.mem_cons.mp ha with rfl | ha
      · exact h sent _
      · exact ih (sent + 1) a ha

theorem configAsks_forall {P : Ask → Prop} {ask : UInt64 × UInt64 → Ask} (h : ∀ v, P (ask v))
    (list : Nat → UInt64 × UInt64) (left : Nat) :
    ∀ i : Nat, ∀ a ∈ configAsks ask list i left, P a := by
  induction left with
  | zero => exact fun _ a ha => (nomatch ha)
  | succ left ih =>
      intro i a ha
      rcases List.mem_cons.mp ha with rfl | ha
      · exact h _
      · exact ih (i + 1) a ha

/-- Messages of one length, one behind the other. -/
theorem payloads_length {msgs : List PassThruMsg} {each : Nat}
    (h : ∀ m ∈ msgs, m.dataSize.toNat = each) :
    (msgs.map PassThruMsg.payload).flatten.length = msgs.length * each := by
  induction msgs with
  | nil => simp
  | cons m msgs ih =>
      rw [List.map_cons, List.flatten_cons, List.length_append, m.payload_length,
        h m List.mem_cons_self, ih fun x hx => h x (List.mem_cons_of_mem _ hx), List.length_cons,
        Nat.add_mul]
      omega

/-- The bytes a filter appends are as many as its line declares. -/
theorem filterAsk_fits {type : UInt64} {flags : Int} {msgs : List PassThruMsg}
    {each : Nat} (ch : Nat)
    (hlen : msgs.length = opFilterMsgCount type.toUInt32)
    (hsame : ∀ m ∈ msgs, m.dataSize.toNat = each) :
    Ask.Fits ⟨{ verb := 0x66, channel := some ch, args := [printed type, flags, (each : Int)] },
      (msgs.map PassThruMsg.payload).flatten⟩ := by
  have hparts : filterParts (printed type) = (opFilterMsgCount type.toUInt32 : Int) := by
    have h1 : printed type = 1 ↔ type.toUInt32 = 1 := by
      unfold printed arg
      rw [← UInt32.toNat_inj]
      show ((type.toUInt32.toNat : Int) = 1) ↔ type.toUInt32.toNat = 1
      omega
    have h2 : printed type = 2 ↔ type.toUInt32 = 2 := by
      unfold printed arg
      rw [← UInt32.toNat_inj]
      show ((type.toUInt32.toNat : Int) = 2) ↔ type.toUInt32.toNat = 2
      omega
    have h3 : printed type = 3 ↔ type.toUInt32 = 3 := by
      unfold printed arg
      rw [← UInt32.toNat_inj]
      show ((type.toUInt32.toNat : Int) = 3) ↔ type.toUInt32.toNat = 3
      omega
    unfold filterParts opFilterMsgCount
    simp only [h1, h2, h3]
    split
    · rfl
    split <;> rfl
  refine ⟨rfl, ?_⟩
  intro seq
  show (msgs.map PassThruMsg.payload).flatten.length =
    (filterParts (printed type) * (each : Int)).toNat
  rw [payloads_length hsame, hparts, hlen, ← Int.natCast_mul, Int.toNat_natCast]

/-- **Every command of the table declares its payload, and only `PassThruSetProgrammingVoltage` asks
    for an `atv`.** -/
theorem asks_fit (env : CallEnv) (d : OpDevice) (c : Call) : ∀ a ∈ c.asks printed env d,
    a.Fits ∧ (a.command.verb = 0x76 → ∃ id pin voltage,
      c = .passThruSetProgrammingVoltage id pin voltage) := by
  intro a ha
  have hone : ∀ b : Ask, b.Fits → b.command.verb ≠ 0x76 → a ∈ [b] → a.Fits ∧
    (a.command.verb = 0x76 →
      ∃ id pin voltage, c = .passThruSetProgrammingVoltage id pin voltage) := fun b hb hv h => by
    rw [List.mem_singleton.mp h]
    exact ⟨hb, fun e => absurd e hv⟩
  have hplain : ∀ {cmd : Command}, isPrintable cmd.verb = true →
      (∀ seq, 0 = (cmd.issued seq).declares) → Ask.Fits ⟨cmd, []⟩ := fun h1 h2 => ⟨h1, h2⟩
  cases c with
  | passThruReadMsgs ch p n timeout => cases ha
  | passThruReadVersion id p1 p2 p3 => cases ha
  | passThruGetLastError p => cases ha
  | passThruSetProgrammingVoltage id pin voltage =>
      rw [List.mem_singleton.mp ha]
      exact ⟨hplain rfl fun _ => rfl, fun _ => ⟨id, pin, voltage, rfl⟩⟩
  | passThruOpen p =>
      have hall : ∀ b ∈ Call.asks printed env d (.passThruOpen p), b.Fits ∧
        b.command.verb ≠ 0x76 := by
        intro b hb
        simp only [Call.asks, List.mem_cons, List.not_mem_nil, or_false] at hb
        rcases hb with rfl | rfl | rfl | rfl | rfl <;> exact ⟨hplain rfl fun _ => rfl, by decide⟩
      exact ⟨(hall a ha).1, fun e => absurd e (hall a ha).2⟩
  | passThruClose id => exact hone _ (hplain rfl fun _ => rfl) (by simp) ha
  | passThruConnect id protocolID flags baud p =>
      rw [Call.asks] at ha
      split at ha
      · cases ha
      · rcases List.mem_cons.mp ha with rfl | ha
        · exact ⟨hplain rfl fun _ => rfl, fun e => by simp at e⟩
        · exact hone _ (hplain rfl fun _ => rfl) (by simp) ha
  | passThruDisconnect ch => exact hone _ (hplain rfl fun _ => rfl) (by simp) ha
  | passThruWriteMsgs ch p n timeout =>
      rw [Call.asks] at ha
      split at ha
      · cases ha
      · refine writeAsks_forall (P := fun a => a.Fits ∧ (a.command.verb = 0x76 →
          ∃ id pin voltage, Call.passThruWriteMsgs ch p n timeout =
            .passThruSetProgrammingVoltage id pin voltage)) (?_) env d
              timeout _ _ a ha
        intro k budget
        exact ⟨askTransmit_fits _ _ _, fun e => by simp [askTransmit] at e⟩
  | passThruStartPeriodicMsg ch m p interval =>
      change a ∈ periodicAsks printed ch.toNat m interval at ha
      unfold periodicAsks at ha
      split at ha
      · cases ha
      · rename_i m
        exact hone _ ⟨rfl, fun _ => m.payload_length⟩ (by simp) ha
  | passThruStopPeriodicMsg ch id => exact hone _ (hplain rfl fun _ => rfl) (by simp) ha
  | passThruStartMsgFilter ch type mask pattern flow p =>
      change a ∈ filterAsks printed ch.toNat type mask pattern flow at ha
      unfold filterAsks at ha
      split at ha
      · simp only at ha
        generalize (if opFilterMsgCount type.toUInt32 = 2 then none else flow) = appended at ha
        split at ha
        · rename_i hwell
          exact hone _ (filterAsk_fits _ hwell.1 hwell.2) (by simp) ha
        · cases ha
      · cases ha
  | passThruStopMsgFilter ch id => exact hone _ (hplain rfl fun _ => rfl) (by simp) ha
  | passThruIoctl ch id input output =>
      let P : Ask → Prop := fun a => a.Fits ∧ (a.command.verb = 0x76 →
        ∃ id' pin voltage, Call.passThruIoctl ch id input output =
          .passThruSetProgrammingVoltage id' pin voltage)
      have hinit : ∀ fiveBaud : Bool, a ∈ initAsks ch.toNat fiveBaud input → P a :=
        fun fiveBaud h => by
        unfold initAsks at h
        split at h
        · split at h
          · cases h
          · exact hone _ (hplain rfl fun _ => rfl) (by simp) h
        · split at h
          · exact hone _ (hplain rfl fun _ => rfl) (by simp) h
          · rename_i m _
            exact hone _ ⟨rfl, fun _ => m.payload_length⟩ (by simp) h
      change a ∈ ioctlAsks printed ch.toNat id input at ha
      unfold ioctlAsks channelAsks at ha
      split at ha
      · exact hone _ (hplain rfl fun _ => rfl) (by simp) ha
      split at ha
      · exact hone _ (hplain rfl fun _ => rfl) (by simp) ha
      split at ha
      · split at ha
        · split at ha
          · cases ha
          · exact configAsks_forall (P := P)
              (fun v => ⟨hplain rfl fun _ => rfl, fun e => by simp at e⟩)
              _ _ _ a ha
        split at ha
        · split at ha
          · cases ha
          · exact configAsks_forall (P := P)
              (fun v => ⟨hplain rfl fun _ => rfl, fun e => by simp at e⟩)
              _ _ _ a ha
        split at ha
        · exact hinit true ha
        split at ha
        · exact hinit false ha
        split at ha
        · cases ha
        split at ha
        · exact hone _ (hplain rfl fun _ => rfl) (by simp) ha
        · exact hone _ (hplain rfl fun _ => rfl) (by simp) ha
      · cases ha

end Openport
