/-
  File:      Openport/Api/Wire.lean
  Subject:   The command stream of a run against the device's splitter: it is
             taken apart into the commands the calls gave, each with its payload
             and its number.

  `Call.asks` with `asGiven` says which commands a call has to give, in the
  arguments its caller gave. A call may stop before the last of them; what it
  did give are the transactions it logged, one for each.
-/
import Openport.Api.Exclusive

namespace Openport

/-! ## 1. Arguments of 32 bits -/

/-- An argument as the caller gives it. -/
def asGiven (v : UInt64) : Int := v.toNat

/-- Every argument a call's commands print through `uint32_t` fits it. -/
def Call.Narrow : Call → Prop
  | .passThruConnect _ _ flags baudRate _ => flags.toNat < 2 ^ 32 ∧ baudRate.toNat < 2 ^ 32
  | .passThruWriteMsgs _ pMsg pNumMsgs _ => ∀ msgs, pMsg = some msgs →
      ∀ k, k < (pNumMsgs.getD 0).toNat → (msgs k).txFlags.toNat < 2 ^ 32
  | .passThruStartPeriodicMsg _ pMsg _ interval =>
      interval.toNat < 2 ^ 32 ∧ ∀ m, pMsg = some m → m.txFlags.toNat < 2 ^ 32
  | .passThruStopPeriodicMsg _ msgID => msgID.toNat < 2 ^ 32
  | .passThruStartMsgFilter _ type pMask _ pFlow _ => type.toNat < 2 ^ 32 ∧
      (∀ m, pMask = some m → m.txFlags.toNat < 2 ^ 32) ∧ ∀ m, pFlow = some m →
        m.txFlags.toNat < 2 ^ 32
  | .passThruStopMsgFilter _ filterID => filterID.toNat < 2 ^ 32
  | .passThruIoctl _ _ input _ => (∀ v, input.pin = some v → v.toNat < 2 ^ 32) ∧
      ∀ p, configParams input.config = some p →
        ∀ k, k < p.1 → (p.2 k).1.toNat < 2 ^ 32 ∧ (p.2 k).2.toNat < 2 ^ 32
  | _ => True

theorem printed_narrow {v : UInt64} (h : v.toNat < 2 ^ 32) : printed v = asGiven v := by
  show ((v.toUInt32.toNat : Nat) : Int) = v.toNat
  rw [UInt64.toNat_toUInt32, Nat.mod_eq_of_lt h]

theorem writeAsks_narrow {env : CallEnv} {d : OpDevice} {i : Fin 10} {msgs : Nat → PassThruMsg}
    {timeout : UInt64} (left : Nat) : ∀ sent : Nat,
    (∀ k, k < sent + left → (msgs k).txFlags.toNat < 2 ^ 32) →
    writeAsks printed env d i msgs timeout sent left =
      writeAsks asGiven env d i msgs timeout sent left := by
  induction left with
  | zero => exact fun _ _ => rfl
  | succ left ih =>
      intro sent h
      unfold writeAsks askTransmit
      rw [printed_narrow (h sent (by omega)), ih (sent + 1) fun k hk => h k (by omega)]

theorem configAsks_narrow (ask ask' : UInt64 × UInt64 → Ask) {list : Nat → UInt64 × UInt64}
    (left : Nat) :
    ∀ i : Nat, (∀ k, k < i + left → ask (list k) = ask' (list k)) →
    configAsks ask list i left = configAsks ask' list i left := by
  induction left with
  | zero => exact fun _ _ => rfl
  | succ left ih =>
      intro i h
      unfold configAsks
      rw [h i (by omega), ih (i + 1) fun k hk => h k (by omega)]

/-- **Arguments of 32 bits are printed as they were given.** -/
theorem asks_narrow {c : Call} (h : c.Narrow) (env : CallEnv) (d : OpDevice) :
    c.asks printed env d = c.asks asGiven env d := by
  cases c with
  | passThruOpen p => rfl
  | passThruClose id => rfl
  | passThruDisconnect ch => rfl
  | passThruReadMsgs ch p n timeout => rfl
  | passThruSetProgrammingVoltage id pin voltage => rfl
  | passThruReadVersion id p1 p2 p3 => rfl
  | passThruGetLastError p => rfl
  | passThruConnect id protocolID flags baud p =>
      rw [Call.asks, Call.asks, printed_narrow h.1, printed_narrow h.2]
  | passThruWriteMsgs ch p n timeout =>
      rw [Call.asks, Call.asks]
      split
      · rfl
      · refine writeAsks_narrow _ 0 ?_
        intro k hk
        cases p with
        | none => exact Nat.two_pow_pos 32
        | some msgs => exact h msgs rfl k (by omega)
  | passThruStartPeriodicMsg ch m p interval =>
      show periodicAsks printed ch.toNat m interval = periodicAsks asGiven ch.toNat m interval
      unfold periodicAsks
      cases m with
      | none => rfl
      | some m =>
          simp only
          rw [printed_narrow h.1, printed_narrow (h.2 m rfl)]
  | passThruStopPeriodicMsg ch id => rw [Call.asks, Call.asks, printed_narrow h]
  | passThruStopMsgFilter ch id => rw [Call.asks, Call.asks, printed_narrow h]
  | passThruStartMsgFilter ch type mask pattern flow p =>
      show filterAsks printed ch.toNat type mask pattern flow =
        filterAsks asGiven ch.toNat type mask pattern flow
      unfold filterAsks
      cases mask with
      | none => rfl
      | some mask =>
        cases pattern with
        | none => rfl
        | some pattern =>
          have hflags : printed (((if opFilterMsgCount type.toUInt32 = 2 then none else flow).getD
            mask).txFlags) =
              asGiven (((if opFilterMsgCount type.toUInt32 = 2 then none else flow).getD
                mask).txFlags) := by
            refine printed_narrow ?_
            split
            · exact h.2.1 mask rfl
            · cases flow with
              | none => exact h.2.1 mask rfl
              | some m => exact h.2.2 m rfl
          simp only
          rw [printed_narrow h.1, hflags]
  | passThruIoctl ch id input output =>
      show ioctlAsks printed ch.toNat id input = ioctlAsks asGiven ch.toNat id input
      have hpin : (input.pin.map printed).getD 12 = (input.pin.map asGiven).getD 12 := by
        cases hp : input.pin with
        | none => rfl
        | some v => exact printed_narrow (h.1 v hp)
      have hchannel : channelAsks printed ch.toNat id input =
        channelAsks asGiven ch.toNat id input := by
        unfold channelAsks
        cases hc : configParams input.config with
        | none => rfl
        | some p =>
            have hv := h.2 p hc
            have hget := configAsks_narrow
              (fun v => ⟨{ verb := 0x67, channel := some ch.toNat, args := [printed v.1] }, []⟩)
              (fun v => ⟨{ verb := 0x67, channel := some ch.toNat, args := [asGiven v.1] }, []⟩)
              p.1 0 fun k hk => by rw [printed_narrow (hv k (by omega)).1]
            have hset := configAsks_narrow
              (fun v => ⟨{ verb := 0x73, channel := some ch.toNat
                           args := [printed v.1, printed v.2] }, []⟩)
              (fun v => ⟨{ verb := 0x73, channel := some ch.toNat
                           args := [asGiven v.1, asGiven v.2] }, []⟩)
              p.1 0 fun k hk => by
                rw [printed_narrow (hv k (by omega)).1, printed_narrow (hv k (by omega)).2]
            simp only
            rw [hget, hset]
      unfold ioctlAsks
      rw [hpin, hchannel]

/-! ## 2. What a run gives -/

/-- A call that returns, with the commands it had to give; or an arrival between two calls. -/
inductive Speaks : Driver → List Ask → Driver → Prop where
  | call (s s' : Driver) (c : Call) (fuel : Nat) (env : CallEnv) (code : Nat) :
      c.run fuel env s = some (code, s') → c.Narrow → Speaks s (c.asks asGiven env s.dev) s'
  | arrive (s : Driver) (a : Arrival) : Speaks s [] { s with dev := arrive s.dev a }

/-- A run from the driver's start, with the commands its steps had to give. -/
inductive Talks : List (List Ask) → Driver → Prop where
  | start : Talks [] {}
  | turn {asked : List (List Ask)} {asks : List Ask} {s s' : Driver} :
      Talks asked s → Speaks s asks s' → Talks (asked ++ [asks]) s'

/-- The transaction an entry of the log is. -/
def Event.written : Event → Option Txn
  | .session => none
  | .txn t => some t

/-- The transactions of a device's log, oldest first. -/
def OpDevice.wire (d : OpDevice) : List Txn := d.log.reverse.filterMap Event.written

theorem wire_of_log {d d' : OpDevice} (h : d'.log = d.log ∨ d'.log = .session :: d.log) :
    d'.wire = d.wire := by
  unfold OpDevice.wire
  rcases h with h | h <;> rw [h]
  rw [List.reverse_cons, List.filterMap_append]
  exact List.append_nil _

/-- What was said lies behind what was said before. -/
theorem Spoke.wire {d d' : OpDevice} {asks : List Ask} (h : Spoke d d' asks) :
    ∃ txns, d'.wire = d.wire ++ txns ∧ List.Forall₂ Ask.Sent asks txns := by
  obtain ⟨txns, hlog, hsent⟩ := h
  refine ⟨txns, ?_, hsent⟩
  have hall : (txns.map Event.txn).filterMap Event.written = txns := by
    rw [List.filterMap_map]
    exact List.filterMap_some
  unfold OpDevice.wire
  rw [hlog, List.reverse_append, List.reverse_reverse, List.filterMap_append, hall]

/-- **What a call gives are some of the commands it had to give, in their order.** -/
theorem Outcome.spoke {env : CallEnv} {s : Driver} {c : Call} {d : OpDevice}
    (h : Outcome env s c d) :
    ∃ given txns, List.Sublist given (c.asks printed env s.dev) ∧ d.wire = s.dev.wire ++ txns ∧
      List.Forall₂ Ask.Sent given txns := by
  have hone : ∀ {d : OpDevice} {id pin voltage : UInt64} {t : Txn}, d.log = .txn t :: s.dev.log →
      (askVoltage pin voltage).Sent t →
      ∃ given txns, List.Sublist given
        (Call.asks printed env s.dev (.passThruSetProgrammingVoltage id pin voltage)) ∧
        d.wire = s.dev.wire ++ txns ∧ List.Forall₂ Ask.Sent given txns := fun hlog hsent => by
    obtain ⟨txns, hw, hs⟩ := (show Spoke s.dev _ [_] from ⟨[_], hlog, .cons hsent .nil⟩).wire
    exact ⟨_, txns, List.Sublist.refl _, hw, hs⟩
  cases h with
  | refuses _ _ _ hlog =>
      refine ⟨[], [], List.nil_sublist _, ?_, .nil⟩
      rw [List.append_nil]
      exact wire_of_log (Or.inl hlog)
  | keeps _ _ _ heff =>
      obtain ⟨given, hsub, hsp⟩ := heff.spoke
      obtain ⟨txns, hw, hs⟩ := hsp.wire
      exact ⟨given, txns, hsub, hw, hs⟩
  | opens p _ heff =>
      obtain ⟨given, hsub, hsp⟩ := heff.spoke
      obtain ⟨txns, hw, hs⟩ := hsp.wire
      refine ⟨given, txns, hsub, ?_, hs⟩
      rw [hw, wire_of_log (d := s.dev) (Or.inr (congrArg _ (opDeviceClose_noNewLine s.dev).2))]
  | connects id protocolID flags baud p fw d c hf heff hc =>
      obtain ⟨given, hsub, hsp⟩ := heff.spoke
      obtain ⟨txns, hw, hs⟩ := hsp.wire
      refine ⟨given, txns, hsub, ?_, hs⟩
      rw [← hw]
      exact wire_of_log (Or.inl (d.setCh_log fw c))
  | fails id pin voltage _ t hf hk hlog hsent hst hacc => exact hone hlog hsent
  | sets id pin voltage d t hf hk hlog hsent hst hacc =>
      refine hone (t := t) ?_ hsent
      rw [pinsAfter_log]
      exact hlog

/-- **What a run has written, command by command**: of the commands of each step some, in their
    order, and each fits its payload. -/
theorem Talks.given {asked : List (List Ask)} {s : Driver} (h : Talks asked s) :
    ∃ given : List (List Ask), List.Forall₂ List.Sublist given asked ∧
      List.Forall₂ Ask.Sent given.flatten s.dev.wire ∧ ∀ a ∈ given.flatten, a.Fits := by
  induction h with
  | start => exact ⟨[], .nil, .nil, fun a ha => (nomatch ha)⟩
  | @turn asked asks s s' _ hturn ih =>
      obtain ⟨given, hsub, hsent, hfits⟩ := ih
      have hstep : ∃ more txns, List.Sublist more asks ∧ s'.dev.wire = s.dev.wire ++ txns ∧
          List.Forall₂ Ask.Sent more txns ∧ ∀ a ∈ more, a.Fits := by
        cases hturn with
        | arrive a =>
            refine ⟨[], [], List.nil_sublist _, ?_, .nil, fun a ha => (nomatch ha)⟩
            rw [List.append_nil]
            exact wire_of_log (Or.inl (arrive_steady s.dev a).log)
        | call _ c fuel env code hrun hn =>
            obtain ⟨more, txns, hm, hw, hs⟩ := (call_outcome hrun).spoke
            have hall := asks_fit env s.dev c
            rw [← asks_narrow hn]
            exact ⟨more, txns, hm, hw, hs, fun a ha => (hall a (hm.subset ha)).1⟩
      obtain ⟨more, txns, hm, hw, hs, hf⟩ := hstep
      refine ⟨given ++ [more], List.rel_append hsub (.cons hm .nil), ?_, ?_⟩
      · rw [List.flatten_append, List.flatten_singleton, hw]
        exact List.rel_append hsent hs
      · rw [List.flatten_append, List.flatten_singleton]
        intro a ha
        rcases List.mem_append.mp ha with ha | ha
        · exact hfits a ha
        · exact hf a ha

/-! ## 3. The stream -/

/-- What the transport carries of these transactions, one after the other: all of what it was
    given where its write succeeded, and the beginning of it where not. -/
inductive Carried : List Txn → Bytes → Prop where
  | nil : Carried [] []
  | cons {t : Txn} {w : Bytes} {ts : List Txn} {ws : Bytes} : w <+: t.bytes →
    (t.written = .ok → w = t.bytes) →
      Carried ts ws → Carried (t :: ts) (w ++ ws)

/-- A transport that takes everything. -/
theorem Carried.full : ∀ txns : List Txn, Carried txns (txns.flatMap Txn.bytes)
  | [] => .nil
  | _ :: txns => .cons (List.prefix_refl _) (fun _ => rfl) (Carried.full txns)

/-- A command as the device handles it once it was given under this number. -/
def Ask.heard (a : Ask) (t : Txn) : Heard := ⟨(a.command.issued t.seq).text, a.payload⟩

/-- Fitting commands go through the splitter one by one. -/
theorem serve_carried {asks : List Ask} {txns : List Txn} (h : List.Forall₂ Ask.Sent asks txns) :
    (∀ a ∈ asks, a.Fits) → (∀ t ∈ txns, t.written = .ok) → ∀ {bytes : Bytes}, Carried txns bytes →
    ∀ before : List Heard, serve { handled := before } bytes =
      { handled := before ++ List.zipWith Ask.heard asks txns } := by
  induction h with
  | nil =>
      intro _ _ bytes hb before
      cases hb
      show ({ handled := before } : Splitter) = { handled := before ++ [] }
      rw [List.append_nil]
  | @cons a t asks txns hat _ ih =>
      intro hfits hok bytes hb before
      cases hb with
      | @cons _ w _ ws _ hall hrest =>
          have hfit := hfits a List.mem_cons_self
          have hw : w = (a.command.issued t.seq).line ++ a.payload := by
            rw [hall (hok t List.mem_cons_self), Txn.bytes, hat.1, hat.2]
          have hone := serve_command (c := a.command.issued t.seq)
            (by rw [Command.issued_verb]; exact hfit.verb) (hfit.payload t.seq) before
          have hmore := ih (fun b hb => hfits b (List.mem_cons_of_mem _ hb))
            (fun u hu => hok u (List.mem_cons_of_mem _ hu)) hrest (before ++ [a.heard t])
          unfold serve at hone hmore ⊢
          rw [List.foldl_append, hw, hone, List.zipWith_cons_cons]
          rw [List.append_assoc, List.singleton_append] at hmore
          exact hmore

/-- What the device reads in a command it handles. -/
def Heard.read (h : Heard) : Option Command × Bytes := (parseCommand h.line, h.payload)

/-- **The command stream of a run is split back into the commands given.** Of the commands each
    call had to give, in the arguments of its caller, the device handles those that were written,
    in order, with their payloads and nothing else, and reads in each its verb, channel and
    arguments, and behind them the number it was sent under; it ends where a line begins. -/
theorem stream_splits {asked : List (List Ask)} {s : Driver} (h : Talks asked s)
    (hok : ∀ t ∈ s.dev.wire, t.written = .ok) {bytes : Bytes} (hb : Carried s.dev.wire bytes) :
    ∃ (given : List (List Ask)) (handled : List Heard), List.Forall₂ List.Sublist given asked ∧
      given.flatten.length = s.dev.wire.length ∧ serve {} bytes = { handled := handled } ∧
      handled.map Heard.read = List.zipWith (fun (a : Ask) (t : Txn) =>
        (some (a.command.issued t.seq), a.payload)) given.flatten s.dev.wire := by
  obtain ⟨given, hsub, hsent, hfits⟩ := h.given
  refine ⟨given, List.zipWith Ask.heard given.flatten s.dev.wire, hsub, hsent.length_eq, ?_, ?_⟩
  · have := serve_carried hsent hfits hok hb []
    rwa [List.nil_append] at this
  · rw [List.map_zipWith]
    unfold Heard.read Ask.heard
    simp only [parseCommand_text]

/-- A message for the K line whose bytes are CR LF and the beginning of a command. -/
def crLfMsg : PassThruMsg :=
  { protocolID := iso9141, dataSize := 4, data := dataOf [0x0d, 0x0a, 0x61, 0x74] }

/-- The driver behind an opening, a connect and a write of this message. -/
def crLfDriver : Driver :=
  (passThruWriteMsgs (okEnv 259) kLineDriver 3 (some fun _ => crLfMsg) (some 1) 1000).drv

/-- What these calls have to give. -/
def crLfAsked : List (List Ask) :=
  [Call.asks asGiven openedEnv {} (.passThruOpen true),
    Call.asks asGiven (okEnv 258) openedDriver.dev (.passThruConnect 1 iso9141 0 10400 true),
    Call.asks asGiven (okEnv 259) kLineDriver.dev
      (.passThruWriteMsgs 3 (some fun _ => crLfMsg) (some 1) 1000)]

theorem crLfDriver_talks : Talks crLfAsked crLfDriver :=
  .turn (.turn (.turn .start (.call _ _ (.passThruOpen true) 0 openedEnv _ rfl trivial))
    (.call _ _ (.passThruConnect 1 iso9141 0 10400 true) 0 (okEnv 258) _ rfl
      ⟨by decide, by decide⟩))
    (.call _ _ (.passThruWriteMsgs 3 (some fun _ => crLfMsg) (some 1) 1000) 0 (okEnv 259) _ rfl
      (fun msgs e k _ => by cases e; exact Nat.two_pow_pos 32))

/-- What was written. -/
def crLfStream : Bytes :=
  ascii "atz 256\r\nata 257\r\nati\r\nato3 0 10400 0 258\r\natt3 4 0 1000000 259\r\n" ++
    [0x0d, 0x0a, 0x61, 0x74]

/-- The payload is read as no line. -/
theorem stream_splits_crLf : ∃ (given : List (List Ask)) (handled : List Heard),
    List.Forall₂ List.Sublist given crLfAsked ∧ given.flatten.length = crLfDriver.dev.wire.length ∧
      serve {} crLfStream = { handled := handled } ∧
      handled.map Heard.read = List.zipWith (fun (a : Ask) (t : Txn) =>
        (some (a.command.issued t.seq), a.payload)) given.flatten crLfDriver.dev.wire :=
  stream_splits crLfDriver_talks (by decide)
    ((show crLfDriver.dev.wire.flatMap Txn.bytes = crLfStream by decide) ▸ Carried.full _)

end Openport
