/-
  File:      Openport/Stack/Mirrored.lean
  Subject:   The host's periodic messages are the ones that run on the cable.

  In a run of calls whose commands about channels and periodic messages were answered
  in time, the cable does what a `Schedule` does (`Tracks`), so what is proved of the
  host against a schedule (`InStep`) holds against the cable itself: `stack_periodic`.
-/
import Openport.Stack.Followed
import Openport.Stack.Opened
import Openport.Stack.Tables
import Openport.Api.Given

namespace Openport

open Lib Lib.Decimal Lib.Rows Lib.Mirror Simulator

/-! ## 1. Commands as the calls give them -/

/-- A command about channels or periodic messages; `atm` and `atn` are for a channel that is open. -/
inductive Tabular (b : Books) : Ask → Prop where
  | opens (i : Fin 10) (args : List Int) (payload : Bytes) :
      Tabular b ⟨{ verb := 0x6f, channel := some i.val, args := args }, payload⟩
  | closes (i : Fin 10) : Tabular b (askClose i)
  | clears (i : Fin 10) : Tabular b ⟨{ verb := 0x6c, channel := some i.val }, []⟩
  | starts (i : Fin 10) (us flags length : Int) (payload : Bytes) : i ∈ b.channels →
      length = payload.length → Tabular b
        ⟨{ verb := 0x6d, channel := some i.val, args := [us, 0, flags, length] }, payload⟩
  | stops (i : Fin 10) (v : UInt32) : i ∈ b.channels →
      Tabular b ⟨{ verb := 0x6e, channel := some i.val, args := [arg v] }, []⟩

theorem Tabular.verb {b : Books} {a : Ask} (h : Tabular b a) : a.command.verb ∈ tableVerbs := by
  have ho : (0x6f : UInt8) ∈ tableVerbs := by decide
  have hc : (0x63 : UInt8) ∈ tableVerbs := by decide
  have hl : (0x6c : UInt8) ∈ tableVerbs := by decide
  have hm : (0x6d : UInt8) ∈ tableVerbs := by decide
  have hn : (0x6e : UInt8) ∈ tableVerbs := by decide
  cases h with
  | opens => exact ho
  | closes => exact hc
  | clears => exact hl
  | starts => exact hm
  | stops => exact hn

/-- **The cable serves such a command as the schedule does.** -/
theorem Tabular.serves {b b' : Books} {p : Schedule} {a : Ask} {t : Txn} (hf : Tabular b a)
    (ht : Tracks b p) (h : BooksFollow b [t] b') (hs : a.Sent t) (hroom : b.nextPeriodicId < 2 ^ 32) :
    ∃ p', p.Serves t p' ∧ Tracks b' p' := by
  obtain ⟨g, q, hh, hc⟩ := h.one hs.is hf.verb
  have hpay : g.payload = a.payload := hh.payload.trans hs.2
  have hreply := hh.reply (hc ▸ hf.verb)
  have hobeys : ∀ {p' : Schedule},
      p.Obeys (a.command.issued t.seq) (matchedReply q.val.reply) p' → p.Serves t p' :=
    fun ho => ⟨_, _, hs.command, hreply, ho⟩
  cases hf with
  | opens i args payload =>
      exact ⟨p, hobeys rfl, open_obeys ht hh.specified (congrArg Command.verb hc)⟩
  | closes i =>
      exact ⟨_, hobeys rfl, close_obeys ht hh.specified (congrArg Command.verb hc)
        (congrArg Command.channel hc)⟩
  | clears i =>
      obtain ⟨p', ho, ht'⟩ := clear_obeys ht hh.specified (congrArg Command.verb hc)
        (congrArg Command.channel hc)
      exact ⟨p', hobeys ho, ht'⟩
  | starts i us flags length payload hi hlen =>
      have hargs : g.command.args.getD 3 0 = g.payload.length := by
        rw [hc, hpay]
        exact hlen
      obtain ⟨p', ho, ht'⟩ := start_obeys ht hh.specified (congrArg Command.verb hc)
        (congrArg Command.channel hc) hi hargs hroom
      exact ⟨p', hobeys ho, ht'⟩
  | stops i v hi =>
      obtain ⟨p', ho, ht'⟩ := stop_obeys ht hh.specified (congrArg Command.verb hc)
        (congrArg Command.channel hc) hi (congrArg Command.args hc)
      exact ⟨p', hobeys ho, ht'⟩

/-- What a call about channels or periodic messages wrote. -/
inductive CallWrote (b : Books) (d d' : OpDevice) : Prop where
  | nothing : d'.log = d.log → CallWrote b d d'
  | one (t : Txn) (a : Ask) : d'.log = .txn t :: d.log → a.Sent t → Tabular b a → CallWrote b d d'
  | two (t u : Txn) (a : Ask) (i : Fin 10) : d'.log = .txn u :: .txn t :: d.log → a.Sent t →
      Tabular b a → (askClose i).Sent u → CallWrote b d d'

/-- Its part of the log is served. -/
theorem CallWrote.between {b b' : Books} {d d' : OpDevice} {p : Schedule} {new : List Txn}
    (h : CallWrote b d d') (ht : Tracks b p) (hlog : d'.log = new.map Event.txn ++ d.log)
    (hf : BooksFollow b new b') (hroom : b'.nextPeriodicId < 2 ^ 32) :
    ∃ p', p.Between d d' p' ∧ Tracks b' p' := by
  have hb : b.nextPeriodicId < 2 ^ 32 := Nat.lt_of_le_of_lt hf.periodicIds hroom
  cases h with
  | nothing hsame =>
      obtain rfl : new = [] := txns_same hlog hsame
      cases hf
      exact ⟨p, ⟨[], hsame, .nil p⟩, ht⟩
  | one t a hone hs htab =>
      obtain rfl : new = [t] := txns_same hlog hone
      obtain ⟨p', hserves, ht'⟩ := htab.serves ht hf hs hb
      exact ⟨p', ⟨[t], hone, .cons hserves (.nil p')⟩, ht'⟩
  | two t u a i htwo hs htab hs' =>
      obtain rfl : new = [u, t] := txns_same hlog htwo
      have hboth : BooksFollow b ([u] ++ [t]) b' := hf
      obtain ⟨b1, hf1, hf2⟩ := hboth.split
      obtain ⟨p1, hserves, ht1⟩ := htab.serves ht hf1 hs hb
      have hb1 : b1.nextPeriodicId < 2 ^ 32 := Nat.lt_of_le_of_lt hf2.periodicIds hroom
      obtain ⟨p2, hserves', ht2⟩ := (Tabular.closes i).serves ht1 hf2 hs' hb1
      exact ⟨p2, ⟨[t, u], htwo, .cons hserves (.cons hserves' (.nil p2))⟩, ht2⟩

/-! ## 2. The calls about them -/

theorem Issues.log {G : Bytes → Bytes → Prop} {d d' : OpDevice} (h : Issues G d d')
    (hno : ∀ line payload, ¬G line payload) : d'.log = d.log := by
  induction h with
  | silent hs => exact hs.log
  | command x timeoutMs wait hg => exact absurd hg (hno _ _)
  | trans _ _ ih ih' => exact ih'.trans ih

/-- A call of one command. -/
theorem Effect.wrote {b : Books} {d d' : OpDevice} {a : Ask} (h : Effect d d' [a])
    (ha : Tabular b a) : CallWrote b d d' := by
  obtain ⟨given, hsub, txns, hlog, hall⟩ := h.spoke
  rcases List.sublist_singleton.mp hsub with rfl | rfl
  · cases hall
    exact .nothing hlog
  · cases hall with
    | cons hs hnil =>
        cases hnil
        exact .one _ a hlog hs ha

/-- A call for a channel that is not open gives no command. -/
theorem call_silent {fuel : Nat} {env : CallEnv} {s s' : Driver} {c : Call} {code : Nat} {b : Books}
    (hrun : c.run fuel env s = some (code, s')) (hs : ∀ d, c.begins env s.dev d → d = s.dev)
    (hno : ∀ line payload, ¬c.Gives env s.dev line payload) : CallWrote b s.dev s'.dev := by
  obtain ⟨d, hd, hissues⟩ := call_issues hrun
  obtain rfl := hs d hd
  exact .nothing (hissues.log hno)

theorem Gave.wrote {b : Books} {d d' : OpDevice} {a : Ask} {c : Nat × Option OpReply × OpDevice}
    (h : Gave d a c) (ha : Tabular b a) (hd : d'.log = c.2.2.log) : CallWrote b d d' := by
  rcases h.ended with ⟨hsame, -⟩ | ⟨t, hlog, hs, -⟩
  · exact .nothing (hd.trans hsame)
  · exact .one t a (hd.trans hlog) hs ha

theorem passThruConnect_wrote (env : CallEnv) (s : Driver) (b : Books)
    (deviceID protocolID flags baudRate : UInt64) (pChannelID : Bool) : CallWrote b s.dev
      (passThruConnect env s deviceID protocolID flags baudRate pChannelID).drv.dev := by
  have hends := passThruConnect_ends env s deviceID protocolID flags baudRate pChannelID
  generalize (passThruConnect env s deviceID protocolID flags baudRate pChannelID).drv.dev = dev
    at hends
  rcases hends with rfl | ⟨fw, c, -, hc, hend⟩
  · exact .nothing rfl
  have htab : Tabular b (askOpen fw flags baudRate) := .opens fw _ _
  rcases hend with rfl | ⟨-, ⟨m, rfl⟩ | ⟨c', hc', rfl⟩⟩
  · exact hc.wrote htab rfl
  · exact hc.wrote htab rfl
  · -- without memory `atc` comes behind `ato`
    rcases hc'.ended with ⟨hsame, -⟩ | ⟨u, hlog', hs', -⟩
    · exact hc.wrote htab hsame
    · rcases hc.ended with ⟨hsame, -⟩ | ⟨t, hlog, hs, -⟩
      · exact .one u _ (hlog'.trans (congrArg (Event.txn u :: ·) hsame)) hs' (.closes fw)
      · exact .two t u _ fw (hlog'.trans (congrArg (Event.txn u :: ·) hlog)) hs htab hs'

/-- **What such a call writes**, where every channel the host has open is open on the cable. -/
theorem call_wrote {fuel : Nat} {env : CallEnv} {s s' : Driver} {c : Call} {code : Nat} {b : Books}
    (hrun : c.run fuel env s = some (code, s')) (hc : c.schedules)
    (hon : ∀ i, (s.dev.ch i).isOpen = true → i ∈ b.channels) : CallWrote b s.dev s'.dev := by
  cases c with
  | passThruConnect id protocolID flags baud out =>
      cases hrun
      exact passThruConnect_wrote env s b id protocolID flags baud out
  | passThruDisconnect ch =>
      cases hrun
      rcases passThruDisconnect_cases env s ch with e | ⟨i, c, hc, e⟩
      · rw [e]
        exact .nothing rfl
      · rw [e]
        exact hc.wrote (.closes i) rfl
  | passThruStartPeriodicMsg ch m out interval =>
      cases hi : channelOf s.dev ch with
      | none =>
          refine call_silent hrun (fun _ e => e) fun line payload h => ?_
          cases h with
          | startsPeriodic _ _ _ i hi' => exact nomatch hi.symm.trans hi'
      | some i =>
          obtain ⟨hopen, hid⟩ := channelOf_some hi
          cases hrun
          have heff := passThruStartPeriodicMsg_effect env s ch m out interval
          cases m with
          | none =>
              obtain ⟨given, hsub, txns, hlog, hall⟩ := heff.spoke
              obtain rfl := List.sublist_nil.mp hsub
              cases hall
              exact .nothing hlog
          | some m =>
              have htab := Tabular.starts i (printed interval * 1000) (printed m.txFlags) _ _
                (hon i hopen) (congrArg Int.ofNat m.payload_length).symm
              rw [← hid] at htab
              exact heff.wrote htab
  | passThruStopPeriodicMsg ch id =>
      cases hi : channelOf s.dev ch with
      | none =>
          refine call_silent hrun (fun _ e => e) fun line payload h => ?_
          cases h with
          | stopsPeriodic _ _ i hi' => exact nomatch hi.symm.trans hi'
      | some i =>
          obtain ⟨hopen, hid⟩ := channelOf_some hi
          cases hrun
          refine (passThruStopPeriodicMsg_effect env s ch id).wrote ?_
          rw [hid]
          exact .stops i id.toUInt32 (hon i hopen)
  | passThruIoctl ch id input output =>
      obtain rfl : id = clearPeriodicMsgs := hc
      cases hi : channelOf s.dev ch with
      | none =>
          refine call_silent hrun (fun _ e => e) fun line payload h => ?_
          cases h with
          | clearsPeriodic _ _ _ i hi' => exact nomatch hi.symm.trans hi'
      | some i =>
          obtain ⟨-, hid⟩ := channelOf_some hi
          cases hrun
          have heff : Effect s.dev _ (ioctlAsks printed ch.toNat clearPeriodicMsgs input) :=
            passThruIoctl_effect env s ch clearPeriodicMsgs input output
          have hasks : ioctlAsks printed ch.toNat clearPeriodicMsgs input =
              [⟨{ verb := 0x6c, channel := some ch.toNat }, []⟩] := rfl
          rw [hasks, hid] at heff
          exact heff.wrote (.clears i)
  | _ => exact hc.elim

/-! ## 3. The other calls -/

/-- They give no command about channels or periodic messages. -/
theorem call_spares {fuel : Nat} {env : CallEnv} {s s' : Driver} {c : Call} {code : Nat}
    (hrun : c.run fuel env s = some (code, s')) (hs : ¬c.sessions) (hc : ¬c.schedules) :
    Only (fun c => c.verb ∉ tableVerbs) s.dev s'.dev := by
  refine (call_outcome hrun).only ?_ fun h => h (by decide)
  have hplain : (∀ v ∈ c.verbs, v ∉ tableVerbs) →
      ∀ a ∈ c.asks printed env s.dev, a.command.verb ∉ tableVerbs :=
    fun h a ha => h _ (asks_verbs printed env s.dev c a ha)
  cases c with
  | passThruIoctl ch id input output =>
      intro a ha
      have hall : ∀ v ∈ plainIoctlVerbs, v ∉ tableVerbs := by simp [plainIoctlVerbs, tableVerbs]
      rcases ioctlAsks_verbs printed ch.toNat id input a ha with h | ⟨h, -⟩
      · exact hall _ h
      · exact absurd h hc
  | passThruOpen p => exact absurd trivial hs
  | passThruClose id => exact absurd trivial hs
  | passThruConnect id protocolID flags baud p => exact absurd trivial hc
  | passThruDisconnect ch => exact absurd trivial hc
  | passThruStartPeriodicMsg ch m p interval => exact absurd trivial hc
  | passThruStopPeriodicMsg ch id => exact absurd trivial hc
  | _ =>
      refine hplain ?_
      simp [Call.verbs, tableVerbs]

/-- What the log of such calls leaves alone. -/
theorem Only.tracks {b b' : Books} {d d' : OpDevice} {p : Schedule} {new : List Txn}
    (h : Only (fun c => c.verb ∉ tableVerbs) d d') (hlog : d'.log = new.map Event.txn ++ d.log)
    (hf : BooksFollow b new b') (ht : Tracks b p) : Tracks b' p := by
  refine hf.keeps (P := fun b => Tracks b p) (G := fun c => c.verb ∉ tableVerbs)
    (fun b g q b' hspec hv ht => other_obeys ht hspec hv) (fun t hin c hc => ?_) ht
  obtain ⟨txns, hlog', hall⟩ := h
  obtain rfl := txns_same hlog hlog'
  obtain ⟨a, ha, hv⟩ := hall t hin
  rw [hc.inj ha.is]
  exact hv

/-! ## 4. Open channels -/

theorem mem_on {b : Books} {i : Fin 10} : i ∈ b.channels ↔ ∃ flags baud, b.On i flags baud := by
  constructor
  · intro h
    obtain ⟨c, hc⟩ := exists_lookup h
    exact ⟨_, _, c, hc, rfl, rfl⟩
  · rintro ⟨flags, baud, c, hc, -⟩
    exact mem_of_lookup hc

/-- **A channel the host has open behind a call is open on the cable.** -/
theorem call_on {fuel : Nat} {env : CallEnv} {s s' : Driver} {c : Call} {code : Nat}
    (hrun : c.run fuel env s = some (code, s')) (hopen : s'.dev.opened = true) {b b' : Books}
    {new : List Txn} (hlog : s'.dev.log = new.map Event.txn ++ s.dev.log) (hf : BooksFollow b new b')
    (hon : s.dev.opened = true → ∀ i, (s.dev.ch i).isOpen = true → i ∈ b.channels) {i : Fin 10}
    (hi : (s'.dev.ch i).isOpen = true) : i ∈ b'.channels := by
  rcases call_leaves hrun hopen hi with ⟨flags, baud, t, hone, ht⟩ | ⟨⟨hopen', hi'⟩, hleaves⟩
  · obtain rfl : new = [t] := txns_same hlog hone
    have hv : (askOpen i flags baud).command.verb ∈ tableVerbs := by
      show (0x6f : UInt8) ∈ tableVerbs
      decide
    obtain ⟨g, q, hh, hc⟩ := hf.one ht.sent.is hv
    obtain ⟨r, hr, hstatus⟩ := ht.accepted
    have hreply := hh.reply (hc ▸ hv)
    obtain rfl : matchedReply q.val.reply = r := Option.some.inj (hreply.symm.trans hr)
    exact mem_on.mpr ⟨_, _, hh.specified.opens (m := 0) (by rw [hc]; rfl) (by rw [hc]; rfl)
      (by rw [hc]; rfl) (done_ok hh.specified hstatus)⟩
  · obtain ⟨txns, hlog', hall⟩ := hleaves
    obtain rfl := txns_same hlog hlog'
    obtain ⟨flags, baud, ho⟩ := mem_on.mp (hon hopen' i hi')
    refine mem_on.mpr ⟨flags, baud, hf.keeps (P := fun b => b.On i flags baud)
      (G := fun c => ¬Shuts c i) (fun b g q b' hspec hg ho => hspec.stays hg ho) ?_ ho⟩
    intro t hin c hc
    obtain ⟨a, ha, hno⟩ := hall t hin
    rw [hc.inj ha.is]
    exact hno

/-- Only `PassThruOpen` opens the session. -/
theorem call_opened {fuel : Nat} {env : CallEnv} {s s' : Driver} {c : Call} {code : Nat}
    (hrun : c.run fuel env s = some (code, s')) (hs : ¬c.sessions) (hopen : s'.dev.opened = true) :
    s.dev.opened = true := by
  have hout := call_outcome hrun
  generalize s'.dev = d at hout hopen
  cases hout with
  | refuses _ _ hn _ => exact hn.opened hopen
  | keeps _ _ _ heff => exact heff.lines.opened hopen
  | opens p _ _ => exact absurd trivial hs
  | connects id protocolID flags baud p fw d' c' _ heff _ => exact heff.lines.opened hopen
  | fails id pin voltage _ t _ hk _ _ _ _ => exact hk.noNewLine.opened hopen
  | sets id pin voltage d' t _ hk _ _ _ _ =>
      rw [(pinsAfter_session d' pin voltage).1] at hopen
      exact hk.noNewLine.opened hopen

/-- A call that begins or ends a session, with the session open behind it and no new one in the
    log, did nothing. -/
theorem session_same {fuel : Nat} {env : CallEnv} {s s' : Driver} {c : Call} {code : Nat}
    (hrun : c.run fuel env s = some (code, s')) (hs : c.sessions) (hopen : s'.dev.opened = true)
    {new : List Txn} (hlog : s'.dev.log = new.map Event.txn ++ s.dev.log) : s'.dev = s.dev := by
  cases c with
  | passThruOpen p =>
      cases hrun
      rcases passThruOpen_cases env s p with e | heff
      · exact e
      · -- a new session is in the log
        obtain ⟨given, -, txns, hlog', -⟩ := heff.spoke
        have hin : Event.session ∈ new.map Event.txn := by
          have hbegun : (newSession (opDeviceClose s.dev) env.opening.clock).log =
              .session :: s.dev.log := congrArg (Event.session :: ·) (opDeviceClose_noNewLine s.dev).2
          rw [hbegun, List.append_cons] at hlog'
          rw [List.append_cancel_right (hlog.symm.trans hlog')]
          exact List.mem_append_right _ List.mem_cons_self
        obtain ⟨u, -, hu⟩ := List.mem_map.mp hin
        cases hu
  | passThruClose id =>
      cases hrun
      unfold passThruClose at hopen ⊢
      simp only at hopen ⊢
      split at hopen
      · rename_i h1
        rw [if_pos h1]
        exact Driver.fail_dev _ _ _
      · rw [Driver.failed_dev, opDeviceClose_opened] at hopen
        cases hopen
  | _ => exact hs.elim

/-! ## 5. Runs -/

/-- The host, the schedule and the cable agree. -/
structure Agree (d : OpDevice) (b : Books) (p : Schedule) : Prop where
  inStep : InStep d p
  tracks : Tracks b p
  on : ∀ i, (d.ch i).isOpen = true → i ∈ b.channels

/-- **A call keeps them in agreement.** -/
theorem call_agree {fuel : Nat} {env : CallEnv} {s s' : Driver} {c : Call} {code : Nat}
    (hrun : c.run fuel env s = some (code, s')) (hopen : s'.dev.opened = true) {b b' : Books}
    {new : List Txn} (hlog : s'.dev.log = new.map Event.txn ++ s.dev.log) (hf : BooksFollow b new b')
    (hroom : b'.nextPeriodicId < 2 ^ 32) (h : s.dev.opened = true → ∃ p, Agree s.dev b p) :
    ∃ p, Agree s'.dev b' p := by
  have hon : ∀ i, (s'.dev.ch i).isOpen = true → i ∈ b'.channels := fun i hi =>
    call_on hrun hopen hlog hf (fun ho => (h ho).choose_spec.on) hi
  by_cases hs : c.sessions
  · have e := session_same hrun hs hopen hlog
    obtain rfl : new = [] := txns_same hlog (congrArg OpDevice.log e)
    cases hf
    rw [e] at hopen ⊢
    exact h hopen
  by_cases hc : c.schedules
  · have hopened : s.dev.opened = true := call_opened hrun hs hopen
    obtain ⟨p, hp⟩ := h hopened
    obtain ⟨p', hb, ht⟩ := (call_wrote hrun hc hp.on).between hp.tracks hlog hf hroom
    exact ⟨p', inStep_step hp.inStep (.call s s' p p' c fuel env code hc hrun hb), ht, hon⟩
  · have htab := call_tabled hrun hs hc
    obtain ⟨p, hp⟩ := h (htab.opened.symm.trans hopen)
    refine ⟨p, ⟨hopen, fun i hi => ?_, fun i hi => ?_⟩,
      (call_spares hrun hs hc).tracks hlog hf hp.tracks, hon⟩
    · rw [htab.periodic]
      exact hp.inStep.mirrors i ((htab.isOpen i).symm.trans hi)
    · exact (hp.inStep.quiet i ((htab.isOpen i).symm.trans hi)).imp_left htab.lost

/-- Something arrives between two calls. -/
theorem arrive_agree {d : OpDevice} {b : Books} {p : Schedule} (h : Agree d b p) (a : Arrival) :
    Agree (arrive d a) b p := by
  have hst := arrive_steady d a
  refine ⟨h.inStep.kept hst.kept fun hl => arrive_lost hl a, h.tracks, fun i hi => ?_⟩
  exact h.on i ((hst.kept.isOpen i).symm.trans hi)

/-- Nothing is open on either side. -/
theorem agree_start {d : OpDevice} {b : Books} (hopen : d.opened = true)
    (hshut : ∀ i, (d.ch i).isOpen = false) (hnone : b.channels = ∅) : Agree d b .empty := by
  have hruns : ∀ i id, ¬Runs b.channels i id := by
    rintro i id ⟨c, hc, -⟩
    rw [hnone] at hc
    cases hc
  refine ⟨⟨hopen, fun i hi => ?_, fun i _ => Or.inr rfl⟩, ⟨fun i id => ?_, fun id hid => ?_,
    fun i id hid => absurd hid (hruns i id)⟩, fun i hi => ?_⟩
  · exact absurd ((hshut i).symm.trans hi) (by decide)
  · exact ⟨fun hid => absurd hid (Finset.notMem_empty id), fun hid => absurd hid (hruns i _)⟩
  · exact absurd hid (Finset.notMem_empty id)
  · exact absurd ((hshut i).symm.trans hi) (by decide)

/-- **They agree in every run**, as far as the books follow its log. -/
theorem agree_run {s₀ s : Driver} (hshut : ∀ i, (s₀.dev.ch i).isOpen = false)
    (hrun : Relation.ReflTransGen Moves s₀ s) {b₀ : Books} (hnone : b₀.channels = ∅) :
    ∀ {txns : List Txn} {b : Books}, s.dev.log = txns.map Event.txn ++ s₀.dev.log →
      BooksFollow b₀ txns b → b.nextPeriodicId < 2 ^ 32 → s.dev.opened = true →
      ∃ p, Agree s.dev b p := by
  induction hrun with
  | refl =>
      intro txns b hlog hf _ hopen
      obtain rfl : txns = [] := txns_same hlog rfl
      cases hf
      exact ⟨_, agree_start hopen hshut hnone⟩
  | @tail s s' hsteps hm ih =>
      intro txns b hlog hf hroom hopen
      cases hm with
      | arrive a =>
          obtain ⟨p, hp⟩ := ih ((arrive_steady s.dev a).log.symm.trans hlog) hf hroom
            ((arrive_steady s.dev a).opened.symm.trans hopen)
          exact ⟨p, arrive_agree hp a⟩
      | call _ c fuel env code hcall =>
          obtain ⟨events, hevents⟩ := call_logs hcall
          obtain ⟨more, hmore⟩ := run_logs hsteps
          have hall : txns.map Event.txn = events ++ more := by
            refine List.append_cancel_right (hlog.symm.trans ?_)
            rw [hevents, hmore, List.append_assoc]
          obtain ⟨new, old, rfl, rfl, rfl⟩ := List.map_eq_append_iff.mp hall
          obtain ⟨b1, hold, hnew⟩ := hf.split
          exact call_agree hcall hopen hevents hnew hroom fun ho =>
            ih hmore hold (Nat.lt_of_le_of_lt hnew.periodicIds hroom) ho

/-! ## 6. On the cable -/

/-- The host's ids of a channel are the cable's. -/
theorem Tracks.perm {b : Books} {p : Schedule} {ids : List UInt32} {i : Fin 10} {c : Channel}
    (ht : Tracks b p) (hm : Mirrors ids (p.live i.val)) (hc : b.channels.lookup i = some c)
    (hroom : b.nextPeriodicId < 2 ^ 32) : (ids.map arg).Perm c.periodic.keys := by
  refine (List.perm_ext_iff_of_nodup (hm.nodup.map fun _ _ e => arg_inj e)
    c.periodic.keys_nodup).mpr fun id => ?_
  rw [List.mem_map]
  constructor
  · rintro ⟨v, hv, rfl⟩
    obtain ⟨c', hc', hid⟩ := (ht.live i v).mp ((hm.mem v).mp hv)
    obtain rfl := Option.some.inj (hc.symm.trans hc')
    exact AList.mem_keys.mp hid
  · intro hid
    have hin := AList.mem_keys.mpr hid
    obtain ⟨h0, h1⟩ := ht.ids i id ⟨c, hc, hin⟩
    have hback : (((UInt32.ofNat id.toNat).toNat : Nat) : Int) = id := by
      rw [ofNat_toNat (by omega), Int.toNat_of_nonneg h0]
    refine ⟨UInt32.ofNat id.toNat, (hm.mem _).mpr ((ht.live i _).mpr ⟨c, hc, ?_⟩), hback⟩
    rw [hback]
    exact hin

/-- **The host's periodic messages are the ones that run on the cable**: in a run of calls and the
    system under it whose commands about channels and periodic messages were all answered in time,
    every channel the host has open is open on the cable with the messages of the host's table and no
    others; and on a channel the host has closed nothing runs, unless the cable went away. -/
theorem stack_periodic {e : Setup} (hp : e.Plain) (hinit : e.wire.initReply = .aro)
    (hans : e.Answerable) {s₀ s : Driver} (h₀ : ∀ i, (s₀.dev.ch i).isOpen = false)
    (hrun : Relation.ReflTransGen Moves s₀ s) {l0 l : Loop} (hnone : l0.cable.sim.channels = ∅)
    {txns : List Txn} (hj : Joint e s₀.dev s.dev l0 l txns) (hprompt : Prompt txns)
    (hopen : s.dev.opened = true) (i : Fin 10) :
    ((s.dev.ch i).isOpen = true → ∃ c, l.cable.sim.channels.lookup i = some c ∧
      ((s.dev.ch i).periodic.map arg).Perm c.periodic.keys) ∧
    ((s.dev.ch i).isOpen = false → s.dev.lost = true ∨
      ∀ c, l.cable.sim.channels.lookup i = some c → c.periodic.keys = []) := by
  obtain ⟨hist, hrow⟩ := hj.rowed hp hinit hans
  have hroom : l.cable.sim.books.nextPeriodicId < 2 ^ 32 := by
    obtain ⟨todo, hlin⟩ := hrow.linear
    have hslow : ∀ (b : Books) (g : Given × WireRecord) (b' : Books), Specified b g.1 g.2 b' →
        b'.counter .periodic ≤ b.counter .periodic + 1 := fun _ _ _ hs => hs.slow _
    have hclimbs : l.cable.sim.books.nextPeriodicId ≤
        l0.cable.sim.books.nextPeriodicId + hist.row.length := Row.climbs hslow hlin.books
    have hzero : l0.cable.sim.books.nextPeriodicId = 0 := Nat.le_zero.mp hj.start.ready.periodicIds
    have hlen : hist.row.length = hist.length := List.length_map _
    have hfew := hrow.few
    have hbound := hj.bound
    have hcount : numberCount < 2 ^ 32 := by decide
    omega
  have hempty : l0.cable.sim.books.channels = ∅ := hnone
  obtain ⟨p, ha⟩ := agree_run h₀ hrun hempty hj.asked (hrow.follows hprompt) hroom hopen
  refine ⟨fun hi => ?_, fun hi => (ha.inStep.quiet i hi).imp_right fun hnone c hc => ?_⟩
  · obtain ⟨c, hc⟩ := exists_lookup (ha.on i hi)
    exact ⟨c, hc, ha.tracks.perm (ha.inStep.mirrors i hi) hc hroom⟩
  · have hnil : Mirrors ([] : List UInt32) (p.live i.val) := by
      rw [hnone]
      exact mirrors_nil
    exact List.nil_perm.mp (ha.tracks.perm hnil hc hroom)

/-- A CAN frame without data, every 100 ms. -/
def beatMsg : PassThruMsg := { protocolID := can, dataSize := 4 }

def beatCall : Ret UInt64 :=
  passThruStartPeriodicMsg { exchange := fun _ => answeredBy (ascii "arm5 0 301\r\n") } connectedDriver
    5 (some beatMsg) true 100

def beatDriver : Driver := beatCall.drv

theorem beatDriver_run : Relation.ReflTransGen Moves stackDriver beatDriver :=
  connectedDriver_run.tail (.call _ _ (.passThruStartPeriodicMsg 5 (some beatMsg) true 100) 0
    { exchange := fun _ => answeredBy (ascii "arm5 0 301\r\n") } statusNoerror rfl)

/-- What they put on the wire: "ato5 0 500000 0" and "atm5 100000 0 0 4". -/
def beatCommands : List (Command × Bytes) :=
  [(openCommand, []),
    ({ verb := 0x6d, channel := some 5, args := [100000, 0, 0, 4] }, [0, 0, 0, 0])]

theorem beatCommands_spoken : ∀ c ∈ beatCommands,
    Spoken c.1 ∧ ∀ seq, c.2.length = (c.1.issued seq).declares := by
  intro c hc
  unfold beatCommands at hc
  simp only [List.mem_cons, List.not_mem_nil, or_false] at hc
  have hchannel : ∀ c : Command, c.channel = some 5 → c.verb ∈ ofChannel → ∃ i : Fin 10,
      c.channel = some i.val := fun c h _ => ⟨5, h⟩
  rcases hc with rfl | rfl
  · exact ⟨⟨rfl, by decide, by decide, hchannel _ rfl, by decide, by decide⟩, fun _ => rfl⟩
  · exact ⟨⟨rfl, by decide, by decide, hchannel _ rfl, by decide, by decide⟩, fun _ => rfl⟩

/-- One message runs, on both sides. -/
theorem stack_periodic_sample : ∃ l txns c, Joint answering stackDriver.dev beatDriver.dev
    sampleLoop l txns ∧ (beatDriver.dev.ch 5).periodic = [0] ∧
      l.cable.sim.channels.lookup 5 = some c ∧
      ((beatDriver.dev.ch 5).periodic.map arg).Perm c.periodic.keys := by
  obtain ⟨l, hj⟩ := joint_roundTrips (d := beatDriver.dev) beatCommands_spoken (by decide +kernel)
  have hprompt : Prompt (beatDriver.dev.log.filterMap Event.written) := by
    have hall : ∀ t ∈ beatDriver.dev.log.filterMap Event.written,
        t.waited = true ∧ t.result = .ok := by decide +kernel
    exact fun t ht _ _ _ => hall t ht
  obtain ⟨c, hc, hperm⟩ := (stack_periodic answering_plain rfl answering_answers (by decide)
    beatDriver_run rfl hj hprompt (by decide +kernel) 5).1 (by decide +kernel)
  exact ⟨l, _, c, hj, by decide +kernel, hc, hperm⟩

end Openport
