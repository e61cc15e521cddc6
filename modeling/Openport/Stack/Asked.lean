/-
  File:      Openport/Stack/Asked.lean
  Subject:   Which commands a call gives, and what its part of the log may hold.

  `Only G` says of a part of the log that every transaction in it was asked for by a
  command of the kind `G`. A call whose commands are all of that kind writes such a
  part, and so does a run of such calls.
-/
import Openport.Api.Acked
import Openport.Api.Periodic
import Openport.Stack.Joint

namespace Openport

open Lib Lib.Decimal Lib.Rows Simulator

/-! ## 1. The verbs of a call -/

/-- The verbs of `PassThruIoctl`. -/
def ioctlVerbs : List UInt8 := [0x72, 0x67, 0x73, 0x77, 0x79, 0x6c, 0x6b]

/-- The verbs of the commands a call gives. -/
def Call.verbs : Call → List UInt8
  | .passThruOpen _ => [0x7a, 0x61, 0x69]
  | .passThruClose _ => [0x7a]
  | .passThruConnect .. => [0x6f, 0x63]
  | .passThruDisconnect _ => [0x63]
  | .passThruReadMsgs .. => []
  | .passThruWriteMsgs .. => [0x74]
  | .passThruStartPeriodicMsg .. => [0x6d]
  | .passThruStopPeriodicMsg .. => [0x6e]
  | .passThruStartMsgFilter .. => [0x66]
  | .passThruStopMsgFilter .. => [0x6b]
  | .passThruSetProgrammingVoltage .. => [0x76]
  | .passThruReadVersion .. => []
  | .passThruGetLastError _ => []
  | .passThruIoctl .. => ioctlVerbs

/-- A single command's verb. -/
theorem verb_one {a b : Ask} {vs : List UInt8} (v : UInt8) (hb : b.command.verb = v) (hv : v ∈ vs)
    (h : a ∈ [b]) : a.command.verb ∈ vs := by
  rw [List.mem_singleton.mp h, hb]
  exact hv

/-- Those but `atl`, which clears the periodic messages. -/
def plainIoctlVerbs : List UInt8 := [0x72, 0x67, 0x73, 0x77, 0x79, 0x6b]

theorem initAsks_verbs (ch : Nat) (fiveBaud : Bool) (input : IoctlIn) :
    ∀ a ∈ initAsks ch fiveBaud input, a.command.verb ∈ plainIoctlVerbs := by
  intro a ha
  unfold initAsks at ha
  split at ha
  · split at ha
    · cases ha
    · exact verb_one 0x77 rfl (by decide) ha
  · split at ha
    · exact verb_one 0x79 rfl (by decide) ha
    · exact verb_one 0x79 rfl (by decide) ha

theorem ioctlAsks_verbs (w : UInt64 → Int) (ch : Nat) (id : UInt64) (input : IoctlIn) :
    ∀ a ∈ ioctlAsks w ch id input, a.command.verb ∈ plainIoctlVerbs ∨
      id = clearPeriodicMsgs ∧ a.command.verb = 0x6c := by
  intro a ha
  have hget : (0x67 : UInt8) ∈ plainIoctlVerbs := by decide
  have hset : (0x73 : UInt8) ∈ plainIoctlVerbs := by decide
  unfold ioctlAsks channelAsks at ha
  split at ha
  · exact Or.inl (verb_one 0x72 rfl (by decide) ha)
  split at ha
  · exact Or.inl (verb_one 0x72 rfl (by decide) ha)
  split at ha
  · split at ha
    · split at ha
      · cases ha
      · exact Or.inl (configAsks_forall (P := fun a => a.command.verb ∈ plainIoctlVerbs)
          (fun _ => hget) _ _ _ a ha)
    split at ha
    · split at ha
      · cases ha
      · exact Or.inl (configAsks_forall (P := fun a => a.command.verb ∈ plainIoctlVerbs)
          (fun _ => hset) _ _ _ a ha)
    split at ha
    · exact Or.inl (initAsks_verbs ch true input a ha)
    split at ha
    · exact Or.inl (initAsks_verbs ch false input a ha)
    split at ha
    · cases ha
    split at ha
    · rename_i hclear
      rw [List.mem_singleton.mp ha]
      exact Or.inr ⟨hclear, rfl⟩
    · exact Or.inl (verb_one 0x6b rfl (by decide) ha)
  · cases ha

/-- **A call gives commands of its verbs only.** -/
theorem asks_verbs (w : UInt64 → Int) (env : CallEnv) (d : OpDevice) (c : Call) :
    ∀ a ∈ c.asks w env d, a.command.verb ∈ c.verbs := by
  intro a ha
  cases c with
  | passThruReadMsgs ch p n timeout => cases ha
  | passThruReadVersion id p1 p2 p3 => cases ha
  | passThruGetLastError p => cases ha
  | passThruSetProgrammingVoltage id pin voltage => exact verb_one 0x76 rfl List.mem_cons_self ha
  | passThruOpen p =>
      have hreset : (0x7a : UInt8) ∈ ([0x7a, 0x61, 0x69] : List UInt8) := by decide
      have hall : (0x61 : UInt8) ∈ ([0x7a, 0x61, 0x69] : List UInt8) := by decide
      have hinfo : (0x69 : UInt8) ∈ ([0x7a, 0x61, 0x69] : List UInt8) := by decide
      simp only [Call.asks, List.mem_cons, List.not_mem_nil, or_false] at ha
      rcases ha with rfl | rfl | rfl | rfl | rfl
      · exact hreset
      · exact hreset
      · exact hreset
      · exact hall
      · exact hinfo
  | passThruClose id => exact verb_one 0x7a rfl List.mem_cons_self ha
  | passThruConnect id protocolID flags baud p =>
      rw [Call.asks] at ha
      split at ha
      · cases ha
      · rcases List.mem_cons.mp ha with rfl | ha
        · exact List.mem_cons_self
        · exact verb_one 0x63 rfl (List.mem_cons_of_mem _ List.mem_cons_self) ha
  | passThruDisconnect ch => exact verb_one 0x63 rfl List.mem_cons_self ha
  | passThruWriteMsgs ch p n timeout =>
      rw [Call.asks] at ha
      split at ha
      · cases ha
      · exact writeAsks_forall (P := fun a => a.command.verb ∈ [0x74]) (fun _ _ => List.mem_cons_self)
          env d timeout _ _ a ha
  | passThruStartPeriodicMsg ch m p interval =>
      change a ∈ periodicAsks w ch.toNat m interval at ha
      unfold periodicAsks at ha
      split at ha
      · cases ha
      · exact verb_one 0x6d rfl List.mem_cons_self ha
  | passThruStopPeriodicMsg ch id => exact verb_one 0x6e rfl List.mem_cons_self ha
  | passThruStartMsgFilter ch type mask pattern flow p =>
      change a ∈ filterAsks w ch.toNat type mask pattern flow at ha
      unfold filterAsks at ha
      split at ha
      · simp only at ha
        generalize (if opFilterMsgCount type.toUInt32 = 2 then none else flow) = appended at ha
        split at ha
        · exact verb_one 0x66 rfl List.mem_cons_self ha
        · cases ha
      · cases ha
  | passThruStopMsgFilter ch id => exact verb_one 0x6b rfl List.mem_cons_self ha
  | passThruIoctl ch id input output =>
      have hall : plainIoctlVerbs ⊆ ioctlVerbs := by decide
      rcases ioctlAsks_verbs w ch.toNat id input a ha with h | ⟨-, h⟩
      · exact hall h
      · rw [h]
        show (0x6c : UInt8) ∈ ioctlVerbs
        decide

/-! ## 2. Commands that were done -/

/-- The command was given, and accepted. -/
structure Ask.Done (a : Ask) (t : Txn) : Prop where
  sent : a.Sent t
  settled : t.Settled
  accepted : t.accepted

/-- **Where an entry point's command succeeds it was done**, and its reply is what the entry point
    sees. -/
theorem simpleCmd_done (x : Exchange) (d : OpDevice) {line : Bytes} {c : Command}
    (hl : Prints line c) (hv : c.verb ≠ 0) (payload : Bytes) (timeoutMs : UInt32)
    (hgood : (simpleCmd x d line payload timeoutMs).1 = statusNoerror) :
    ∃ t, (simpleCmd x d line payload timeoutMs).2.2.log = .txn t :: d.log ∧
      (⟨c, payload⟩ : Ask).Done t ∧ (simpleCmd x d line payload timeoutMs).2.1 = t.reply := by
  obtain ⟨-, ⟨-, hbad⟩ | ⟨t, hlog, hsent, hsettled, hacc⟩⟩ :=
    simpleCmd_cases x d hl hv payload timeoutMs
  · exact absurd hgood hbad
  rcases simpleCmd_txn x d line payload timeoutMs with ⟨-, hbad⟩ | ⟨u, hu, hreply, -⟩
  · exact absurd hgood hbad
  obtain rfl : u = t := Event.txn.inj (List.cons.inj (hu.symm.trans hlog)).1
  exact ⟨u, hlog, ⟨hsent, hsettled, hacc.mp hgood⟩, hreply⟩

theorem Ask.Done.answers {a : Ask} {t : Txn} (h : a.Done t)
    (hv : a.command.verb ≠ 0x79 ∧ a.command.verb ≠ 0x77 ∧ a.command.verb ≠ 0x69) :
    ∃ r, t.Answers a.command r ∧ replyToStatus r = statusNoerror := by
  obtain ⟨r, hr, hstatus⟩ := h.accepted
  obtain ⟨hwaited, hok⟩ := h.settled.reply.mp (by rw [hr]; rfl)
  exact ⟨r, ⟨h.sent.is, hv, hwaited, hok, hr⟩, hstatus⟩

/-- No refusal of the cable's is accepted. -/
theorem done_ok {b b' : Books} {g : Given} {q : WireRecord} (h : Specified b g q b')
    (hstatus : replyToStatus (matchedReply q.val.reply) = statusNoerror) :
    q.val.reply.kind ≠ .error := by
  intro hk
  refine h.errs hk (deviceError_zero.mp ?_)
  rw [← hstatus]
  exact (replyToStatus_error (r := matchedReply q.val.reply) hk).symm

/-! ## 3. Parts of the log -/

/-- Between these states only transactions were logged, each asked for by a command of this kind. -/
def Only (G : Command → Prop) (d d' : OpDevice) : Prop :=
  ∃ txns : List Txn, d'.log = txns.map Event.txn ++ d.log ∧
    ∀ u ∈ txns, ∃ a : Ask, a.Sent u ∧ G a.command

section Only

variable {G : Command → Prop} {d d' d'' : OpDevice}

theorem Only.silent (h : d'.log = d.log) : Only G d d' :=
  ⟨[], h, fun _ hu => absurd hu List.not_mem_nil⟩

theorem Only.one {t : Txn} (h : d'.log = .txn t :: d.log) {a : Ask} (hs : a.Sent t)
    (ha : G a.command) : Only G d d' := by
  refine ⟨[t], h, fun u hu => ?_⟩
  rw [List.mem_singleton.mp hu]
  exact ⟨a, hs, ha⟩

theorem Only.trans (h : Only G d d') (h' : Only G d' d'') : Only G d d'' := by
  obtain ⟨ts, hlog, hts⟩ := h
  obtain ⟨us, hlog', hus⟩ := h'
  refine ⟨us ++ ts, by rw [hlog', hlog, List.map_append, List.append_assoc], fun u hu => ?_⟩
  rcases List.mem_append.mp hu with hu | hu
  · exact hus u hu
  · exact hts u hu

theorem Only.mono {G' : Command → Prop} (h : Only G d d') (hG : ∀ c, G c → G' c) : Only G' d d' := by
  obtain ⟨txns, hlog, hall⟩ := h
  refine ⟨txns, hlog, fun u hu => ?_⟩
  obtain ⟨a, ha, hg⟩ := hall u hu
  exact ⟨a, ha, hG _ hg⟩

theorem Effect.only {asks : List Ask} (h : Effect d d' asks) (ha : ∀ a ∈ asks, G a.command) :
    Only G d d' := by
  obtain ⟨given, hsub, txns, hlog, hsent⟩ := h.spoke
  refine ⟨txns.reverse, by rw [hlog, List.map_reverse], fun u hu => ?_⟩
  obtain ⟨a, hin, hs⟩ := sent_asked hsent u (List.mem_reverse.mp hu)
  exact ⟨a, hs, ha a (hsub.subset hin)⟩

theorem Gave.only {a : Ask} {c : Nat × Option OpReply × OpDevice} (h : Gave d a c)
    (ha : G a.command) : Only G d c.2.2 := by
  rcases h.ended with ⟨hlog, -⟩ | ⟨t, hlog, hs, -⟩
  · exact .silent hlog
  · exact .one hlog hs ha

/-- **A call writes what it asks for.** No opening is among these calls, for it resets the cable. -/
theorem Outcome.only {env : CallEnv} {s : Driver} {c : Call} (h : Outcome env s c d)
    (hG : ∀ a ∈ c.asks printed env s.dev, G a.command) (hreset : ¬G { verb := 0x7a }) :
    Only G s.dev d := by
  cases h with
  | refuses _ _ _ hlog => exact .silent hlog
  | keeps _ _ _ heff => exact heff.only hG
  | opens p _ _ => exact absurd (hG ⟨{ verb := 0x7a }, []⟩ List.mem_cons_self) hreset
  | connects id protocolID flags baud p fw d' c' _ heff _ =>
      obtain ⟨txns, hlog, hall⟩ := heff.only hG
      exact ⟨txns, (d'.setCh_log fw c').trans hlog, hall⟩
  | fails id pin voltage _ t _ _ hlog hsent _ _ =>
      exact .one hlog hsent (hG _ (List.mem_singleton_self (askVoltage pin voltage)))
  | sets id pin voltage d' t _ _ hlog hsent _ _ =>
      exact .one ((pinsAfter_log d' pin voltage).trans hlog) hsent
        (hG _ (List.mem_singleton_self (askVoltage pin voltage)))

end Only

/-- The log goes on. -/
theorem call_logs {fuel : Nat} {env : CallEnv} {s s' : Driver} {c : Call} {code : Nat}
    (hrun : c.run fuel env s = some (code, s')) : ∃ new, s'.dev.log = new ++ s.dev.log := by
  have heffect : ∀ {d d' : OpDevice} {asks : List Ask}, Effect d d' asks →
      ∃ new, d'.log = new ++ d.log := by
    intro d d' asks h
    obtain ⟨given, -, txns, hlog, -⟩ := h.spoke
    exact ⟨_, hlog⟩
  have hout := call_outcome hrun
  generalize s'.dev = d at hout
  cases hout with
  | refuses _ _ _ hlog => exact ⟨[], hlog⟩
  | keeps _ _ _ heff => exact heffect heff
  | opens p _ heff =>
      obtain ⟨new, hlog⟩ := heffect heff
      refine ⟨new ++ [.session], ?_⟩
      have hnew : (newSession (opDeviceClose s.dev) env.opening.clock).log =
          .session :: (opDeviceClose s.dev).log := rfl
      rw [hlog, hnew, (opDeviceClose_noNewLine s.dev).2, List.append_assoc]
      rfl
  | connects id protocolID flags baud p fw d' c' _ heff _ =>
      obtain ⟨new, hlog⟩ := heffect heff
      exact ⟨new, (d'.setCh_log fw c').trans hlog⟩
  | fails id pin voltage _ t _ _ hlog _ _ _ => exact ⟨[_], hlog⟩
  | sets id pin voltage d' t _ _ hlog _ _ _ => exact ⟨[_], (pinsAfter_log d' pin voltage).trans hlog⟩

/-- A transaction among the events of the log is one of the list. -/
theorem txns_at {txns : List Txn} {t : Txn} {newest more : List Event}
    (h : txns.map Event.txn = newest ++ .txn t :: more) :
    ∃ newer older, txns = newer ++ t :: older ∧ newer.map Event.txn = newest ∧
      older.map Event.txn = more := by
  obtain ⟨newer, rest, rfl, hnewer, hrest⟩ := List.map_eq_append_iff.mp h
  obtain ⟨u, older, rfl, hu, hmore⟩ := List.map_eq_cons_iff.mp hrest
  obtain rfl : u = t := Event.txn.inj hu
  exact ⟨newer, older, rfl, hnewer, hmore⟩

/-- A transaction among others, with what is before and behind it. -/
theorem txns_split {newer txns : List Txn} {t : Txn} {more : List Event}
    (h : txns.map Event.txn = newer.map Event.txn ++ .txn t :: more) :
    ∃ older, txns = newer ++ t :: older ∧ older.map Event.txn = more := by
  obtain ⟨newer', older, rfl, hnewer, hmore⟩ := txns_at h
  obtain rfl : newer' = newer := List.map_injective_iff.mpr (fun _ _ e => Event.txn.inj e) hnewer
  exact ⟨older, rfl, hmore⟩

/-- And in the log. -/
theorem txns_cut {newer txns : List Txn} {t : Txn} {more base : List Event}
    (h : txns.map Event.txn ++ base = newer.map Event.txn ++ .txn t :: (more ++ base)) :
    ∃ older, txns = newer ++ t :: older ∧ older.map Event.txn = more := by
  have hall : txns.map Event.txn ++ base = (newer.map Event.txn ++ .txn t :: more) ++ base := by
    rw [h, List.append_assoc]
    rfl
  exact txns_split (List.append_cancel_right hall)

/-- The log says which transactions were made between two states. -/
theorem txns_same {d d' : OpDevice} {txns us : List Txn}
    (h : d'.log = txns.map Event.txn ++ d.log) (h' : d'.log = us.map Event.txn ++ d.log) :
    txns = us :=
  List.map_injective_iff.mpr (fun _ _ e => Event.txn.inj e)
    (List.append_cancel_right (h.symm.trans h'))

/-- The log goes on in every run. -/
theorem run_logs {s s' : Driver} (h : Relation.ReflTransGen Moves s s') :
    ∃ new, s'.dev.log = new ++ s.dev.log := by
  induction h with
  | refl => exact ⟨[], rfl⟩
  | tail _ hm ih =>
      obtain ⟨new, hnew⟩ := ih
      cases hm with
      | call _ c fuel env code hrun =>
          obtain ⟨more, hmore⟩ := call_logs hrun
          exact ⟨more ++ new, by rw [hmore, hnew, List.append_assoc]⟩
      | arrive a => exact ⟨new, (arrive_steady _ a).log.trans hnew⟩

/-! ## 4. Runs of calls of one kind -/

end Openport
