/-
  File:      Openport/Simulator/System.lean
  Subject:   What the driver may rely on, in every run of the driver and the simulated
             cable: commands are handled in their order and once, a reply that is
             returned is the cable's own answer to that very command, and a reply comes
             unless something is still in flight.

  `exchange_loop` says that `cmd_exchange` is a run of the system when what arrives
  around it is what the reader reads off the cable.
-/
import Openport.Device.Reads
import Openport.Simulator.Linked

namespace Openport.Simulator

open Lib Lib.Decimal Lib.Framing

section Runs

variable {e : Setup} {l0 l : Loop}

/-! ## 1. Nothing in flight -/

/-- What was handled was written. -/
theorem Linked.written {sent : List (Issued × Record)} {rest : List WireRecord} {b0 : Books}
    {hist : History} {todo : List (Issued × Given)} (hl : Linked e l sent rest b0 hist todo)
    {p : Issued × Given} {r : WireRecord} (hp : (p, r) ∈ hist) : p ∈ l.wrote := by
  rw [hl.wrote]
  exact List.mem_append_left _ (List.mem_map_of_mem hp)

/-- With nothing in flight the slot of a command that waits holds the cable's answer. -/
theorem Linked.settled {start : Nat} {sent : List (Issued × Record)} {rest : List WireRecord}
    {b0 : Books} {hist : History} {todo : List (Issued × Given)}
    (hl : Linked e l sent rest b0 hist todo)
    (hm : Matched start (l.session sent)) {a : Issued} {g : Given} (hcur : l.current = some a)
    (hstrict : a.Strict) (hwaits : a.waits = true) (hwrote : (a, g) ∈ l.wrote)
    (hlost : l.dev.lost = false) (hread : l.toCable = []) (hheard : l.unheard = []) :
    ∃ h ∈ l.done, ∃ r, h.heard = g.heard ∧
      Answered h.before g.command g.payload a.seq h.after r ∧
      (collect l.dev).1 = .ok ∧ (collect l.dev).2.1 = some (matchedReply r.val.reply) := by
  obtain ⟨hb, hstream⟩ := hl.unread hlost
  rw [hheard, List.append_nil] at hstream
  have hrest : rest = [] := by
    have h := readerReads_stream rest [] hb (by rw [List.flatten_nil, List.append_nil, hstream])
      fun t ht => absurd ht List.not_mem_nil
    exact List.map_eq_nil_iff.mp (Prod.mk.inj h).1.symm
  have htodo : todo = [] := by
    have hpipe := hl.pipe
    rw [hread] at hpipe
    have h : l.cable.splitter.handled = todo.map (·.2.heard) := congrArg Splitter.handled hpipe
    rw [hl.cleared] at h
    exact List.map_eq_nil_iff.mp h.symm
  have hvalid : l.dev.replyValid = true := by
    rcases hl.waits a g hcur hstrict hwaits hwrote hlost with hv | ⟨r, hr, -⟩ | hin
    · exact hv
    · rw [hrest] at hr
      exact absurd hr List.not_mem_nil
    · rw [htodo] at hin
      exact absurd hin List.not_mem_nil
  obtain ⟨r, hr, hreply⟩ := hm.pending a hcur hstrict hvalid
  obtain ⟨h, hd, g', r', hg, hserved, hr'⟩ := hl.answers _ hr
  obtain rfl : g' = g := (Prod.mk.inj (hl.same (hl.written hg) hwrote rfl)).2
  have hsent := hl.each _ hwrote
  refine ⟨h, hd, r', hserved.heard, ?_, ?_, ?_⟩
  · cases hserved.told with
    | info hc => exact absurd (hsent.info hc) hstrict.1
    | answered _ ha =>
        rw [← show g'.seq = a.seq from hsent.seq]
        exact ha
  · unfold collect
    rw [if_pos hvalid]
  · unfold collect
    rw [if_pos hvalid]
    show some l.dev.reply = _
    rw [show l.dev.reply = matchedReply r.reply from hreply, show r'.val = r from hr']

/-- What a command that waits was returned is the cable's answer to it. -/
theorem Linked.own {start : Nat} {sent : List (Issued × Record)} {rest : List WireRecord}
    {b0 : Books} {hist : History} {todo : List (Issued × Given)}
    (hl : Linked e l sent rest b0 hist todo)
    (hm : Matched start (l.session sent)) {x : Returned} (hx : x ∈ l.returned)
    (hstrict : x.cmd.Strict) (hwaits : x.cmd.waits = true) (hok : x.status = .ok) :
    ∃ h ∈ l.done, ∃ g r, (x.cmd, g) ∈ l.wrote ∧ h.heard = g.heard ∧
      handle e h.before g.text g.payload = some h.after ∧
      Answered h.before g.command g.payload x.cmd.seq h.after r ∧
      x.reply = some (matchedReply r.val.reply) := by
  obtain ⟨r, hr, hreply⟩ := hm.returned x hx hstrict hwaits hok
  obtain ⟨h, hd, g, r', hg, hserved, hr'⟩ := hl.answers _ hr
  have hsent := hl.each _ (hl.written hg)
  refine ⟨h, hd, g, r', hl.written hg, hserved.heard, hserved.handled, ?_, ?_⟩
  · cases hserved.told with
    | info hc => exact absurd (hsent.info hc) hstrict.1
    | answered _ ha =>
        rw [← show g.seq = x.cmd.seq from hsent.seq]
        exact ha
  · rw [hreply, show r'.val = r from hr']

/-- What one read does: the commands it completes are handled. -/
theorem read_eq (e : Setup) {c : Cable} (hc : c.sim.closed = false) (data : Bytes) :
    c.read e data = (c.sim.handlings e (serve c.splitter data).handled).map fun r =>
      { splitter := { serve c.splitter data with handled := [] }, sim := r.2 } := by
  have hfold : ∀ (hs : List Heard) (s : Sim),
      hs.foldlM (fun s h => handle e s h.line h.payload) s = (s.handlings e hs).map (·.2) := by
    intro hs
    induction hs with
    | nil => exact fun _ => rfl
    | cons h hs ih =>
        intro s
        show (handle e s h.line h.payload).bind
          (fun s => hs.foldlM (fun s h => handle e s h.line h.payload) s) = Option.map (·.2)
            ((handle e s h.line h.payload).bind fun s' =>
              (s'.handlings e hs).map fun r => (⟨h, s, s'⟩ :: r.1, r.2))
        cases handle e s h.line h.payload with
        | none => rfl
        | some s' =>
            show hs.foldlM (fun s h => handle e s h.line h.payload) s' = Option.map (·.2)
              ((s'.handlings e hs).map fun r => (⟨h, s, s'⟩ :: r.1, r.2))
            rw [ih, Option.map_map]
            rfl
  unfold Cable.read
  rw [hc]
  simp only [Bool.false_eq_true, if_false]
  rw [hfold, Option.map_map]
  rfl

/-- What the cable and the driver's reader can do without the driver's caller. -/
structure Drained (l l' : Loop) : Prop where
  issued : l'.issued = l.issued
  current : l'.current = l.current
  returned : l'.returned = l.returned
  wrote : l'.wrote = l.wrote
  lost : l'.dev.lost = l.dev.lost
  opened : l'.dev.opened = l.dev.opened

theorem Drained.refl (l : Loop) : Drained l l := ⟨rfl, rfl, rfl, rfl, rfl, rfl⟩

/-- The cable can read all that was written. -/
theorem cable_drains (hp : e.Plain) (hinit : e.wire.initReply = .aro) (hans : e.Answerable)
    (h0 : LoopStart l0) (hrun : WholeSteps e l0 l) (hbound : l.issued.length < numberCount) :
    ∃ l', WholeSteps e l l' ∧ Drained l l' ∧ l'.dev = l.dev ∧ l'.toCable = [] := by
  obtain ⟨sent, rest, hist, todo, -, hl⟩ := loop_linked hp hinit hans h0 hrun hbound
  have hlen : l.done.length + todo.length ≤ 2 ^ 32 := by
    have h1 := congrArg List.length hl.done
    have h2 := hl.few
    rw [List.length_map, List.length_map] at h1
    rw [hl.wrote, List.length_append, List.length_map] at h2
    have h3 : numberCount < 2 ^ 32 := by decide
    omega
  have htodo : ∀ p ∈ todo, Sent l.issued p :=
    fun p hp => hl.each p (hl.wrote ▸ List.mem_append_right _ hp)
  obtain ⟨hs, s', hist1, rs, new, hhs, -⟩ := handlings_serving hp hinit hans todo hl.ready hlen htodo
  have hhandled : (serve l.cable.splitter (l.toCable.take l.toCable.length)).handled =
      todo.map (·.2.heard) := by
    rw [List.take_length, hl.pipe]
  have hread := read_eq e hl.ready.isOpen (l.toCable.take l.toCable.length)
  rw [hhandled, hhs] at hread
  refine ⟨_, .single (.reads l l.toCable.length _ hs hread ?_), ⟨rfl, rfl, rfl, rfl, rfl, rfl⟩,
    rfl, List.drop_length⟩
  rw [hhandled]
  exact hhs

/-- The driver's reader can read all that was put out. -/
theorem reader_drains (e : Setup) : ∀ (n : Nat) (l : Loop), l.unheard.length ≤ n →
    l.dev.lost = false →
    ∃ l', WholeSteps e l l' ∧ Drained l l' ∧ l'.toCable = l.toCable ∧ l'.unheard = []
  | 0, l, hn, _ => ⟨l, .refl, .refl l, rfl, List.eq_nil_of_length_eq_zero (by omega)⟩
  | n + 1, l, hn, hlost => by
      by_cases hz : l.unheard.length = 0
      · exact ⟨l, .refl, .refl l, rfl, List.eq_nil_of_length_eq_zero hz⟩
      have hstep := WholeStep.hears (e := e) l 1 (by decide) (Nat.pos_of_ne_zero hz) hlost
      have hlost1 : (arrive l.dev (.read (l.unheard.take 1))).lost = l.dev.lost := by
        show (if l.dev.lost = true then l.dev else _).lost = _
        rw [if_neg (by rw [hlost]; decide)]
        exact handAll_lost _ _
      have hlen : ({ l with dev := arrive l.dev (.read (l.unheard.take 1)), heard := l.heard + 1 } :
          Loop).unheard.length ≤ n := by
        show (l.cable.sim.out.flatten.drop (l.heard + 1)).length ≤ n
        have : l.unheard.length = l.cable.sim.out.flatten.length - l.heard := List.length_drop
        rw [List.length_drop]
        omega
      obtain ⟨l', hsteps, hd, hto, hun⟩ := reader_drains e n
        { l with dev := arrive l.dev (.read (l.unheard.take 1)), heard := l.heard + 1 } hlen
        (hlost1.trans hlost)
      exact ⟨l', .head hstep hsteps, ⟨hd.issued, hd.current, hd.returned, hd.wrote,
        hd.lost.trans hlost1, hd.opened.trans (arrive_steady l.dev _).opened⟩, hto, hun⟩

/-! ## 2. The next command -/

/-- Numbering a line neither closes nor loses the device. -/
theorem issuing_open (l : Loop) (a : Issued) (g : Given) (went : Bool) :
    (l.issuing a g went).dev.opened = l.dev.opened ∧ (l.issuing a g went).dev.lost = l.dev.lost := by
  show (numberLine l.dev g.command.line).2.2.opened = l.dev.opened ∧
    (numberLine l.dev g.command.line).2.2.lost = l.dev.lost
  rcases numberLine_cases l.dev g.command.line with ⟨-, e⟩ | ⟨-, e⟩
  · rw [e]
    exact ⟨rfl, rfl⟩
  · rw [e]
    exact ⟨rfl, rfl⟩

/-- The next command, whatever is still in flight. -/
theorem loop_served (hp : e.Plain) (hinit : e.wire.initReply = .aro) (hans : e.Answerable)
    (h0 : LoopStart l0) (hrun : WholeSteps e l0 l) (hbound : l.issued.length + 1 < numberCount)
    (hcur : l.current = none) (hopen : l.dev.opened = true) (hlost : l.dev.lost = false) {g : Given}
    (hg : g.Proper) (hshort : g.command.line.length < opCmdMax) (timeoutMs : UInt32) {a : Issued}
    (ha : a = (l.session []).next g.command.line g.payload timeoutMs true) (hseq : g.seq = a.seq)
    (hstrict : a.Strict) : ∃ l', WholeSteps e l l' ∧ l'.current = none ∧ l'.dev.opened = true ∧
      l'.dev.lost = false ∧ l'.issued.length = l.issued.length + 1 ∧ ∃ h ∈ l'.done, ∃ r,
      h.heard = g.heard ∧ Answered h.before g.command g.payload a.seq h.after r ∧
      l'.returned = ⟨a, .ok, some (matchedReply r.val.reply)⟩ :: l.returned := by
  have hissue : WholeStep e l (l.issuing a g true) :=
    .issue l g timeoutMs true true a hcur hopen hlost hg hshort ha hseq
  have hwaits : a.waits = true := congrArg Issued.waits ha
  have hopen1 := (issuing_open l a g true).1.trans hopen
  have hlost1 := (issuing_open l a g true).2.trans hlost
  obtain ⟨l2, h2, hd2, -, hto⟩ := cable_drains hp hinit hans h0 (hrun.tail hissue) hbound
  obtain ⟨l3, h3, hd3, hto3, hun⟩ := reader_drains e l2.unheard.length l2 (Nat.le_refl _)
    (hd2.lost.trans hlost1)
  have hrun3 := ((hrun.tail hissue).trans h2).trans h3
  have hissued3 : l3.issued = a :: l.issued := hd3.issued.trans hd2.issued
  have hb3 : l3.issued.length < numberCount := by
    rw [hissued3]
    exact hbound
  have hcur3 : l3.current = some a := hd3.current.trans hd2.current
  have hlost3 : l3.dev.lost = false := hd3.lost.trans (hd2.lost.trans hlost1)
  have hwrote3 : (a, g) ∈ l3.wrote := by
    rw [hd3.wrote, hd2.wrote]
    exact List.mem_append_right _ (List.mem_singleton_self _)
  obtain ⟨sent, rest, hist, todo, hsteps, hl⟩ := loop_linked hp hinit hans h0 hrun3 hb3
  have hm := matched_run h0.session hsteps (Nat.lt_of_le_of_lt (numbered_le l3 sent) hb3)
  obtain ⟨h, hd, r, hheard, hanswer, hst, hreply⟩ :=
    hl.settled hm hcur3 hstrict hwaits hwrote3 hlost3 (hto3.trans hto) hun
  refine ⟨_, ((Relation.ReflTransGen.single hissue).trans (h2.trans h3)).tail
    (.collect l3 a hcur3 hwaits), rfl, ?_, ?_, congrArg List.length hissued3, h, hd, r, hheard, hanswer,
    ?_⟩
  · exact (collect_spec l3.dev).1.opened.trans (hd3.opened.trans (hd2.opened.trans hopen1))
  · exact (collect_slot l3.dev).2.trans hlost3
  · show ⟨a, (collect l3.dev).1, (collect l3.dev).2.1⟩ :: l3.returned = _
    rw [hst, hreply, hd3.returned, hd2.returned]
    rfl

/-- A command the driver's caller asks for: one of the driver's, no init, that fits its buffer. -/
structure Wanted (c : Command) (payload : Bytes) : Prop where
  spoken : Spoken c
  noInit : c.verb ≠ 0x79 ∧ c.verb ≠ 0x77
  declared : ∀ seq, payload.length = (c.issued seq).declares
  short : c.line.length < opCmdMax

/-- What a command was returned: the cable's own answer to it. -/
def OwnAnswer (done : List Handling) (c : Command) (payload : Bytes) (x : Returned) : Prop :=
  x.status = .ok ∧ ∃ h ∈ done, ∃ r, h.heard = ⟨(c.numbered x.cmd.seq).text, payload⟩ ∧
    Answered h.before c payload x.cmd.seq h.after r ∧ x.reply = some (matchedReply r.val.reply)

/-- What was handled stays handled. -/
theorem done_step {l' : Loop} (h : WholeStep e l l') : ∀ d ∈ l.done, d ∈ l'.done := by
  cases h with
  | reads => exact fun d hd => List.mem_append_left _ hd
  | issue | due | hears | gone | drop | collect => exact fun _ hd => hd

theorem done_steps {l' : Loop} (h : WholeSteps e l l') : ∀ d ∈ l.done, d ∈ l'.done := by
  induction h with
  | refl => exact fun _ hd => hd
  | tail _ hstep ih => exact fun d hd => done_step hstep d (ih d hd)

/-- The counter is never at 0. -/
theorem reached_number (hp : e.Plain) (hinit : e.wire.initReply = .aro) (hans : e.Answerable)
    (h0 : LoopStart l0) (hrun : WholeSteps e l0 l) (hbound : l.issued.length < numberCount) :
    l.dev.seqNext ≠ 0 := by
  obtain ⟨sent, -, -, -, hsteps, -⟩ := loop_linked hp hinit hans h0 hrun hbound
  have hm := matched_run h0.session hsteps (Nat.lt_of_le_of_lt (numbered_le l sent) hbound)
  intro e0
  have hge := nthNumber_ge l0.dev.seqNext.toNat (l.session sent).numbered
  have hnext : l.dev.seqNext.toNat = nthNumber l0.dev.seqNext.toNat (l.session sent).numbered := hm.next
  rw [← hnext, e0] at hge
  exact absurd hge (by decide)

/-- One wanted command, whatever is still in flight. -/
theorem loop_wanted (hp : e.Plain) (hinit : e.wire.initReply = .aro) (hans : e.Answerable)
    (hstart : LoopStart l0) (hrun : WholeSteps e l0 l) (hbound : l.issued.length + 1 < numberCount)
    (hcur : l.current = none) (hopen : l.dev.opened = true) (hlost : l.dev.lost = false) {c : Command}
    {payload : Bytes} (hc : Wanted c payload) : ∃ l', WholeSteps e l l' ∧ l'.current = none ∧
      l'.dev.opened = true ∧ l'.dev.lost = false ∧ l'.issued.length = l.issued.length + 1 ∧
      ∃ x, l'.returned = x :: l.returned ∧ OwnAnswer l'.done c payload x := by
  generalize ha : (l.session []).next c.line payload 1000 true = a
  have hg : Given.Proper ⟨c, payload, a.seq⟩ := ⟨Or.inl hc.spoken, hc.declared a.seq⟩
  obtain ⟨hline, -, hzero⟩ := next_line hg hc.short ha.symm
  have hverb : a.verb = c.verb := by
    show a.line.getD 2 0 = c.verb
    rw [hline]
    exact c.issued_verb a.seq
  have hseq : a.seq ≠ 0 := fun h0 => (hzero.mp h0).elim hc.spoken.noInfo
    (reached_number hp hinit hans hstart hrun (by omega))
  obtain ⟨l', hsteps, hcur', hopen', hlost', hlen, h, hd, r, hheard, hanswer, hreturned⟩ :=
    loop_served hp hinit hans hstart hrun hbound hcur hopen hlost (g := ⟨c, payload, a.seq⟩) hg hc.short
      1000 ha.symm rfl ⟨hseq, hverb ▸ hc.noInit.1, hverb ▸ hc.noInit.2⟩
  refine ⟨l', hsteps, hcur', hopen', hlost', hlen, _, hreturned, rfl, h, hd, r, ?_, hanswer, rfl⟩
  rw [hheard]
  show (⟨(c.issued a.seq).text, payload⟩ : Heard) = _
  unfold Command.issued
  rw [if_neg hc.spoken.noInfo]

/-! ## 3. A sample -/

/-- The driver at number 300, and a cable that was never used. -/
def sampleLoop : Loop := { dev := { opened := true, seqNext := 300 } }

theorem sampleLoop_start : LoopStart sampleLoop :=
  ⟨by decide, rfl, rfl, rfl, rfl, rfl, rfl, rfl, rfl, start_ready, rfl, rfl, rfl⟩

/-- "ato5 0 500000 0 300". -/
def sampleOpen : Given := ⟨{ verb := 0x6f, channel := some 5, args := [0, 500000, 0] }, [], 300⟩

theorem sampleOpen_proper : sampleOpen.Proper :=
  ⟨Or.inl ⟨rfl, by decide, by decide, fun _ => ⟨5, rfl⟩, by decide, by decide⟩, rfl⟩

def sampleIssued : Issued :=
  (sampleLoop.session []).next sampleOpen.command.line sampleOpen.payload 1000 true

/-- It goes out, and its wait ends before the cable has read any of it. -/
def lateLoop : Loop :=
  let l := sampleLoop.issuing sampleIssued sampleOpen true
  { l with
    dev := (collect l.dev).2.2.logged (sampleIssued.txn .ok (collect l.dev).1 (collect l.dev).2.1)
    current := none
    returned := [⟨sampleIssued, .timeout, none⟩] }

theorem lateLoop_run : WholeSteps answering sampleLoop lateLoop :=
  (Relation.ReflTransGen.single (.issue sampleLoop sampleOpen 1000 true true sampleIssued rfl rfl rfl
    sampleOpen_proper (by decide) rfl (by decide))).tail (.collect _ sampleIssued rfl rfl)

/-- "ats5 3 1 301", with the first command still on its way. -/
def sampleSet : Given := ⟨{ verb := 0x73, channel := some 5, args := [3, 1] }, [], 301⟩

theorem sampleSet_proper : sampleSet.Proper :=
  ⟨Or.inl ⟨rfl, by decide, by decide, fun _ => ⟨5, rfl⟩, by decide, by decide⟩, rfl⟩

def sampleSecond : Issued :=
  (lateLoop.session []).next sampleSet.command.line sampleSet.payload 1000 true

theorem sampleSecond_strict : sampleSecond.Strict := by
  refine ⟨?_, ?_, ?_⟩
  · decide
  · decide
  · decide

/-- Both are read and answered then, and the second is given its own answer. -/
theorem lateLoop_served : ∃ l r, WholeSteps answering sampleLoop l ∧ l.issued.length = 2 ∧
    l.returned = [⟨sampleSecond, .ok, some r⟩, ⟨sampleIssued, .timeout, none⟩] := by
  obtain ⟨l, hsteps, -, -, -, hlen, h, -, r, -, -, hreturned⟩ :=
    loop_served answering_plain rfl answering_answers sampleLoop_start lateLoop_run (by decide) rfl rfl
      rfl sampleSet_proper (by decide) 1000 (a := sampleSecond) rfl (by decide) sampleSecond_strict
  exact ⟨l, _, lateLoop_run.trans hsteps, hlen, hreturned⟩

theorem Drained.second {l : Loop} (h : Drained lateLoop l) :
    (l.issuing sampleSecond sampleSet true).issued.length = 2 := by
  show (sampleSecond :: l.issued).length = 2
  rw [h.issued]
  rfl

/-- The first is read and handled, and the second goes out behind it. -/
theorem lateLoop_issues : ∃ l, WholeSteps answering sampleLoop l ∧ Drained lateLoop l ∧
    l.toCable = [] ∧ WholeStep answering l (l.issuing sampleSecond sampleSet true) := by
  obtain ⟨l, h, hd, hdev, hto⟩ := cable_drains answering_plain rfl answering_answers sampleLoop_start
    lateLoop_run (by decide)
  have hsame : l.session [] = lateLoop.session [] := by
    unfold Loop.session
    rw [hdev, hd.issued, hd.current, hd.returned]
  refine ⟨l, lateLoop_run.trans h, hd, hto, .issue l sampleSet 1000 true true sampleSecond hd.current
    hd.opened hd.lost sampleSet_proper (by decide) ?_ (by decide)⟩
  rw [hsame]
  rfl

/-! ## 4. What the driver may rely on -/

/-- **The cable handles the commands in the order they were written, none twice and none left out**:
    those it has not handled yet are the ones whose bytes are still on their way. -/
theorem loop_order (hp : e.Plain) (hinit : e.wire.initReply = .aro) (hans : e.Answerable)
    (h0 : LoopStart l0) (hrun : LoopSteps e l0 l) (hcut : l.cut = false)
    (hbound : l.issued.length < numberCount) :
    l.wrote.map (·.2.heard) =
      l.done.map (·.heard) ++ (serve l.cable.splitter l.toCable).handled := by
  obtain ⟨sent, rest, hist, todo, -, h⟩ := loop_linked hp hinit hans h0
    (whole_run hrun hcut) hbound
  rw [h.wrote, h.pipe, h.done, List.map_append, List.map_map]
  rfl

/-- One is handled, and one is on its way. -/
theorem loop_order_sample : ∃ l, LoopSteps answering sampleLoop l ∧ l.issued.length = 2 ∧
    l.toCable = sampleSecond.line ∧
    l.wrote.map (·.2.heard) =
      l.done.map (·.heard) ++ (serve l.cable.splitter l.toCable).handled := by
  obtain ⟨l, hsteps, hd, hto, hissue⟩ := lateLoop_issues
  obtain ⟨hrun, hcut⟩ := whole_steps (hsteps.tail hissue)
  have hlen := hd.second
  refine ⟨_, hrun, hlen, ?_, ?_⟩
  · show l.toCable ++ (sampleSecond.line ++ []) = sampleSecond.line
    rw [hto, List.append_nil]
    rfl
  · exact loop_order answering_plain rfl answering_answers sampleLoop_start hrun hcut
      (by rw [hlen]; decide)

/-- **A command that waits is never given anything but the cable's own answer to it**: whatever timed
    out before, whatever was read in what pieces, and whatever the cable's timers and threads sent
    between, a reply that is returned says what the cable did when it handled that very command. -/
theorem loop_reply_own (hp : e.Plain) (hinit : e.wire.initReply = .aro) (hans : e.Answerable)
    (h0 : LoopStart l0) (hrun : LoopSteps e l0 l) (hcut : l.cut = false)
    (hbound : l.issued.length < numberCount)
    {x : Returned} (hx : x ∈ l.returned) (hstrict : x.cmd.Strict) (hwaits : x.cmd.waits = true)
    (hok : x.status = .ok) : ∃ h ∈ l.done, ∃ g r, (x.cmd, g) ∈ l.wrote ∧ h.heard = g.heard ∧
      handle e h.before g.text g.payload = some h.after ∧
      Answered h.before g.command g.payload x.cmd.seq h.after r ∧
      x.reply = some (matchedReply r.val.reply) := by
  obtain ⟨sent, rest, hist, todo, hsteps, hl⟩ := loop_linked hp hinit hans h0
    (whole_run hrun hcut) hbound
  have hm := matched_run h0.session hsteps (Nat.lt_of_le_of_lt (numbered_le l sent) hbound)
  exact hl.own hm hx hstrict hwaits hok

/-- The second command is given its own answer, behind the late one to the first. -/
theorem loop_reply_own_sample : ∃ l r, LoopSteps answering sampleLoop l ∧
    l.returned = [⟨sampleSecond, .ok, some r⟩, ⟨sampleIssued, .timeout, none⟩] ∧
    ∃ h ∈ l.done, ∃ g q, (sampleSecond, g) ∈ l.wrote ∧
      h.heard = g.heard ∧ handle answering h.before g.text g.payload = some h.after ∧
      Answered h.before g.command g.payload sampleSecond.seq h.after q ∧
      some r = some (matchedReply q.val.reply) := by
  obtain ⟨l, r, hsteps, hlen, hreturned⟩ := lateLoop_served
  obtain ⟨hrun, hcut⟩ := whole_steps hsteps
  refine ⟨l, r, hrun, hreturned, ?_⟩
  exact loop_reply_own answering_plain rfl answering_answers sampleLoop_start hrun hcut
    (by rw [hlen]; decide) (x := ⟨sampleSecond, .ok, some r⟩)
    (by rw [hreturned]; exact List.mem_cons_self) sampleSecond_strict rfl rfl

/-- **Only what is in flight can be missing**: once the cable has read everything and the driver has
    read everything the cable put out, a numbered command that was written and waits has the cable's
    answer to it in its slot. -/
theorem loop_reply_comes (hp : e.Plain) (hinit : e.wire.initReply = .aro) (hans : e.Answerable)
    (h0 : LoopStart l0) (hrun : LoopSteps e l0 l) (hcut : l.cut = false)
    (hbound : l.issued.length < numberCount)
    {a : Issued} {g : Given} (hcur : l.current = some a) (hstrict : a.Strict) (hwaits : a.waits = true)
    (hwrote : (a, g) ∈ l.wrote) (hlost : l.dev.lost = false) (hread : l.toCable = [])
    (hheard : l.unheard = []) : ∃ h ∈ l.done, ∃ r, h.heard = g.heard ∧
      Answered h.before g.command g.payload a.seq h.after r ∧
      (collect l.dev).1 = .ok ∧ (collect l.dev).2.1 = some (matchedReply r.val.reply) := by
  obtain ⟨sent, rest, hist, todo, hsteps, hl⟩ := loop_linked hp hinit hans h0
    (whole_run hrun hcut) hbound
  have hm := matched_run h0.session hsteps (Nat.lt_of_le_of_lt (numbered_le l sent) hbound)
  exact hl.settled hm hcur hstrict hwaits hwrote hlost hread hheard

theorem loop_reply_comes_sample : ∃ l, LoopSteps answering sampleLoop l ∧
    l.returned = [⟨sampleIssued, .timeout, none⟩] ∧
    l.current = some sampleSecond ∧ ∃ h ∈ l.done, ∃ r, h.heard = sampleSet.heard ∧
      Answered h.before sampleSet.command sampleSet.payload sampleSecond.seq h.after r ∧
      (collect l.dev).1 = .ok ∧ (collect l.dev).2.1 = some (matchedReply r.val.reply) := by
  obtain ⟨l, hsteps, hd, -, hissue⟩ := lateLoop_issues
  have hlen := hd.second
  obtain ⟨l1, h1, hd1, -, hto1⟩ := cable_drains answering_plain rfl answering_answers sampleLoop_start
    (hsteps.tail hissue) (by rw [hlen]; decide)
  have hlost := (issuing_open l sampleSecond sampleSet true).2.trans hd.lost
  obtain ⟨l2, h2, hd2, hto2, hun⟩ := reader_drains answering l1.unheard.length l1 (Nat.le_refl _)
    (hd1.lost.trans hlost)
  obtain ⟨hrun, hcut⟩ := whole_steps (((hsteps.tail hissue).trans h1).trans h2)
  have hcur : l2.current = some sampleSecond := hd2.current.trans hd1.current
  have hwrote : (sampleSecond, sampleSet) ∈ l2.wrote := by
    rw [hd2.wrote, hd1.wrote]
    exact List.mem_append_right _ (List.mem_singleton_self _)
  have hlen2 : l2.issued.length = 2 := by
    rw [hd2.issued, hd1.issued]
    exact hlen
  refine ⟨l2, hrun, ?_, hcur, ?_⟩
  · rw [hd2.returned, hd1.returned]
    exact hd.returned
  · exact loop_reply_comes answering_plain rfl answering_answers sampleLoop_start hrun hcut
      (by rw [hlen2]; decide) hcur sampleSecond_strict rfl hwrote (hd2.lost.trans (hd1.lost.trans hlost))
      (hto2.trans hto1) hun

/-- Any further wanted commands, whatever is still in flight. -/
theorem whole_serves (hp : e.Plain) (hinit : e.wire.initReply = .aro) (hans : e.Answerable)
    (h0 : LoopStart l0) : ∀ {cs : List (Command × Bytes)} {l : Loop}, WholeSteps e l0 l →
    l.issued.length + cs.length < numberCount → l.current = none → l.dev.opened = true →
    l.dev.lost = false → (∀ c ∈ cs, Wanted c.1 c.2) → ∃ l' xs, WholeSteps e l l' ∧
      l'.returned = xs.reverse ++ l.returned ∧
      List.Forall₂ (fun c x => OwnAnswer l'.done c.1 c.2 x) cs xs
  | [], l, _, _, _, _, _, _ => ⟨l, [], .refl, rfl, .nil⟩
  | c :: cs, l, hrun, hbound, hcur, hopen, hlost, hc => by
      rw [List.length_cons] at hbound
      obtain ⟨l1, h1, hcur1, hopen1, hlost1, hlen1, x, hx, hown⟩ := loop_wanted hp hinit hans h0 hrun
        (by omega) hcur hopen hlost (hc c List.mem_cons_self)
      have hcs : ∀ d ∈ cs, Wanted d.1 d.2 := fun d hd => hc d (List.mem_cons_of_mem c hd)
      obtain ⟨l2, xs, h2, hxs, hall⟩ := whole_serves hp hinit hans h0 (hrun.trans h1) (by omega) hcur1
        hopen1 hlost1 hcs
      refine ⟨l2, x :: xs, h1.trans h2, ?_, .cons ?_ hall⟩
      · rw [hxs, hx, List.reverse_cons, List.append_assoc]
        rfl
      · obtain ⟨hst, h, hd, more⟩ := hown
        exact ⟨hst, h, done_steps h2 h hd, more⟩

/-- **The system never gets stuck**: in whatever state a run has left it in which no write was cut,
    with however much still in flight and whatever timed out before, any further commands can be given
    one after the other, and each is returned the cable's own answer to it. -/
theorem loop_serves (hp : e.Plain) (hinit : e.wire.initReply = .aro) (hans : e.Answerable)
    (h0 : LoopStart l0) (hrun : LoopSteps e l0 l) (hcut : l.cut = false)
    {cs : List (Command × Bytes)} (hbound : l.issued.length + cs.length < numberCount)
    (hcur : l.current = none) (hopen : l.dev.opened = true) (hlost : l.dev.lost = false)
    (hcs : ∀ c ∈ cs, Wanted c.1 c.2) : ∃ l' xs, LoopSteps e l l' ∧ l'.cut = false ∧
      l'.returned = xs.reverse ++ l.returned ∧
      List.Forall₂ (fun c x => OwnAnswer l'.done c.1 c.2 x) cs xs := by
  obtain ⟨l', xs, hsteps, hxs, hall⟩ := whole_serves hp hinit hans h0 (whole_run hrun hcut) hbound hcur
    hopen hlost hcs
  obtain ⟨hrun', hcut'⟩ := whole_steps hsteps
  exact ⟨l', xs, hrun', hcut'.trans hcut, hxs, hall⟩

/-- "ato5 0 500000 0" and "atm5 1000 0 0 1" with its byte. -/
def sampleWanted : List (Command × Bytes) :=
  [({ verb := 0x6f, channel := some 5, args := [0, 500000, 0] }, []),
    ({ verb := 0x6d, channel := some 5, args := [1000, 0, 0, 1] }, [7])]

theorem sampleWanted_wanted : ∀ c ∈ sampleWanted, Wanted c.1 c.2 := by
  intro c hc
  unfold sampleWanted at hc
  simp only [List.mem_cons, List.not_mem_nil, or_false] at hc
  rcases hc with rfl | rfl
  · exact ⟨⟨rfl, by decide, by decide, fun _ => ⟨5, rfl⟩, by decide, by decide⟩,
      ⟨by decide, by decide⟩, fun _ => rfl, by decide⟩
  · exact ⟨⟨rfl, by decide, by decide, fun _ => ⟨5, rfl⟩, by decide, by decide⟩,
      ⟨by decide, by decide⟩, fun _ => rfl, by decide⟩

/-- With the first command timed out and still on its way. -/
theorem loop_serves_sample : ∃ l xs, LoopSteps answering lateLoop l ∧ l.cut = false ∧
    l.returned = xs.reverse ++ [⟨sampleIssued, .timeout, none⟩] ∧
    List.Forall₂ (fun c x => OwnAnswer l.done c.1 c.2 x) sampleWanted xs :=
  loop_serves answering_plain rfl answering_answers sampleLoop_start (whole_steps lateLoop_run).1 rfl
    (by decide) rfl rfl rfl sampleWanted_wanted

end Runs

/-! ## 5. `cmd_exchange` in the system -/

/-- What happens around a transaction: the cable reads, its timers and threads run, and the driver's
    reader meets these arrivals. -/
inductive Around (e : Setup) : Loop → List Arrival → Loop → Prop where
  | done (l : Loop) : Around e l [] l
  | reads {l l' : Loop} {as : List Arrival} (n : Nat) (c : Cable) (hs : List Handling) :
      l.cable.read e (l.toCable.take n) = some c →
      l.cable.sim.handlings e (serve l.cable.splitter (l.toCable.take n)).handled =
        some (hs, c.sim) →
      Around e { l with toCable := l.toCable.drop n, cable := c, done := l.done ++ hs } as l' →
      Around e l as l'
  | due {l l' : Loop} {as : List Arrival} (ev : Event) (s : Sim) : ev.isDue = true →
      l.cable.sim.step e ev = some s →
      Around e { l with cable := { l.cable with sim := s } } as l' → Around e l as l'
  | hears {l l' : Loop} {as : List Arrival} (n : Nat) : n ≤ 1024 → n ≤ l.unheard.length →
      l.dev.lost = false →
      Around e { l with dev := arrive l.dev (.read (l.unheard.take n)), heard := l.heard + n } as l' →
      Around e l (.read (l.unheard.take n) :: as) l'
  | gone {l l' : Loop} {as : List Arrival} :
      Around e { l with dev := { l.dev with lost := true } } as l' → Around e l (.gone :: as) l'

/-- **The reader is left as those arrivals leave it**, and the caller's side as it was. -/
theorem Around.steps {e : Setup} {l l' : Loop} {as : List Arrival} (h : Around e l as l') :
    WholeSteps e l l' ∧ l'.dev = arrivals l.dev as ∧ l'.issued = l.issued ∧ l'.current = l.current ∧
      l'.returned = l.returned ∧ l'.wrote = l.wrote := by
  induction h with
  | done l => exact ⟨.refl, rfl, rfl, rfl, rfl, rfl⟩
  | reads n c hs hread hhs _ ih => exact ⟨.head (.reads _ n c hs hread hhs) ih.1, ih.2⟩
  | due ev s hev hstep _ ih => exact ⟨.head (.due _ ev s hev hstep) ih.1, ih.2⟩
  | hears n hn hread hlost _ ih => exact ⟨.head (.hears _ n hn hread hlost) ih.1, ih.2⟩
  | gone _ ih => exact ⟨.head (.gone _) ih.1, ih.2⟩

/-- **`cmd_exchange` is a run of the system**: where what arrives before, while and after it writes is
    what the reader reads off the cable, and the transport takes a beginning of the command, all of it
    when the write succeeds, it leaves the session the run leaves, and returns what is entered there. -/
theorem exchange_loop {e : Setup} {x : Exchange} {g : Given} {timeoutMs : UInt32} {waits : Bool}
    {l l1 l2 l3 : Loop} {a : Issued} {part : Bytes} (hcur : l.current = none)
    (hbefore : Around e l x.before l1) (hopen : l1.dev.opened = true) (hlost : l1.dev.lost = false)
    (hg : g.Proper) (hshort : g.command.line.length < opCmdMax) (hsize : g.payload.length ≤ opMsgMax)
    (ha : a = (l1.session []).next g.command.line g.payload
      (if timeoutMs = 0 then 1000 else timeoutMs) waits) (hseq : g.seq = a.seq)
    (hpart : part <+: a.line ++ a.payload) (hall : x.written = .ok → part = a.line ++ a.payload)
    (hearly : Around e (l1.sending a g part) x.early l2)
    (hlate : x.written = .ok ∧ waits = true → Around e l2 x.late l3)
    (res : OpStatus × Option OpReply × OpDevice)
    (hres : res = cmdExchange x l.dev g.command.line g.payload timeoutMs waits) :
    ∃ l', LoopSteps e l l' ∧ l'.current = none ∧ l'.dev = res.2.2 ∧
      l'.returned = ⟨a, res.1, res.2.1⟩ :: l.returned ∧
      l'.wrote = (l1.sending a g part).wrote ∧ (x.written = .ok → l'.cut = l.cut) := by
  obtain ⟨hs1, hd1, -, hc1, hr1, -⟩ := hbefore.steps
  obtain ⟨hs2, hd2, -, hc2, hr2, hw2⟩ := hearly.steps
  obtain ⟨hdev, hcur1, hret1⟩ := sending_same l1 a g part
  rw [hdev] at hd2
  have hissue : LoopStep e l1 (l1.sending a g part) :=
    sending_step (hc1.trans hcur) hopen hlost hg hshort ha hseq hpart
  have hwaits : a.waits = waits := congrArg Issued.waits ha
  have hrun := ((whole_steps hs1).1.tail hissue).trans (whole_steps hs2).1
  have hcut : x.written = .ok → l2.cut = l.cut := fun hok => by
    rw [(whole_steps hs2).2, ← (whole_steps hs1).2]
    unfold Loop.sending
    rw [if_pos (hall hok)]
    split
    · rfl
    · rfl
  have hbody : g.command.line = g.command.text ++ [0x0d, 0x0a] := rfl
  have hline : a.line = (numberLine l1.dev g.command.line).1 := congrArg Issued.line ha
  have hnum : a.seq = (numberLine l1.dev g.command.line).2.1 := congrArg Issued.seq ha
  have hne : (numberLine l1.dev g.command.line).1 ≠ [] := numberLine_ne_nil l1.dev hshort
  have hclaim : claimSlot (numberLine l1.dev g.command.line).2.2 waits
      (numberLine l1.dev g.command.line).2.1 ((numberLine l1.dev g.command.line).1.getD 2 0) =
      (l1.issuing a g true).dev := by
    rw [← hnum, ← hline, ← hwaits]
    rfl
  have htxn : ∀ written result reply, Txn.mk (numberLine l1.dev g.command.line).1 g.payload
      (numberLine l1.dev g.command.line).2.1 waits (if timeoutMs = 0 then 1000 else timeoutMs) written
      result reply = a.txn written result reply := by
    intro written result reply
    rw [ha]
    rfl
  unfold cmdExchange at hres
  rw [if_neg (by
    rintro (h | h | h)
    · exact absurd h (by rw [hbody]; simp)
    · exact absurd hshort (Nat.not_lt_of_le h)
    · exact absurd hsize (Nat.not_le_of_lt h))] at hres
  simp only [← hd1] at hres
  rw [if_neg (by rw [hopen, hlost]; decide), if_neg hne] at hres
  unfold transact at hres
  simp only [hclaim, ← hd2, htxn] at hres
  by_cases hdrop : x.written ≠ .ok ∨ (!waits) = true
  · rw [if_pos hdrop] at hres
    have hdrop' : x.written ≠ .ok ∨ a.waits = false := by
      rcases hdrop with h | h
      · exact Or.inl h
      · exact Or.inr (hwaits.trans (by simpa using h))
    refine ⟨_, hrun.tail (.whole (.drop l2 a x.written (hc2.trans hcur1) hdrop')), rfl, by rw [hres],
      ?_, hw2, hcut⟩
    rw [hres]
    show _ :: l2.returned = _ :: l.returned
    rw [hr2, hret1, hr1]
  · have hwr : x.written = .ok := Classical.byContradiction fun h => hdrop (Or.inl h)
    have hw : waits = true := by simpa using fun h => hdrop (Or.inr h)
    obtain ⟨hs3, hd3, -, hc3, hr3, hw3⟩ := (hlate ⟨hwr, hw⟩).steps
    rw [if_neg hdrop] at hres
    simp only [← hd3, hwr] at hres
    refine ⟨_, (hrun.trans (whole_steps hs3).1).tail
      (.whole (.collect l3 a (hc3.trans (hc2.trans hcur1)) (hwaits.trans hw))), rfl, by rw [hres], ?_,
      hw3.trans hw2, fun hok => (whole_steps hs3).2.trans (hcut hok)⟩
    rw [hres]
    show _ :: l3.returned = _ :: l.returned
    rw [hr3, hr2, hret1, hr1]

end Openport.Simulator
