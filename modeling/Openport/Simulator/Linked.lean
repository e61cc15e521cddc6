/-
  File:      Openport/Simulator/Linked.lean
  Subject:   What is in flight between the driver and the simulated cable, in every run
             of the system of `Openport/Simulator/Loop.lean`.

  The driver's side of such a run is a run of `Openport/Device/Matching.lean`
  (`loop_linked`): every text reply the cable puts out is an answer to a command that
  was issued. So a command that waits is given the cable's own answer to it
  (`loop_reply_own`), commands are handled in their order and once (`loop_order`), and
  only what is still in flight can make a wait end without a reply
  (`loop_reply_comes`).
-/
import Openport.Simulator.Loop
import Openport.Simulator.Sequential

namespace Openport.Simulator

open Lib Lib.Decimal Lib.Framing

/-! ## 1. The invariant -/

/-- A command as it was issued, and as it was given. -/
structure Sent (issued : List Issued) (p : Issued × Given) : Prop where
  issued : p.1 ∈ issued
  proper : p.2.Proper
  seq : p.2.seq = p.1.seq
  numbered : p.2.command ≠ infoCommand → p.1.seq ≠ 0
  info : p.2.command = infoCommand → p.1.seq = 0
  line : p.1.line = (p.2.command.issued p.2.seq).line
  payload : p.1.payload = p.2.payload

/-- What the cable did with a command, and the reply it put out. -/
structure Served (e : Setup) (h : Handling) (g : Given) (r : WireRecord) : Prop where
  heard : h.heard = g.heard
  handled : handle e h.before g.text g.payload = some h.after
  told : Told h.before g h.after r

/-- The commands the cable has handled, oldest first, each with the reply it put out. -/
abbrev History := List ((Issued × Given) × WireRecord)

def History.row (hist : History) : List (Given × WireRecord) := hist.map fun p => (p.1.2, p.2)

/-- **What is in flight.** `hist` are the commands the cable has handled since its books were `b0`,
    and `todo` those it has not; `rest` are the records it put out that the driver's reader has not
    handed on, and `sent` the answers it has given. -/
structure Linked (e : Setup) (l : Loop) (sent : List (Issued × Record)) (rest : List WireRecord)
    (b0 : Books) (hist : History) (todo : List (Issued × Given)) : Prop where
  wrote : l.wrote = hist.map (·.1) ++ todo
  each : ∀ p ∈ l.wrote, Sent l.issued p
  /-- commands are written in the order they were issued in, and once -/
  sorted : l.wrote.Pairwise fun p q => p.1.id < q.1.id
  below : ∀ p ∈ l.wrote, p.1.id < l.issued.length
  few : l.wrote.length ≤ l.issued.length
  pipe : serve l.cable.splitter l.toCable = { handled := todo.map (·.2.heard) }
  cleared : l.cable.splitter.handled = []
  done : l.done.map (·.heard) = hist.map (·.1.2.heard)
  books : Sequential b0 hist.row l.cable.sim.books
  ready : l.cable.sim.Ready l.done.length
  answers : ∀ q ∈ sent, ∃ h ∈ l.done, ∃ g r, ((q.1, g), r) ∈ hist ∧ Served e h g r ∧ r.val = q.2
  read : l.heard ≤ l.cable.sim.out.flatten.length
  unread : l.dev.lost = false →
    Begins (words rest) l.dev.accum ∧ l.dev.accum ++ l.unheard = stream rest
  texts : ∀ r ∈ rest, r.val.isText = true → ∃ a, (a, r.val) ∈ sent
  claim : ∀ a, l.current = some a → l.dev.cmdWaiting = a.waits
  waits : ∀ a g, l.current = some a → a.Strict → a.waits = true → (a, g) ∈ l.wrote →
    l.dev.lost = false → l.dev.replyValid = true ∨ (∃ r ∈ rest, (a, r.val) ∈ sent) ∨ (a, g) ∈ todo

theorem linked_start {e : Setup} {l : Loop} (h : LoopStart l) :
    Linked e l [] [] l.cable.sim.books [] [] := by
  have hnone : ∀ p : Issued × Given, p ∉ l.wrote := by
    intro p hp
    rw [h.wrote] at hp
    exact absurd hp List.not_mem_nil
  have hcur : ∀ a, l.current ≠ some a := by
    intro a ha
    rw [h.current] at ha
    cases ha
  refine ⟨h.wrote, (fun p hp => absurd hp (hnone p)), ?_, (fun p hp => absurd hp (hnone p)), ?_, ?_,
    ?_, ?_, .done _, ?_, (fun q hq => absurd hq List.not_mem_nil), ?_, ?_,
    (fun r hr => absurd hr List.not_mem_nil), (fun a ha => absurd ha (hcur a)),
    (fun a g ha => absurd ha (hcur a))⟩
  · rw [h.wrote]
    exact .nil
  · rw [h.wrote]
    exact Nat.zero_le _
  · rw [h.splitter, h.toCable]
    rfl
  · rw [h.splitter]
  · rw [h.done]
    rfl
  · rw [h.done]
    exact h.ready
  · rw [h.heard]
    exact Nat.zero_le _
  · intro _
    refine ⟨Or.inl h.accum, ?_⟩
    unfold Loop.unheard
    rw [h.accum, h.out]
    exact List.drop_nil

/-! ## 2. Handing on -/

/-- Whole records are taken off what is read, and the beginning of the next is kept. -/
theorem readerRead_cut {rest : List WireRecord} {accum tmp more : Bytes}
    (hb : Begins (words rest) accum) (he : accum ++ (tmp ++ more) = stream rest)
    (hlen : tmp.length ≤ 1024) : ∃ gone left, rest = gone ++ left ∧
      (readerRead accum tmp).1 = handedOn gone ∧ Begins (words left) (readerRead accum tmp).2 ∧
      (readerRead accum tmp).2 ++ more = stream left := by
  have hcut : (accum ++ tmp) ++ more = ((words rest).map (·.1)).flatten := by
    rw [words_stream, List.append_assoc, he]
  obtain ⟨ws, vs, hws, hgone, hleft, hbegins⟩ :=
    drain_stream consumeStep_shrinks (words rest) (words_code rest) _ _ hcut
  obtain ⟨gone, left, rfl, hw, hv⟩ := List.map_eq_append_iff.mp hws
  have hv' : words left = vs := hv
  have hin : Begins vs (drain consumeStep (accum ++ tmp)).2 := hbegins
  have hshort : (drain consumeStep (accum ++ tmp)).2.length ≤ recordMax :=
    hin.length_le fun w hw => words_length left w (hv' ▸ hw)
  have hread : readerRead accum tmp = drain consumeStep (accum ++ tmp) := by
    rw [readerRead_room (hb.length_le (words_length _)) hlen, consumeAccum_short hshort]
  refine ⟨gone, left, rfl, ?_, ?_, ?_⟩
  · rw [hread, hgone, ← hw]
    exact words_handed gone
  · rw [hread, hv']
    exact hbegins
  · rw [hread, hleft, ← hv', words_stream]

/-- More records behind it leave the beginning of a record where it is. -/
theorem begins_append {rest : List WireRecord} {accum : Bytes} (h : Begins (words rest) accum)
    (more : List WireRecord) : Begins (words (rest ++ more)) accum := by
  have hw : words (rest ++ more) = words rest ++ words more := List.map_append
  rcases h with h | ⟨w, ws, hws, hp, hne⟩
  · exact Or.inl h
  · refine Or.inr ⟨w, ws ++ words more, ?_, hp, hne⟩
    rw [hw, hws]
    rfl

/-- The slot is a command's that waits. -/
structure Waiting (a : Issued) (d : OpDevice) : Prop where
  waiting : d.cmdWaiting = true
  seq : d.seqPending = a.seq
  verb : d.cmdVerb = a.verb

section Waiting

variable {a : Issued} {d : OpDevice}

theorem Waiting.next (h : Waiting a d) (r : Record) : Waiting a (handOn d r.handed) := by
  obtain ⟨ch, reply, text, data, valid, e⟩ := handOn_slot d r
  rw [e]
  exact ⟨h.waiting, h.seq, h.verb⟩

/-- A reply in the slot stays there. -/
theorem Waiting.kept (h : Waiting a d) (hstrict : a.Strict) (hv : d.replyValid = true) (r : Record) :
    (handOn d r.handed).replyValid = true := by
  by_cases hf : ∃ ch status body, r = .frame ch status body
  · obtain ⟨ch, status, body, rfl⟩ := hf
    obtain ⟨ch', e⟩ := absorbFrame_slot d (Record.frame ch status body).reply
    show (absorbFrame d (Record.frame ch status body).reply).replyValid = true
    rw [e]
    exact hv
  rw [(r.reply_kind fun ch status body e => hf ⟨ch, status, body, e⟩).2.2]
  show (stashReply d r.reply).replyValid = true
  cases hcl : claims d r.reply with
  | false =>
      rw [stashReply_refused hcl]
      exact hv
  | true =>
      obtain ⟨hinit, hinfo, -⟩ := claims_strict (h.seq ▸ hstrict.1) (h.verb ▸ hstrict.2.1)
        (h.verb ▸ hstrict.2.2) hcl
      exact (stashReply_claimed (h.seq ▸ hstrict.1) hcl hinit hinfo).2

/-- Its own reply is claimed. -/
theorem Waiting.answered (h : Waiting a d) (hstrict : a.Strict) {r : Record} (htext : r.isText = true)
    (hlast : r.tail.getLast? = some a.seq) : (handOn d r.handed).replyValid = true := by
  have hf : ∀ ch status body, r ≠ .frame ch status body := by
    rintro ch status body rfl
    cases htext
  obtain ⟨hinit, hinfo⟩ : r.reply.kind ≠ .init ∧ r.reply.kind ≠ .info := by
    cases r with
    | frame | info | fastInit | fiveBaud => cases htext
    | ok | error | pin | filter | config | periodic =>
        exact ⟨fun e => (nomatch e), fun e => (nomatch e)⟩
  have hcl : claims d r.reply = true := by
    have hinit' : (r.reply.kind == .init) = false := beq_eq_false_iff_ne.mpr hinit
    have hinfo' : (r.reply.kind == .info) = false := beq_eq_false_iff_ne.mpr hinfo
    have hecho : (r.reply.echoed != some d.seqPending) = false := by
      rw [Record.echoed_text htext, hlast, h.seq]
      exact bne_self_eq_false _
    unfold claims
    rw [h.waiting, hinit', hinfo', hecho]
    simp
  rw [(r.reply_kind hf).2.2]
  exact (stashReply_claimed (h.seq ▸ hstrict.1) hcl hinit hinfo).2

/-- **A row of records that holds its own reply fills the slot**, and leaves a full one full. -/
theorem Waiting.handAll (hstrict : a.Strict) : ∀ (rs : List WireRecord) {d : OpDevice}, Waiting a d →
    (d.replyValid = true ∨ ∃ r ∈ rs, r.val.isText = true ∧ r.val.tail.getLast? = some a.seq) →
    ((handedOn rs).foldl handOn d).replyValid = true
  | [], d, _, h => h.elim id fun ⟨r, hr, _⟩ => absurd hr List.not_mem_nil
  | r :: rs, d, hw, h => by
      show ((handedOn rs).foldl handOn (handOn d r.val.handed)).replyValid = true
      refine Waiting.handAll hstrict rs (hw.next r.val) ?_
      rcases h with hv | ⟨q, hq, htext, hlast⟩
      · exact Or.inl (hw.kept hstrict hv r.val)
      · rcases List.mem_cons.mp hq with rfl | hq
        · exact Or.inl (hw.answered hstrict htext hlast)
        · exact Or.inr ⟨q, hq, htext, hlast⟩

end Waiting

/-! ## 3. Handling -/

theorem Told.said {s s' : Sim} {g : Given} {r : WireRecord} (h : Told s g s' r) : Said s s' r := by
  cases h with
  | info _ hs => exact hs
  | answered _ ha => exact ha.said

/-- A row of commands was handled, from the books `b` to the books `b'`: which answers were given,
    and what was put out. -/
structure Serving (e : Setup) (b b' : Books) (todo : List (Issued × Given)) (hs : List Handling)
    (hist : History) (rs : List WireRecord) (new : List (Issued × Record)) : Prop where
  handled : hist.map (·.1) = todo
  heard : hs.map (·.heard) = todo.map (·.2.heard)
  books : Sequential b hist.row b'
  answers : ∀ q ∈ new, ∃ h ∈ hs, ∃ g r, ((q.1, g), r) ∈ hist ∧ Served e h g r ∧ r.val = q.2
  numbered : ∀ q ∈ new, q.1.seq ≠ 0 ∧ q.2.isText = true ∧ q.2.tail.getLast? = some q.1.seq
  texts : ∀ r ∈ rs, r.val.isText = true → ∃ a, (a, r.val) ∈ new
  answered : ∀ p ∈ todo, p.1.seq ≠ 0 → ∃ r ∈ rs, (p.1, r.val) ∈ new

theorem Serving.of {e : Setup} {b b' : Books} {todo : List (Issued × Given)} {hs : List Handling}
    {hist : History} {rs : List WireRecord} {new : List (Issued × Record)}
    (h : Serving e b b' todo hs hist rs new) {q : Issued × Record} (hq : q ∈ new) :
    ∃ g, (q.1, g) ∈ todo := by
  obtain ⟨-, -, g, r, hin, -⟩ := h.answers q hq
  exact ⟨g, h.handled ▸ List.mem_map_of_mem hin⟩

theorem frame_no_text {r : Record} (h : isFrame r = true) : r.isText = false := by
  cases r with
  | frame => rfl
  | ok | error | info | pin | filter | config | periodic | fastInit | fiveBaud => cases h

/-- One command more in front. -/
theorem Serving.cons {e : Setup} {b : Books} {issued : List Issued} {p : Issued × Given}
    {todo : List (Issued × Given)} {h : Handling} {hs : List Handling} {hist : History}
    {r : WireRecord} {fs gs rs : List WireRecord} {new : List (Issued × Record)} (hp : Sent issued p)
    (hserved : Served e h p.2 r) (hf : ∀ f ∈ fs ++ gs, isFrame f.val = true)
    (hrest : Serving e h.after.books b todo hs hist rs new) : ∃ new',
      Serving e h.before.books b (p :: todo) (h :: hs) ((p, r) :: hist) ((fs ++ r :: gs) ++ rs)
        new' := by
  have hframe : ∀ q ∈ (fs ++ r :: gs) ++ rs, q.val.isText = true → q = r ∨ q ∈ rs := by
    intro q hq htext
    rcases List.mem_append.mp hq with hq | hq
    · rcases List.mem_append.mp hq with hq | hq
      · rw [frame_no_text (hf q (List.mem_append_left _ hq))] at htext
        cases htext
      · rcases List.mem_cons.mp hq with hq | hq
        · exact Or.inl hq
        · rw [frame_no_text (hf q (List.mem_append_right _ hq))] at htext
          cases htext
    · exact Or.inr hq
  have hheard : (h :: hs).map (·.heard) = (p :: todo).map (·.2.heard) := by
    rw [List.map_cons, List.map_cons, hrest.heard, hserved.heard]
  have hhandled : ((p, r) :: hist).map (·.1) = p :: todo := by
    rw [List.map_cons, hrest.handled]
  have hbooks : Sequential h.before.books (History.row ((p, r) :: hist)) b :=
    .next hserved.told.specified hrest.books
  have hin : ∀ q ∈ rs, q ∈ (fs ++ r :: gs) ++ rs := fun q hq => List.mem_append_right _ hq
  have hold : ∀ q ∈ new, ∃ h' ∈ h :: hs, ∃ g q', ((q.1, g), q') ∈ (p, r) :: hist ∧
      Served e h' g q' ∧ q'.val = q.2 := by
    intro q hq
    obtain ⟨h', hh, g, r', hg, hs', hr⟩ := hrest.answers q hq
    exact ⟨h', List.mem_cons_of_mem h hh, g, r', List.mem_cons_of_mem _ hg, hs', hr⟩
  by_cases hi : p.2.command = infoCommand
  · -- the version is no text reply, and `ati` has no number
    refine ⟨new, hhandled, hheard, hbooks, hold, hrest.numbered, ?_, ?_⟩
    · intro q hq htext
      rcases hframe q hq htext with rfl | hq
      · cases hserved.told with
        | info => cases htext
        | answered hc _ =>
            exact absurd (congrArg Command.verb hi) hc.noInfo
      · exact hrest.texts q hq htext
    · intro q hq hseq
      rcases List.mem_cons.mp hq with rfl | hq
      · exact absurd (hp.info hi) hseq
      · obtain ⟨r', hr, hn⟩ := hrest.answered q hq hseq
        exact ⟨r', hin r' hr, hn⟩
  · cases hserved.told with
    | info hc => exact absurd hc hi
    | answered hc ha =>
        obtain ⟨htext, htail⟩ := ha.answer.numbered
        refine ⟨(p.1, r.val) :: new, hhandled, hheard, hbooks, ?_, ?_, ?_, ?_⟩
        · intro q hq
          rcases List.mem_cons.mp hq with rfl | hq
          · exact ⟨h, List.mem_cons_self, p.2, r, List.mem_cons_self, hserved, rfl⟩
          · exact hold q hq
        · intro q hq
          rcases List.mem_cons.mp hq with rfl | hq
          · refine ⟨hp.numbered hi, htext, ?_⟩
            rw [htail, hp.seq]
            rfl
          · exact hrest.numbered q hq
        · intro q hq htext'
          rcases hframe q hq htext' with rfl | hq
          · exact ⟨p.1, List.mem_cons_self⟩
          · obtain ⟨a, ha'⟩ := hrest.texts q hq htext'
            exact ⟨a, List.mem_cons_of_mem _ ha'⟩
        · intro q hq hseq
          rcases List.mem_cons.mp hq with rfl | hq
          · refine ⟨r, ?_, List.mem_cons_self⟩
            exact List.mem_append_left _ (List.mem_append_right _ List.mem_cons_self)
          · obtain ⟨r', hr, hn⟩ := hrest.answered q hq hseq
            exact ⟨r', hin r' hr, List.mem_cons_of_mem _ hn⟩

/-- **The cable handles a row of the driver's commands, and answers each.** -/
theorem handlings_serving {e : Setup} (hp : e.Plain) (hinit : e.wire.initReply = .aro)
    (hans : e.Answerable) {issued : List Issued} : ∀ (todo : List (Issued × Given)) {n : Nat} {s : Sim},
    s.Ready n → n + todo.length ≤ 2 ^ 32 → (∀ p ∈ todo, Sent issued p) → ∃ hs s' hist rs new,
      s.handlings e (todo.map (·.2.heard)) = some (hs, s') ∧ s'.Ready (n + todo.length) ∧
      Puts s s' rs ∧ Serving e s.books s'.books todo hs hist rs new
  | [], n, s, hs, _, _ => by
      refine ⟨[], s, [], [], [], rfl, hs, .refl s, rfl, rfl, .done _, ?_, ?_, ?_, ?_⟩
      · exact fun q hq => absurd hq List.not_mem_nil
      · exact fun q hq => absurd hq List.not_mem_nil
      · exact fun r hr => absurd hr List.not_mem_nil
      · exact fun p hp => absurd hp List.not_mem_nil
  | p :: todo, n, s, hs, hn, hsent => by
      rw [List.length_cons] at hn
      have hp' := hsent p List.mem_cons_self
      obtain ⟨s1, r, h1, htold, hready⟩ :=
        given_answered hp hinit hans hs (by omega) hp'.proper
      obtain ⟨fs, gs, hf, hputs⟩ := htold.said
      obtain ⟨hs', s2, hist, rs, new, h2, hready2, hputs2, hserving⟩ :=
        handlings_serving hp hinit hans todo hready (by omega) fun q hq =>
          hsent q (List.mem_cons_of_mem p hq)
      have hserved : Served e ⟨p.2.heard, s, s1⟩ p.2 r := ⟨rfl, h1, htold⟩
      obtain ⟨new', hnew⟩ := Serving.cons hp' hserved hf hserving
      refine ⟨_, s2, _, _, new', ?_, ?_, hputs.trans hputs2, hnew⟩
      · show (handle e s p.2.text p.2.payload).bind _ = _
        rw [h1]
        show (s1.handlings e (todo.map (·.2.heard))).map _ = _
        rw [h2]
        rfl
      · rw [List.length_cons, ← Nat.add_assoc, Nat.add_right_comm]
        exact hready2

/-! ## 4. Each step -/

theorem Sent.mono {issued issued' : List Issued} {p : Issued × Given} (h : Sent issued p)
    (hi : ∀ a ∈ issued, a ∈ issued') : Sent issued' p :=
  ⟨hi _ h.issued, h.proper, h.seq, h.numbered, h.info, h.line, h.payload⟩

section Steps

variable {e : Setup} {l : Loop} {sent : List (Issued × Record)} {rest : List WireRecord}
  {b0 : Books} {hist : History} {todo : List (Issued × Given)}

/-- What was written of one command was written once. -/
theorem Linked.same (h : Linked e l sent rest b0 hist todo) {p q : Issued × Given} (hp : p ∈ l.wrote)
    (hq : q ∈ l.wrote) (hid : p.1.id = q.1.id) : p = q := by
  have hnodup : (l.wrote.map (·.1.id)).Nodup := by
    refine List.pairwise_map.mpr (h.sorted.imp fun hlt => ?_)
    exact Nat.ne_of_lt hlt
  exact List.inj_on_of_nodup_map hnodup hp hq hid

/-- What is issued is one of the driver's commands. -/
theorem sent_new {g : Given} {timeoutMs : UInt32} {waits : Bool} {a : Issued} (hg : g.Proper)
    (hshort : g.command.line.length < opCmdMax)
    (ha : a = (l.session []).next g.command.line g.payload timeoutMs waits) (hseq : g.seq = a.seq)
    (hnext : l.dev.seqNext ≠ 0) : Sent (a :: l.issued) (a, g) := by
  obtain ⟨hline, hpayload, hzero⟩ := next_line hg hshort ha
  have hzero' : a.seq = 0 ↔ g.command.verb = 0x69 :=
    ⟨fun e => (hzero.mp e).elim id fun e => absurd e hnext, fun e => hzero.mpr (Or.inl e)⟩
  refine ⟨List.mem_cons_self, hg, hseq, fun hc e => ?_, fun hc => ?_, ?_, hpayload⟩
  · rcases hg.spoken with hs | hs
    · exact hs.noInfo (hzero'.mp e)
    · exact hc hs
  · exact hzero'.mpr (congrArg Command.verb hc)
  · show a.line = (g.command.issued g.seq).line
    rw [hseq]
    exact hline

/-- A command is issued. -/
theorem Linked.issue (h : Linked e l sent rest b0 hist todo) {start : Nat}
    (hm : Matched start (l.session sent)) (hbound : (l.session sent).numbered < numberCount)
    {g : Given} {timeoutMs : UInt32} {waits : Bool} (went : Bool) {a : Issued} (hg : g.Proper)
    (hshort : g.command.line.length < opCmdMax)
    (ha : a = (l.session []).next g.command.line g.payload timeoutMs waits) (hseq : g.seq = a.seq) :
    Linked e (l.issuing a g went) sent rest b0 hist
      (if went then todo ++ [(a, g)] else todo) := by
  obtain ⟨hline, hpayload, -⟩ := next_line hg hshort ha
  have hnext : l.dev.seqNext ≠ 0 := by
    intro e
    have := nthNumber_ge start (l.session sent).numbered
    rw [← hm.next] at this
    rw [show (l.session sent).dev.seqNext = l.dev.seqNext from rfl, e] at this
    exact absurd this (by decide)
  have hseq' : a.seq = (numberLine l.dev g.command.line).2.1 := congrArg Issued.seq ha
  have hdev : (numberLine l.dev g.command.line).2.2.accum = l.dev.accum ∧
      (numberLine l.dev g.command.line).2.2.lost = l.dev.lost := by
    rcases numberLine_cases l.dev g.command.line with ⟨-, e⟩ | ⟨-, e⟩
    · rw [e]
      exact ⟨rfl, rfl⟩
    · rw [e]
      exact ⟨rfl, rfl⟩
  have hnew : Sent (a :: l.issued) (a, g) := sent_new hg hshort ha hseq hnext
  have hmono : ∀ b ∈ l.issued, b ∈ a :: l.issued := fun b hb => List.mem_cons_of_mem a hb
  have hnumber : a.seq ≠ 0 → a.seq = l.dev.seqNext := by
    intro h0
    rcases numberLine_cases l.dev g.command.line with ⟨e, -⟩ | ⟨e, -⟩
    · exact absurd (hseq'.trans e) h0
    · exact hseq'.trans e
  -- no command issued before has its number
  have hold : a.seq ≠ 0 → ∀ g', (a, g') ∉ l.wrote := fun h0 g' hin =>
    hm.unused hbound a (h.each _ hin).issued h0 (hnumber h0)
  have hid : a.id = l.issued.length := congrArg Issued.id ha
  refine ⟨?_, ?_, ?_, ?_, ?_, ?_, h.cleared, h.done, h.books, h.ready, h.answers, h.read, ?_, h.texts,
    ?_, ?_⟩
  · cases went with
    | true =>
        show l.wrote ++ [(a, g)] = hist.map (·.1) ++ (todo ++ [(a, g)])
        rw [h.wrote, List.append_assoc]
    | false => exact h.wrote
  · intro p hp
    cases went with
    | true =>
        rcases List.mem_append.mp hp with hp | hp
        · exact (h.each p hp).mono hmono
        · rw [List.mem_singleton.mp hp]
          exact hnew
    | false => exact (h.each p hp).mono hmono
  · cases went with
    | true =>
        refine List.pairwise_append.mpr ⟨h.sorted, List.pairwise_singleton _ _, ?_⟩
        intro p hp q hq
        rw [List.mem_singleton.mp hq, hid]
        exact h.below p hp
    | false => exact h.sorted
  · intro p hp
    cases went with
    | true =>
        rcases List.mem_append.mp hp with hp | hp
        · exact Nat.lt_succ_of_lt (h.below p hp)
        · rw [List.mem_singleton.mp hp, hid]
          exact Nat.lt_succ_self _
    | false => exact Nat.lt_succ_of_lt (h.below p hp)
  · cases went with
    | true =>
        show (l.wrote ++ [(a, g)]).length ≤ (a :: l.issued).length
        rw [List.length_append]
        exact Nat.succ_le_succ h.few
    | false => exact Nat.le_succ_of_le h.few
  · cases went with
    | true =>
        show serve l.cable.splitter (l.toCable ++ (a.line ++ a.payload)) =
          { handled := (todo ++ [(a, g)]).map (·.2.heard) }
        rw [serve_append, h.pipe, hline, hpayload, ← hseq, hg.serve, List.map_append]
        rfl
    | false => exact h.pipe
  · intro hlost
    have hl : l.dev.lost = false := hdev.2 ▸ hlost
    have hacc : (l.issuing a g went).dev.accum = l.dev.accum := hdev.1
    rw [hacc]
    exact h.unread hl
  · intro b hb
    cases hb
    rfl
  · intro b g' hb hstrict _ hin _
    cases hb
    cases went with
    | true =>
        rcases List.mem_append.mp hin with hin | hin
        · exact absurd hin (hold hstrict.1 g')
        · exact Or.inr (Or.inr (List.mem_append_right _ hin))
    | false => exact absurd hin (hold hstrict.1 g')

/-- What is put out joins what is in flight. -/
theorem unheard_puts {s' : Sim} {rs : List WireRecord} (l' : Loop) (h : Puts l.cable.sim s' rs)
    (hread : l.heard ≤ l.cable.sim.out.flatten.length) (hsim : l'.cable.sim = s')
    (hheard : l'.heard = l.heard) : l'.unheard = l.unheard ++ stream rs ∧
      l'.heard ≤ l'.cable.sim.out.flatten.length := by
  unfold Loop.unheard
  rw [hsim, hheard, h, List.drop_append_of_le_length hread, List.length_append]
  exact ⟨rfl, Nat.le_add_right_of_le hread⟩

/-- The cable reads, and handles what it has read to its end. -/
theorem Linked.reads (h : Linked e l sent rest b0 hist todo) (hp : e.Plain)
    (hinit : e.wire.initReply = .aro) (hans : e.Answerable) (hbound : l.issued.length ≤ 2 ^ 32)
    {n : Nat} {c : Cable} {hs : List Handling} (hread : l.cable.read e (l.toCable.take n) = some c)
    (hhs : l.cable.sim.handlings e (serve l.cable.splitter (l.toCable.take n)).handled =
      some (hs, c.sim)) : ∃ new rs hist1 todo2, (∀ q ∈ new, q.1 ∈ l.issued ∧ q.1.seq ≠ 0 ∧
        q.2.isText = true ∧ q.2.tail.getLast? = some q.1.seq) ∧
      Linked e { l with toCable := l.toCable.drop n, cable := c, done := l.done ++ hs } (new ++ sent)
        (rest ++ rs) b0 (hist ++ hist1) todo2 := by
  have hpipe := h.pipe
  rw [← List.take_append_drop n l.toCable] at hpipe
  obtain ⟨later, hlater, hcut⟩ := serve_cut hpipe
  obtain ⟨todo1, todo2, rfl, h1, h2⟩ := List.map_eq_append_iff.mp hcut
  have hsplitter : c.splitter = { serve l.cable.splitter (l.toCable.take n) with handled := [] } := by
    unfold Cable.read at hread
    rw [h.ready.isOpen] at hread
    obtain ⟨s, -, e⟩ := Option.map_eq_some_iff.mp hread
    rw [← e]
  have hlen : l.done.length = hist.length := by
    have := congrArg List.length h.done
    rwa [List.length_map, List.length_map] at this
  have hroom : l.done.length + todo1.length ≤ 2 ^ 32 := by
    have := h.few
    rw [h.wrote, List.length_append, List.length_append, List.length_map] at this
    omega
  have hin1 : ∀ p ∈ todo1, p ∈ l.wrote := by
    intro p hp1
    rw [h.wrote]
    exact List.mem_append_right _ (List.mem_append_left _ hp1)
  have htodo1 : ∀ p ∈ todo1, Sent l.issued p := fun p hp1 => h.each p (hin1 p hp1)
  obtain ⟨hs', s', hist1, rs, new, hhs', hready, hputs, hserving⟩ :=
    handlings_serving hp hinit hans todo1 h.ready hroom htodo1
  rw [h1, hhs] at hhs'
  obtain ⟨rfl, hsim⟩ := Prod.mk.inj (Option.some.inj hhs')
  have hputs' : Puts l.cable.sim c.sim rs := hsim ▸ hputs
  obtain ⟨hunheard, hheard⟩ := unheard_puts
    { l with toCable := l.toCable.drop n, cable := c, done := l.done ++ hs } hputs' h.read rfl rfl
  have hdone : (l.done ++ hs).length = l.done.length + todo1.length := by
    have := congrArg List.length hserving.heard
    rw [List.length_map, List.length_map] at this
    rw [List.length_append, this]
  refine ⟨new, rs, hist1, todo2, fun q hq => ?_, ?_, h.each, h.sorted, h.below, h.few, ?_, ?_, ?_,
    ?_, ?_, ?_, hheard, ?_, ?_, h.claim, ?_⟩
  · obtain ⟨g, hg⟩ := hserving.of hq
    exact ⟨(h.each _ (hin1 _ hg)).issued, hserving.numbered q hq⟩
  · rw [h.wrote, List.map_append, hserving.handled, List.append_assoc]
  · show serve c.splitter (l.toCable.drop n) = _
    rw [hsplitter, hlater, h2]
  · rw [hsplitter]
  · show (l.done ++ hs).map (·.heard) = _
    rw [List.map_append, List.map_append, h.done, hserving.heard, ← hserving.handled, List.map_map]
    rfl
  · show Sequential b0 (hist ++ hist1).row c.sim.books
    rw [show (hist ++ hist1).row = hist.row ++ hist1.row from List.map_append, hsim]
    exact h.books.append hserving.books
  · show c.sim.Ready (l.done ++ hs).length
    rw [hdone, hsim]
    exact hready
  · intro q hq
    rcases List.mem_append.mp hq with hq | hq
    · obtain ⟨d, hd, g, r, hg, hserved, hr⟩ := hserving.answers q hq
      exact ⟨d, List.mem_append_right _ hd, g, r, List.mem_append_right _ hg, hserved, hr⟩
    · obtain ⟨d, hd, g, r, hg, hserved, hr⟩ := h.answers q hq
      exact ⟨d, List.mem_append_left _ hd, g, r, List.mem_append_left _ hg, hserved, hr⟩
  · intro hlost
    obtain ⟨hb, hstream⟩ := h.unread hlost
    refine ⟨begins_append hb rs, ?_⟩
    rw [hunheard, ← List.append_assoc, hstream, stream_append]
  · intro r hr htext
    rcases List.mem_append.mp hr with hr | hr
    · obtain ⟨a, ha⟩ := h.texts r hr htext
      exact ⟨a, List.mem_append_right _ ha⟩
    · obtain ⟨a, ha⟩ := hserving.texts r hr htext
      exact ⟨a, List.mem_append_left _ ha⟩
  · intro a g hcur hstrict hwaits hin hlost
    rcases h.waits a g hcur hstrict hwaits hin hlost with hv | ⟨r, hr, hq⟩ | hin
    · exact Or.inl hv
    · exact Or.inr (Or.inl ⟨r, List.mem_append_left _ hr, List.mem_append_right _ hq⟩)
    · rcases List.mem_append.mp hin with hin | hin
      · obtain ⟨r, hr, hq⟩ := hserving.answered (a, g) hin hstrict.1
        exact Or.inr (Or.inl ⟨r, List.mem_append_right _ hr, List.mem_append_left _ hq⟩)
      · exact Or.inr (Or.inr hin)

/-- A timer or a thread puts out frames. -/
theorem Linked.due (h : Linked e l sent rest b0 hist todo) (hp : e.Plain) {ev : Event} {s' : Sim}
    (hev : ev.isDue = true) (hstep : l.cable.sim.step e ev = some s') : ∃ rs,
      Linked e { l with cable := { l.cable with sim := s' } } sent (rest ++ rs) b0 hist todo := by
  obtain ⟨s1, h1, hstill⟩ := due_still e l.cable.sim hev
  obtain rfl : s1 = s' := Option.some.inj (h1.symm.trans hstep)
  obtain ⟨rs, hf, hputs⟩ := hstill.frames hp
  obtain ⟨hunheard, hheard⟩ := unheard_puts
    { l with cable := { l.cable with sim := s1 } } hputs h.read rfl rfl
  refine ⟨rs, h.wrote, h.each, h.sorted, h.below, h.few, h.pipe, h.cleared, h.done, ?_,
    hstill.ready hstep h.ready, h.answers, hheard, ?_, ?_, h.claim, ?_⟩
  · show Sequential b0 hist.row s1.books
    rw [hstill.books]
    exact h.books
  · intro hlost
    obtain ⟨hb, hstream⟩ := h.unread hlost
    refine ⟨begins_append hb rs, ?_⟩
    rw [hunheard, ← List.append_assoc, hstream, stream_append]
  · intro r hr htext
    rcases List.mem_append.mp hr with hr | hr
    · exact h.texts r hr htext
    · rw [frame_no_text (hf r hr)] at htext
      cases htext
  · intro a g hcur hstrict hwaits hin hlost
    rcases h.waits a g hcur hstrict hwaits hin hlost with hv | ⟨r, hr, hq⟩ | hin
    · exact Or.inl hv
    · exact Or.inr (Or.inl ⟨r, List.mem_append_left _ hr, hq⟩)
    · exact Or.inr (Or.inr hin)

/-- Records leave the accumulator, the connection and the waiting command alone. -/
theorem handAll_slot : ∀ (rs : List WireRecord) (d : OpDevice),
    ((handedOn rs).foldl handOn d).accum = d.accum ∧
      ((handedOn rs).foldl handOn d).lost = d.lost ∧
      ((handedOn rs).foldl handOn d).cmdWaiting = d.cmdWaiting
  | [], _ => ⟨rfl, rfl, rfl⟩
  | r :: rs, d => by
      obtain ⟨ch, reply, text, data, valid, e⟩ := handOn_slot d r.val
      have ih := handAll_slot rs (handOn d r.val.handed)
      rw [e] at ih
      show ((handedOn rs).foldl handOn (handOn d r.val.handed)).accum = _ ∧
        ((handedOn rs).foldl handOn (handOn d r.val.handed)).lost = _ ∧
        ((handedOn rs).foldl handOn (handOn d r.val.handed)).cmdWaiting = _
      rw [e]
      exact ih

/-- The driver's reader reads. -/
theorem Linked.hears (h : Linked e l sent rest b0 hist todo) {start : Nat}
    (hm : Matched start (l.session sent)) {n : Nat} (hn : n ≤ 1024) (hread : n ≤ l.unheard.length)
    (hlost : l.dev.lost = false) : ∃ left,
      Steps (l.session sent)
        { l.session sent with dev := arrive l.dev (.read (l.unheard.take n)) } ∧
      Linked e { l with dev := arrive l.dev (.read (l.unheard.take n)), heard := l.heard + n } sent left
        b0 hist todo := by
  obtain ⟨hb, hstream⟩ := h.unread hlost
  have hlen : (l.unheard.take n).length ≤ 1024 := Nat.le_trans (List.length_take_le _ _) hn
  have hstream' : l.dev.accum ++ (l.unheard.take n ++ l.unheard.drop n) = stream rest := by
    rw [List.take_append_drop]
    exact hstream
  obtain ⟨gone, left, rfl, hgone, hbegins, hleft⟩ := readerRead_cut hb hstream' hlen
  have harrive : arrive l.dev (.read (l.unheard.take n)) = (handedOn gone).foldl handOn
      { l.dev with accum := (readerRead l.dev.accum (l.unheard.take n)).2 } := by
    show (if l.dev.lost = true then l.dev else (readerRead l.dev.accum (l.unheard.take n)).1.foldl
      handOn { l.dev with accum := (readerRead l.dev.accum (l.unheard.take n)).2 }) = _
    rw [if_neg (by rw [hlost]; decide), hgone]
  obtain ⟨haccum, hlost', hwaiting⟩ := handAll_slot gone
    { l.dev with accum := (readerRead l.dev.accum (l.unheard.take n)).2 }
  have hcarries : Carries l.issued sent l.dev [.read (l.unheard.take n)] := by
    refine ⟨fun x hx => ?_, trivial⟩
    rw [hgone] at hx
    obtain ⟨r, hr, rfl⟩ := List.mem_map.mp hx
    refine ⟨r.val, rfl, ?_⟩
    cases htext : r.val.isText with
    | true => exact Or.inl (h.texts r (List.mem_append_left _ hr) htext)
    | false => exact Or.inr fun e => absurd (htext.symm.trans e) (fun e => nomatch e)
  refine ⟨left, arrivals_steps [.read (l.unheard.take n)] (l.session sent) hcarries, h.wrote, h.each,
    h.sorted, h.below, h.few, h.pipe, h.cleared, h.done, h.books, h.ready, h.answers, ?_, ?_, ?_, ?_, ?_⟩
  · have hu : l.unheard.length = l.cable.sim.out.flatten.length - l.heard := List.length_drop
    have := h.read
    show l.heard + n ≤ l.cable.sim.out.flatten.length
    omega
  · intro _
    rw [harrive, haccum]
    refine ⟨hbegins, ?_⟩
    show _ ++ l.cable.sim.out.flatten.drop (l.heard + n) = stream left
    rw [← List.drop_drop]
    exact hleft
  · exact fun r hr => h.texts r (List.mem_append_right _ hr)
  · intro a ha
    rw [harrive, hwaiting]
    exact h.claim a ha
  · intro a g hcur hstrict hwaits hin _
    obtain ⟨-, hseq, hverb⟩ := hm.slot a hcur
    have hslot : Waiting a { l.dev with
        accum := (readerRead l.dev.accum (l.unheard.take n)).2 } :=
      ⟨(h.claim a hcur).trans hwaits, hseq, hverb⟩
    rw [harrive]
    rcases h.waits a g hcur hstrict hwaits hin hlost with hv | ⟨r, hr, hq⟩ | hin
    · exact Or.inl (hslot.handAll hstrict gone (Or.inl hv))
    · rcases List.mem_append.mp hr with hr | hr
      · obtain ⟨-, -, hlast⟩ := hm.sent _ hq
        refine Or.inl (hslot.handAll hstrict gone (Or.inr ⟨r, hr, ?_, hlast⟩))
        obtain ⟨d, -, g', r', -, hserved, hr'⟩ := h.answers _ hq
        rw [← show r'.val = r.val from hr']
        cases hserved.told with
        | info hc =>
            rw [← show infoReply.val = r.val from hr'] at hlast
            cases hlast
        | answered _ ha => exact ha.answer.numbered.1
      · exact Or.inr (Or.inl ⟨r, hr, hq⟩)
    · exact Or.inr (Or.inr hin)

/-- The device disappears. -/
theorem Linked.gone (h : Linked e l sent rest b0 hist todo) :
    Linked e { l with dev := { l.dev with lost := true } } sent rest b0 hist todo :=
  ⟨h.wrote, h.each, h.sorted, h.below, h.few, h.pipe, h.cleared, h.done, h.books, h.ready, h.answers,
    h.read, (fun e => nomatch e), h.texts, h.claim, (fun _ _ _ _ _ _ e => nomatch e)⟩

/-- A transaction ends. -/
theorem Linked.ended (h : Linked e l sent rest b0 hist todo) {d : OpDevice}
    (hacc : d.accum = l.dev.accum) (hlost : d.lost = l.dev.lost) (x : Returned) :
    Linked e { l with dev := d, current := none, returned := x :: l.returned } sent rest b0 hist
      todo := by
  refine ⟨h.wrote, h.each, h.sorted, h.below, h.few, h.pipe, h.cleared, h.done, h.books, h.ready, h.answers,
    h.read, ?_, h.texts, (fun a e => nomatch e), (fun a g e => nomatch e)⟩
  intro e
  show Begins (words rest) d.accum ∧ d.accum ++ l.unheard = stream rest
  rw [hacc]
  exact h.unread (hlost.symm.trans e)

theorem collect_slot (d : OpDevice) :
    (collect d).2.2.accum = d.accum ∧ (collect d).2.2.lost = d.lost := by
  unfold collect
  split
  · exact ⟨rfl, rfl⟩
  split
  · exact ⟨rfl, rfl⟩
  · exact ⟨rfl, rfl⟩

/-- Answers that were given are entered in the session. -/
theorem answers_run (l : Loop) (sent : List (Issued × Record)) : ∀ new : List (Issued × Record),
    (∀ q ∈ new, q.1 ∈ l.issued ∧ q.1.seq ≠ 0 ∧ q.2.isText = true ∧ q.2.tail.getLast? = some q.1.seq) →
    Steps (l.session sent) (l.session (new ++ sent))
  | [], _ => .refl
  | q :: new, h => by
      obtain ⟨hin, hseq, htext, hlast⟩ := h q List.mem_cons_self
      exact .tail (answers_run l sent new fun p hp => h p (List.mem_cons_of_mem q hp))
        (.answer (l.session (new ++ sent)) q.1 q.2 hin hseq htext hlast)

end Steps

/-! ## 5. Every run -/

theorem LoopStart.session {l : Loop} (h : LoopStart l) : SessionStart (l.session []) :=
  ⟨h.number, h.waiting, h.issued, rfl, h.current, h.returned⟩

theorem numbered_le (l : Loop) (sent : List (Issued × Record)) :
    (l.session sent).numbered ≤ l.issued.length := List.length_filter_le _ _

/-- Steps issue commands and take none back. -/
theorem issued_step {e : Setup} {l l' : Loop} (h : WholeStep e l l') :
    l.issued.length ≤ l'.issued.length := by
  cases h with
  | issue => exact Nat.le_succ _
  | reads | due | hears | gone | drop | collect => exact Nat.le_refl _

/-- **One step of the system is steps of the session**, and keeps what is in flight. -/
theorem linked_step {e : Setup} (hp : e.Plain) (hinit : e.wire.initReply = .aro) (hans : e.Answerable)
    {start : Nat} {l l' : Loop} {sent : List (Issued × Record)} {rest : List WireRecord}
    {b0 : Books} {hist : History} {todo : List (Issued × Given)}
    (h : Linked e l sent rest b0 hist todo) (hm : Matched start (l.session sent))
    (hstep : WholeStep e l l') (hbound : l'.issued.length < numberCount) : ∃ sent' rest' hist' todo',
      Steps (l.session sent) (l'.session sent') ∧ Linked e l' sent' rest' b0 hist' todo' := by
  have hlt : l.issued.length < numberCount := Nat.lt_of_le_of_lt (issued_step hstep) hbound
  cases hstep with
  | issue g timeoutMs waits went a hcur hopen hlost hg hshort ha hseq =>
      refine ⟨sent, rest, hist, _, .single ?_,
        h.issue hm (Nat.lt_of_le_of_lt (numbered_le l sent) hlt) went hg hshort ha hseq⟩
      obtain rfl : a.waits = waits := congrArg Issued.waits ha
      exact .issue (l.session sent) g.command.line g.payload timeoutMs a.waits a hcur hopen hlost ha
  | reads n c hs hread hhs =>
      obtain ⟨new, rs, hist1, todo2, hnew, hl⟩ :=
        h.reads hp hinit hans (Nat.le_trans (Nat.le_of_lt hlt) (by decide)) hread hhs
      exact ⟨_, _, _, _, answers_run l sent new hnew, hl⟩
  | due ev s hev hstep =>
      obtain ⟨rs, hl⟩ := h.due hp hev hstep
      exact ⟨_, _, _, _, .refl, hl⟩
  | hears n hn hread hlost =>
      obtain ⟨left, hsteps, hl⟩ := h.hears hm hn hread hlost
      exact ⟨_, _, _, _, hsteps, hl⟩
  | gone => exact ⟨_, _, _, _, .single (.gone (l.session sent)), h.gone⟩
  | drop a st hcur hdrop =>
      refine ⟨sent, rest, hist, todo, .single (.drop (l.session sent) a st hcur hdrop), ?_⟩
      exact h.ended (d := ({ l.dev with cmdWaiting := false }).logged (a.txn st st none)) rfl rfl _
  | collect a hcur hwaits =>
      obtain ⟨hacc, hlost⟩ := collect_slot l.dev
      refine ⟨sent, rest, hist, todo, .single (.collect (l.session sent) a hcur hwaits), ?_⟩
      exact h.ended (d := (collect l.dev).2.2.logged
        (a.txn .ok (collect l.dev).1 (collect l.dev).2.1)) hacc hlost _

/-- **The driver's side of every run is a run of its session**, in which every text reply is an
    answer the cable gave to a command that was issued. -/
theorem loop_linked {e : Setup} (hp : e.Plain) (hinit : e.wire.initReply = .aro) (hans : e.Answerable)
    {l0 l : Loop} (h0 : LoopStart l0) (hrun : WholeSteps e l0 l) (hbound : l.issued.length < numberCount) :
    ∃ sent rest hist todo, Steps (l0.session []) (l.session sent) ∧
      Linked e l sent rest l0.cable.sim.books hist todo := by
  induction hrun with
  | refl => exact ⟨[], [], [], [], .refl, linked_start h0⟩
  | @tail l1 l2 _ hstep ih =>
      have hlt := Nat.lt_of_le_of_lt (issued_step hstep) hbound
      obtain ⟨sent, rest, hist, todo, hsteps, hl⟩ := ih hlt
      have hm := matched_run h0.session hsteps (Nat.lt_of_le_of_lt (numbered_le l1 sent) hlt)
      obtain ⟨sent', rest', hist', todo', hsteps', hl'⟩ :=
        linked_step hp hinit hans hl hm hstep hbound
      exact ⟨sent', rest', hist', todo', hsteps.trans hsteps', hl'⟩

end Openport.Simulator
