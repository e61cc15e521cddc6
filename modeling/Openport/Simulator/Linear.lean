/-
  File:      Openport/Simulator/Linear.lean
  Subject:   The driver and the simulated cable, byte by byte and in any interleaving, are
             one cable that handles one command after the other.

  `loop_linear` says so: the commands in the order they were issued in are a row of
  `Openport/Simulator/Sequential.lean`, and what is returned is what the row says. So what
  holds of rows holds of every run, whatever timed out: a parameter that is read is the
  one that was set (`loop_config`), no id is given out twice (`loop_ids`), and a periodic
  message that was ended is never sent again (`loop_stopped`).
-/
import Openport.Simulator.Periodics
import Openport.Simulator.System

namespace Openport.Simulator

open Lib Lib.Decimal Lib.Rows

section Runs

variable {e : Setup} {l0 l : Loop}

/-! ## 1. Rows of a run -/

/-- **The run as a row**: `hist` are the commands the cable has handled since its books were `b`, and
    `todo` those that are still on their way. -/
structure Linear (b : Books) (l : Loop) (hist : History) (todo : List (Issued × Given)) : Prop where
  wrote : l.wrote = hist.map (·.1) ++ todo
  sorted : l.wrote.Pairwise fun p q => p.1.id < q.1.id
  each : ∀ p ∈ l.wrote, Sent l.issued p
  books : Sequential b hist.row l.cable.sim.books
  returned : ∀ x ∈ l.returned, x.cmd.Strict → x.cmd.waits = true → x.status = .ok →
    ∃ g r, ((x.cmd, g), r) ∈ hist ∧ x.reply = some (matchedReply r.val.reply)

theorem Linked.linear {start : Nat} {sent : List (Issued × Record)} {rest : List WireRecord}
    {b : Books} {hist : History} {todo : List (Issued × Given)}
    (hl : Linked e l sent rest b hist todo) (hm : Matched start (l.session sent)) :
    Linear b l hist todo := by
  refine ⟨hl.wrote, hl.sorted, hl.each, hl.books, fun x hx hstrict hwaits hok => ?_⟩
  obtain ⟨r, hr, hreply⟩ := hm.returned x hx hstrict hwaits hok
  obtain ⟨-, -, g, r', hin, -, hr'⟩ := hl.answers _ hr
  exact ⟨g, r', hin, by rw [hreply, show r'.val = r from hr']⟩

/-- What was handled was written. -/
theorem Linear.written {b : Books} {hist : History} {todo : List (Issued × Given)}
    (h : Linear b l hist todo) {p : (Issued × Given) × WireRecord} (hp : p ∈ hist) : p.1 ∈ l.wrote := by
  rw [h.wrote]
  exact List.mem_append_left _ (List.mem_map_of_mem hp)

/-- A numbered command that waited was returned `OP_OK`, and what it was. -/
structure Got (l : Loop) (x : Returned) (g : Given) : Prop where
  returned : x ∈ l.returned
  strict : x.cmd.Strict
  waits : x.cmd.waits = true
  ok : x.status = .ok
  wrote : (x.cmd, g) ∈ l.wrote

/-- The commands of the history are in the order they were issued in. -/
theorem Linear.order {b : Books} {hist : History} {todo : List (Issued × Given)}
    (h : Linear b l hist todo) : hist.Pairwise fun p q => p.1.1.id < q.1.1.id := by
  have hsorted := h.sorted
  rw [h.wrote] at hsorted
  exact List.Pairwise.of_map (S := fun p q : Issued × Given => p.1.id < q.1.id) (·.1)
    (fun _ _ hlt => hlt) (List.pairwise_append.mp hsorted).1

/-- **A command of the history, what it made of the books, and the row behind it.** -/
theorem Linear.behind {b : Books} {hist : History} {todo : List (Issued × Given)}
    (h : Linear b l hist todo) {p : (Issued × Given) × WireRecord} (hp : p ∈ hist) :
    ∃ b1 b2 post, Specified b1 p.1.2 p.2 b2 ∧ Sequential b2 post l.cable.sim.books ∧
      ∀ z ∈ post, ∃ q ∈ hist, (q.1.2, q.2) = z ∧ p.1.1.id < q.1.1.id := by
  obtain ⟨pre, post, rfl⟩ := List.append_of_mem hp
  have hrow := h.books
  rw [show History.row (pre ++ p :: post) = History.row pre ++ (p.1.2, p.2) :: History.row post from
    List.map_append] at hrow
  obtain ⟨b1, -, hrest⟩ := hrow.split
  cases hrest with
  | next hspec hpost =>
      refine ⟨b1, _, History.row post, hspec, hpost, fun z hz => ?_⟩
      obtain ⟨q, hq, rfl⟩ := List.mem_map.mp hz
      have hlater := (List.pairwise_append.mp h.order).2.1
      exact ⟨q, List.mem_append_right _ (List.mem_cons_of_mem _ hq), rfl,
        (List.pairwise_cons.mp hlater).1 q hq⟩

/-- What a command was returned is in the row where the command is. -/
theorem Linear.got {b : Books} {hist : History} {todo : List (Issued × Given)}
    (h : Linear b l hist todo) {x : Returned} {g : Given} (hx : Got l x g) :
    ∃ r, ((x.cmd, g), r) ∈ hist ∧ x.reply = some (matchedReply r.val.reply) := by
  obtain ⟨g', r, hin, hreply⟩ := h.returned x hx.returned hx.strict hx.waits hx.ok
  have hin' : (x.cmd, g') ∈ l.wrote := h.written hin
  have hnodup : (l.wrote.map (·.1.id)).Nodup :=
    List.pairwise_map.mpr (h.sorted.imp fun hlt => Nat.ne_of_lt hlt)
  obtain rfl : g' = g :=
    (Prod.mk.inj (List.inj_on_of_nodup_map hnodup hin' hx.wrote rfl)).2
  exact ⟨r, hin, hreply⟩

/-- **Two commands of the history, as a row.** -/
theorem Linear.apart {b : Books} {hist : History} {todo : List (Issued × Given)}
    (h : Linear b l hist todo) {p q : (Issued × Given) × WireRecord} (hp : p ∈ hist) (hq : q ∈ hist)
    (hlt : p.1.1.id < q.1.1.id) : ∃ pre mid post,
      Sequential b (pre ++ (p.1.2, p.2) :: (mid ++ (q.1.2, q.2) :: post)) l.cable.sim.books ∧
      (pre ++ (p.1.2, p.2) :: (mid ++ (q.1.2, q.2) :: post)).length = hist.length ∧
      ∀ z ∈ mid, ∃ r ∈ hist, (r.1.2, r.2) = z ∧ p.1.1.id < r.1.1.id ∧ r.1.1.id < q.1.1.id := by
  obtain ⟨pre, mid, post, hhist, hmid⟩ :=
    between (k := fun p : (Issued × Given) × WireRecord => p.1.1.id) h.order hp hq hlt
  have hrow : hist.row = History.row pre ++ (p.1.2, p.2) :: (History.row mid ++ (q.1.2, q.2) ::
      History.row post) := by
    rw [hhist]
    unfold History.row
    rw [List.map_append, List.map_cons, List.map_append, List.map_cons]
  refine ⟨History.row pre, History.row mid, History.row post, hrow ▸ h.books, ?_, fun z hz => ?_⟩
  · rw [← hrow]
    exact List.length_map _
  · obtain ⟨r, hr, rfl⟩ := List.mem_map.mp hz
    refine ⟨r, ?_, rfl, hmid r hr⟩
    rw [hhist]
    exact List.mem_append_right _ (List.mem_cons_of_mem _ (List.mem_append_left _ hr))

/-- And two commands that were returned. -/
theorem Linear.pair {b : Books} {hist : History} {todo : List (Issued × Given)}
    (h : Linear b l hist todo) {x y : Returned} {gx gy : Given} (hx : Got l x gx) (hy : Got l y gy)
    (hlt : x.cmd.id < y.cmd.id) : ∃ pre mid post rx ry,
      Sequential b (pre ++ (gx, rx) :: (mid ++ (gy, ry) :: post)) l.cable.sim.books ∧
      x.reply = some (matchedReply rx.val.reply) ∧ y.reply = some (matchedReply ry.val.reply) ∧
      (pre ++ (gx, rx) :: (mid ++ (gy, ry) :: post)).length = hist.length ∧
      ∀ p ∈ mid, ∃ q ∈ l.wrote, q.2 = p.1 ∧ x.cmd.id < q.1.id ∧ q.1.id < y.cmd.id := by
  obtain ⟨rx, hrx, hxr⟩ := h.got hx
  obtain ⟨ry, hry, hyr⟩ := h.got hy
  obtain ⟨pre, mid, post, hrow, hlen, hmid⟩ := h.apart hrx hry hlt
  refine ⟨pre, mid, post, rx, ry, hrow, hxr, hyr, hlen, fun p hp => ?_⟩
  obtain ⟨q, hq, rfl, hid⟩ := hmid p hp
  exact ⟨q.1, h.written hq, rfl, hid⟩

/-! ## 2. A round trip, to run the system on samples -/

/-- The cable reads all that was written. -/
def Loop.readsAll (e : Setup) (l : Loop) : Option Loop :=
  (l.cable.sim.handlings e (serve l.cable.splitter l.toCable).handled).map fun r =>
    { l with
      toCable := []
      cable := { splitter := { serve l.cable.splitter l.toCable with handled := [] }, sim := r.2 }
      done := l.done ++ r.1 }

theorem readsAll_step {l' : Loop} (hopen : l.cable.sim.closed = false)
    (h : l.readsAll e = some l') : WholeStep e l l' := by
  obtain ⟨⟨hs, s⟩, hhs, rfl⟩ := Option.map_eq_some_iff.mp h
  have hread := read_eq e hopen l.toCable
  rw [hhs] at hread
  have hstep := WholeStep.reads l l.toCable.length
    { splitter := { serve l.cable.splitter l.toCable with handled := [] }, sim := s } hs
    (by rw [List.take_length]; exact hread) (by rw [List.take_length]; exact hhs)
  rw [List.drop_length] at hstep
  exact hstep

/-- The driver's reader reads all that was put out, if it is one read. -/
def Loop.hearsAll (l : Loop) : Option Loop :=
  if l.unheard.length ≤ 1024 ∧ l.dev.lost = false then
    some { l with
      dev := arrive l.dev (.read (l.unheard.take l.unheard.length))
      heard := l.heard + l.unheard.length }
  else none

theorem hearsAll_step {l' : Loop} (h : l.hearsAll = some l') : WholeStep e l l' := by
  unfold Loop.hearsAll at h
  split at h
  · rename_i hc
    obtain rfl := Option.some.inj h
    exact .hears l l.unheard.length hc.1 (Nat.le_refl _) hc.2
  · cases h

/-- The wait of a command ends. -/
def Loop.collects (l : Loop) : Option Loop :=
  l.current.bind fun a =>
    if a.waits = true then
      some { l with
        dev := (collect l.dev).2.2.logged (a.txn .ok (collect l.dev).1 (collect l.dev).2.1)
        current := none
        returned := ⟨a, (collect l.dev).1, (collect l.dev).2.1⟩ :: l.returned }
    else none

theorem collects_step {l' : Loop} (h : l.collects = some l') : WholeStep e l l' := by
  obtain ⟨a, ha, h⟩ := Option.bind_eq_some_iff.mp h
  split at h
  · rename_i hwaits
    obtain rfl := Option.some.inj h
    exact .collect l a ha hwaits
  · cases h

/-- A command that waits is issued with the number the counter is at. -/
def Loop.issues (l : Loop) (c : Command) (payload : Bytes) : Option Loop :=
  let a := (l.session []).next c.line payload 1000 true
  if l.current = none ∧ l.dev.opened = true ∧ l.dev.lost = false ∧ c.line.length < opCmdMax then
    some (l.issuing a ⟨c, payload, a.seq⟩ true)
  else none

theorem issues_step {c : Command} {payload : Bytes} {l' : Loop} (hc : Spoken c)
    (hpay : ∀ seq, payload.length = (c.issued seq).declares) (h : l.issues c payload = some l') :
    WholeStep e l l' := by
  unfold Loop.issues at h
  split at h
  · rename_i hcond
    obtain rfl := Option.some.inj h
    exact .issue l ⟨c, payload, _⟩ 1000 true true _ hcond.1 hcond.2.1 hcond.2.2.1
      ⟨Or.inl hc, hpay _⟩ hcond.2.2.2 rfl rfl
  · cases h

/-- A command goes out, the cable reads it, the driver reads the reply, and the wait ends. -/
def Loop.roundTrip (e : Setup) (l : Loop) (c : Command) (payload : Bytes) : Option Loop :=
  (((l.issues c payload).bind fun l1 => if l1.cable.sim.closed then none else l1.readsAll e).bind
    fun l2 => l2.hearsAll).bind fun l3 => l3.collects

theorem roundTrip_steps {c : Command} {payload : Bytes} {l' : Loop} (hc : Spoken c)
    (hpay : ∀ seq, payload.length = (c.issued seq).declares)
    (h : l.roundTrip e c payload = some l') : WholeSteps e l l' := by
  obtain ⟨l3, h, h3⟩ := Option.bind_eq_some_iff.mp h
  obtain ⟨l2, h, h2⟩ := Option.bind_eq_some_iff.mp h
  obtain ⟨l1, h0, h1⟩ := Option.bind_eq_some_iff.mp h
  split at h1
  · cases h1
  · rename_i hopen
    have hopen' : l1.cable.sim.closed = false := Bool.eq_false_iff.mpr hopen
    exact (((Relation.ReflTransGen.single (issues_step hc hpay h0)).tail
      (readsAll_step hopen' h1)).tail (hearsAll_step h2)).tail (collects_step h3)

end Runs

/-! ## 3. Samples -/

/-- "ato5 0 500000 0", "ats5 3 1" and "atg5 3". -/
def openCommand : Command := { verb := 0x6f, channel := some 5, args := [0, 500000, 0] }

def setCommand : Command := { verb := 0x73, channel := some 5, args := [3, 1] }

def getCommand : Command := { verb := 0x67, channel := some 5, args := [3] }

/-- "atm5 1000 0 0 1" and "atl5". -/
def scheduleCommand : Command := { verb := 0x6d, channel := some 5, args := [1000, 0, 0, 1] }

def clearCommand : Command := { verb := 0x6c, channel := some 5 }

/-- Commands one after the other, each with its answer. -/
def Loop.roundTrips (e : Setup) (l : Loop) : List (Command × Bytes) → Option Loop
  | [] => some l
  | c :: cs => (l.roundTrip e c.1 c.2).bind fun l' => l'.roundTrips e cs

theorem roundTrips_steps {e : Setup} : ∀ {cs : List (Command × Bytes)} {l l' : Loop},
    (∀ c ∈ cs, Spoken c.1 ∧ ∀ seq, c.2.length = (c.1.issued seq).declares) →
    l.roundTrips e cs = some l' → WholeSteps e l l'
  | [], l, l', _, h => by
      obtain rfl := Option.some.inj h
      exact .refl
  | c :: cs, l, l', hcs, h => by
      obtain ⟨l1, h1, h2⟩ := Option.bind_eq_some_iff.mp h
      obtain ⟨hc, hpay⟩ := hcs c List.mem_cons_self
      exact (roundTrip_steps hc hpay h1).trans
        (roundTrips_steps (fun d hd => hcs d (List.mem_cons_of_mem c hd)) h2)

/-- What a numbered command that waited was returned, and what it was. -/
def IsReply (x : Returned) (c : Command) (kind : OpReplyKind) (p : Issued × Given) : Prop :=
  x.cmd = p.1 ∧ p.2.command = c ∧ (x.cmd.seq ≠ 0 ∧ x.cmd.verb ≠ 0x79 ∧ x.cmd.verb ≠ 0x77) ∧
    x.cmd.waits = true ∧ x.status = .ok ∧ x.reply.map (·.kind) = some kind

instance (x : Returned) (c : Command) (kind : OpReplyKind) (p : Issued × Given) :
    Decidable (IsReply x c kind p) := by
  unfold IsReply
  infer_instance

/-- Two commands one behind the other, as they were written and as they were returned. -/
def Loop.Shows (l : Loop) (cx cy : Command) (kx ky : OpReplyKind) : Prop :=
  ∃ x ∈ l.returned, ∃ y ∈ l.returned, (∃ p ∈ l.wrote, IsReply x cx kx p) ∧
    (∃ q ∈ l.wrote, IsReply y cy ky q) ∧ x.cmd.id < y.cmd.id ∧
    ∀ u ∈ l.wrote, ¬(x.cmd.id < u.1.id ∧ u.1.id < y.cmd.id)

instance (l : Loop) (cx cy : Command) (kx ky : OpReplyKind) : Decidable (l.Shows cx cy kx ky) := by
  unfold Loop.Shows
  infer_instance

theorem IsReply.got {l : Loop} {x : Returned} {c : Command} {kind : OpReplyKind}
    {p : Issued × Given} (h : IsReply x c kind p) (hx : x ∈ l.returned) (hp : p ∈ l.wrote) :
    Got l x p.2 ∧ p.2.command = c ∧ ∃ r, x.reply = some r ∧ r.kind = kind := by
  obtain ⟨hcmd, hc, hstrict, hwaits, hok, hkind⟩ := h
  refine ⟨⟨hx, hstrict, hwaits, hok, ?_⟩, hc, Option.map_eq_some_iff.mp hkind⟩
  rw [hcmd]
  exact hp

theorem Loop.Shows.got {l : Loop} {cx cy : Command} {kx ky : OpReplyKind} (h : l.Shows cx cy kx ky) :
    ∃ x y gx gy rx ry, (Got l x gx ∧ gx.command = cx ∧ x.reply = some rx ∧ rx.kind = kx) ∧
      (Got l y gy ∧ gy.command = cy ∧ y.reply = some ry ∧ ry.kind = ky) ∧ x.cmd.id < y.cmd.id ∧
      ∀ u ∈ l.wrote, ¬(x.cmd.id < u.1.id ∧ u.1.id < y.cmd.id) := by
  obtain ⟨x, hx, y, hy, ⟨p, hp, hxp⟩, ⟨q, hq, hyq⟩, hlt, hno⟩ := h
  obtain ⟨gotx, hcx, rx, hrx, hkx⟩ := hxp.got hx hp
  obtain ⟨goty, hcy, ry, hry, hky⟩ := hyq.got hy hq
  exact ⟨x, y, p.2, q.2, rx, ry, ⟨gotx, hcx, hrx, hkx⟩, ⟨goty, hcy, hry, hky⟩, hlt, hno⟩

def sampleCommands : List (Command × Bytes) :=
  [(openCommand, []), (setCommand, []), (getCommand, []), (scheduleCommand, [7]),
    (scheduleCommand, [8]), (clearCommand, [])]

theorem sampleCommands_spoken : ∀ c ∈ sampleCommands,
    Spoken c.1 ∧ ∀ seq, c.2.length = (c.1.issued seq).declares := by
  intro c hc
  unfold sampleCommands at hc
  simp only [List.mem_cons, List.not_mem_nil, or_false] at hc
  have hchannel : ∀ c : Command, c.channel = some 5 → c.verb ∈ ofChannel → ∃ i : Fin 10,
      c.channel = some i.val := fun c h _ => ⟨5, h⟩
  rcases hc with rfl | rfl | rfl | rfl | rfl | rfl
  · exact ⟨⟨rfl, by decide, by decide, hchannel _ rfl, by decide, by decide⟩, fun _ => rfl⟩
  · exact ⟨⟨rfl, by decide, by decide, hchannel _ rfl, by decide, by decide⟩, fun _ => rfl⟩
  · exact ⟨⟨rfl, by decide, by decide, hchannel _ rfl, by decide, by decide⟩, fun _ => rfl⟩
  · exact ⟨⟨rfl, by decide, by decide, hchannel _ rfl, by decide, by decide⟩, fun _ => rfl⟩
  · exact ⟨⟨rfl, by decide, by decide, hchannel _ rfl, by decide, by decide⟩, fun _ => rfl⟩
  · exact ⟨⟨rfl, by decide, by decide, hchannel _ rfl, by decide, by decide⟩, fun _ => rfl⟩

/-- They are answered: the channel is opened, `LOOPBACK` set and read, two messages scheduled, and
    both cleared. -/
theorem sampleCommands_run : ∃ l, LoopSteps answering sampleLoop l ∧ l.cut = false ∧
    l.issued.length = 6 ∧
    l.Shows setCommand getCommand .ok .config ∧
    l.Shows scheduleCommand scheduleCommand .periodic .periodic ∧
    l.Shows scheduleCommand clearCommand .periodic .ok := by
  have hrun : (sampleLoop.roundTrips answering sampleCommands).map (fun l =>
      decide (l.issued.length = 6 ∧ l.Shows setCommand getCommand .ok .config ∧
        l.Shows scheduleCommand scheduleCommand .periodic .periodic ∧
        l.Shows scheduleCommand clearCommand .periodic .ok)) = some true := by
    decide +kernel
  obtain ⟨l, hl, h⟩ := Option.map_eq_some_iff.mp hrun
  obtain ⟨hsteps, hcut⟩ := whole_steps (roundTrips_steps sampleCommands_spoken hl)
  exact ⟨l, hsteps, hcut, of_decide_eq_true h⟩

/-! ## 4. What the driver sees -/

section Runs

variable {e : Setup} {l0 l : Loop}

/-- **Every run of the driver and the cable is one command after the other**: what the cable has
    handled is, in the order the commands were issued in, a row from the books it had at the start to
    those it has now, and a numbered command that waited and was returned `OP_OK` was returned what
    the row says at its place. -/
theorem loop_linear (hp : e.Plain) (hinit : e.wire.initReply = .aro) (hans : e.Answerable)
    (h0 : LoopStart l0) (hrun : LoopSteps e l0 l) (hcut : l.cut = false)
    (hbound : l.issued.length < numberCount) :
    ∃ hist todo, Linear l0.cable.sim.books l hist todo := by
  obtain ⟨sent, rest, hist, todo, hsteps, hl⟩ := loop_linked hp hinit hans h0
    (whole_run hrun hcut) hbound
  have hm := matched_run h0.session hsteps (Nat.lt_of_le_of_lt (numbered_le l sent) hbound)
  exact ⟨hist, todo, hl.linear hm⟩

theorem loop_linear_sample : ∃ l, LoopSteps answering sampleLoop l ∧ l.issued.length = 6 ∧
    ∃ hist todo, Linear sampleLoop.cable.sim.books l hist todo := by
  obtain ⟨l, hsteps, hcut, hlen, -⟩ := sampleCommands_run
  exact ⟨l, hsteps, hlen, loop_linear answering_plain rfl answering_answers sampleLoop_start hsteps hcut
    (by rw [hlen]; decide)⟩

/-- **No id is given out twice**: of two commands that were returned the id of a filter, or of a
    periodic message, the later one was returned the greater id; for filters this is so unless a
    reset was written between. -/
theorem loop_ids (hp : e.Plain) (hinit : e.wire.initReply = .aro) (hans : e.Answerable)
    (h0 : LoopStart l0) (hrun : LoopSteps e l0 l) (hcut : l.cut = false)
    (hbound : l.issued.length < numberCount)
    {x y : Returned} {gx gy : Given} (hx : Got l x gx) (hy : Got l y gy) (hlt : x.cmd.id < y.cmd.id)
    {rx ry : OpReply} (hrx : x.reply = some rx) (hry : y.reply = some ry) (hid : GivesId rx.kind)
    (hkind : ry.kind = rx.kind)
    (hbetween : rx.kind = .filter → ∀ p ∈ l.wrote, x.cmd.id < p.1.id ∧ p.1.id < y.cmd.id →
      ¬p.2.Resets) : rx.a < ry.a := by
  obtain ⟨sent, rest, hist, todo, hsteps, hl⟩ := loop_linked hp hinit hans h0
    (whole_run hrun hcut) hbound
  have hm := matched_run h0.session hsteps (Nat.lt_of_le_of_lt (numbered_le l sent) hbound)
  obtain ⟨pre, mid, post, qx, qy, hrow, hqx, hqy, hlen, hmid⟩ := (hl.linear hm).pair hx hy hlt
  obtain rfl : matchedReply qx.val.reply = rx := Option.some.inj (hqx.symm.trans hrx)
  obtain rfl : matchedReply qy.val.reply = ry := Option.some.inj (hqy.symm.trans hry)
  have hzero : l0.cable.sim.books.counter qx.val.reply.kind = 0 := by
    unfold Books.counter
    split
    · exact Nat.le_zero.mp h0.ready.filterIds
    · exact Nat.le_zero.mp h0.ready.periodicIds
  have hfew : hist.length ≤ l.issued.length := by
    have h1 := hl.few
    rw [hl.wrote, List.length_append, List.length_map] at h1
    omega
  refine ids_apart hrow hid hkind (fun hf p hp => ?_) ?_
  · obtain ⟨q, hq, hpq, hbet⟩ := hmid p hp
    rw [← hpq]
    exact hbetween hf q hq hbet
  · rw [hzero]
    simp only [List.length_append, List.length_cons] at hlen ⊢
    have h3 : numberCount < 2 ^ 32 := by decide
    omega

theorem loop_ids_sample : ∃ l x y rx ry, LoopSteps answering sampleLoop l ∧ x ∈ l.returned ∧
    y ∈ l.returned ∧ x.reply = some rx ∧ y.reply = some ry ∧ rx.kind = .periodic ∧
    ry.kind = .periodic ∧ rx.a < ry.a := by
  obtain ⟨l, hsteps, hcut, hlen, -, hshows, -⟩ := sampleCommands_run
  obtain ⟨x, y, gx, gy, rx, ry, ⟨hx, -, hrx, hkx⟩, ⟨hy, -, hry, hky⟩, hlt, hno⟩ := hshows.got
  refine ⟨l, x, y, rx, ry, hsteps, hx.returned, hy.returned, hrx, hry, hkx, hky, ?_⟩
  exact loop_ids answering_plain rfl answering_answers sampleLoop_start hsteps hcut
    (by rw [hlen]; decide) hx hy hlt hrx hry (Or.inr hkx) (hky.trans hkx.symm)
    fun hf => absurd (hkx.symm.trans hf) (by decide)

/-- **A periodic message that was ended is never sent again**: where `atm` was returned the id of a
    message, and a later stop of that id, or a clear or close of its channel, or a reset was answered
    `aro`, no thread of the cable sends it in any further run, whatever commands, timers and threads
    come. -/
theorem loop_stopped (hp : e.Plain) (hinit : e.wire.initReply = .aro) (hans : e.Answerable)
    (h0 : LoopStart l0) (hrun : LoopSteps e l0 l) (hcut : l.cut = false)
    (hbound : l.issued.length < numberCount)
    {x y : Returned} {gx gy : Given} (hx : Got l x gx) (hy : Got l y gy) (hlt : x.cmd.id < y.cmd.id)
    {rx ry : OpReply} (hrx : x.reply = some rx) (hry : y.reply = some ry) (hkind : rx.kind = .periodic)
    {i : Fin 10} (hch : gx.command.channel = some i.val) (hends : gy.Ends i (rx.a.toNat : Int))
    (hok : ry.kind = .ok) (events : List Event) :
    ∀ z ∈ l.cable.sim.sends e events, z.1.pid ≠ (rx.a.toNat : Int) := by
  obtain ⟨sent, rest, hist, todo, hsteps, hl⟩ := loop_linked hp hinit hans h0
    (whole_run hrun hcut) hbound
  have hm := matched_run h0.session hsteps (Nat.lt_of_le_of_lt (numbered_le l sent) hbound)
  obtain ⟨pre, mid, post, qx, qy, hrow, hqx, hqy, hlen, -⟩ := (hl.linear hm).pair hx hy hlt
  obtain rfl : matchedReply qx.val.reply = rx := Option.some.inj (hqx.symm.trans hrx)
  obtain rfl : matchedReply qy.val.reply = ry := Option.some.inj (hqy.symm.trans hry)
  have hzero : l0.cable.sim.books.nextPeriodicId = 0 := Nat.le_zero.mp h0.ready.periodicIds
  have hbelow : l0.cable.sim.books.Below := by
    intro j c id hj hid
    obtain ⟨p, hp⟩ := exists_lookup hid
    exact ((h0.ready.sound.table.channel j c hj).periodic id p hp).2
  have hfew := hl.few
  have hgone := ended_gone hrow hbelow ?_ hkind hch hends hok
  · have hdead : l.cable.sim.table.Dead (qx.val.reply.a.toNat : Int) :=
      ⟨hgone.given, fun j c hj hin => hgone.only j c hj hin⟩
    exact dead_run hl.ready.sound hdead
  · rw [hl.wrote, List.length_append, List.length_map] at hfew
    simp only [List.length_append, List.length_cons] at hlen
    have h3 : numberCount < 2 ^ 32 := by decide
    omega

theorem loop_stopped_sample : ∃ l x rx, LoopSteps answering sampleLoop l ∧ x ∈ l.returned ∧
    x.reply = some rx ∧ rx.kind = .periodic ∧
    ∀ events, ∀ z ∈ l.cable.sim.sends answering events, z.1.pid ≠ (rx.a.toNat : Int) := by
  obtain ⟨l, hsteps, hcut, hlen, -, -, hshows⟩ := sampleCommands_run
  obtain ⟨x, y, gx, gy, rx, ry, ⟨hx, hcx, hrx, hkx⟩, ⟨hy, hcy, hry, hky⟩, hlt, -⟩ := hshows.got
  refine ⟨l, x, rx, hsteps, hx.returned, hrx, hkx, fun events => ?_⟩
  exact loop_stopped answering_plain rfl answering_answers sampleLoop_start hsteps hcut
    (by rw [hlen]; decide) hx hy hlt hrx hry hkx (i := 5) (by rw [hcx]; rfl)
    (Or.inr ⟨by rw [hcy]; rfl, Or.inr (Or.inl (by rw [hcy]; rfl))⟩) hky events

end Runs

end Openport.Simulator
