/-
  File:      Openport/Stack/Joint.lean
  Subject:   The entry points over the simulated cable: a run of calls and a run of the
             system of `Openport/Simulator/Loop.lean` that made the same transactions.

  The calls see the cable through their transactions only, and both runs log them:
  `Booked` says what a run of the system has logged, `Joint` that the logs agree. So
  what a transaction was answered is what the cable's row says of its command, and what
  the row has behind it was asked behind it (`Rowed.entry`).
-/
import Openport.Api.Schedule
import Openport.Api.Wire
import Openport.Simulator.Linear

namespace Openport

open Lib Lib.Decimal Lib.Rows Simulator

/-! ## 1. What a run of the system has logged -/

/-- The transaction of a command that was returned. -/
structure TxnOf (t : Txn) (x : Returned) : Prop where
  line : t.line = x.cmd.line
  payload : t.payload = x.cmd.payload
  seq : t.seq = x.cmd.seq
  waited : t.waited = x.cmd.waits
  result : t.result = x.status
  reply : t.reply = x.reply

theorem txn_of (a : Issued) (written result : OpStatus) (reply : Option OpReply) :
    TxnOf (a.txn written result reply) ⟨a, result, reply⟩ := ⟨rfl, rfl, rfl, rfl, rfl, rfl⟩

/-- **The log of a run**: one transaction for each command that was returned, newest first. Every
    command that was issued is the one that waits or was returned, and is one of the driver's; its
    id says how many were issued before. -/
structure Booked (l0 l : Loop) (txns : List Txn) : Prop where
  log : l.dev.log = txns.map Event.txn ++ l0.dev.log
  each : List.Forall₂ TxnOf txns l.returned
  issued : l.issued = l.current.toList ++ l.returned.map (·.cmd)
  ids : ∀ newer a older, l.issued = newer ++ a :: older → a.id = older.length
  given : ∀ a ∈ l.issued, ∃ g, Sent l.issued (a, g)

section Runs

variable {e : Setup} {l0 l : Loop} {txns : List Txn}

theorem booked_start (h : LoopStart l) : Booked l l [] := by
  refine ⟨rfl, ?_, ?_, fun newer a older hi => ?_, fun a ha => ?_⟩
  · rw [h.returned]
    exact .nil
  · rw [h.issued, h.current, h.returned]
    rfl
  · rw [h.issued] at hi
    exact absurd hi.symm (List.append_ne_nil_of_right_ne_nil newer (List.cons_ne_nil a older))
  · rw [h.issued] at ha
    exact absurd ha List.not_mem_nil

/-- A step that touches neither the log nor the session. -/
theorem Booked.still (h : Booked l0 l txns) {l' : Loop} (hlog : l'.dev.log = l.dev.log)
    (hr : l'.returned = l.returned) (hi : l'.issued = l.issued) (hc : l'.current = l.current) :
    Booked l0 l' txns := by
  obtain ⟨h1, h2, h3, h4, h5⟩ := h
  refine ⟨hlog.trans h1, ?_, ?_, ?_, ?_⟩
  · rw [hr]
    exact h2
  · rw [hi, hc, hr]
    exact h3
  · rw [hi]
    exact h4
  · rw [hi]
    exact h5

/-- A command that waited is returned. -/
theorem Booked.ended (h : Booked l0 l txns) {a : Issued} (hcur : l.current = some a)
    (written result : OpStatus) (reply : Option OpReply) {d : OpDevice} (hlog : d.log = l.dev.log) :
    Booked l0 { l with
      dev := d.logged (a.txn written result reply)
      current := none
      returned := ⟨a, result, reply⟩ :: l.returned } (a.txn written result reply :: txns) := by
  refine ⟨?_, .cons (txn_of a written result reply) h.each, ?_, h.ids, h.given⟩
  · show Event.txn (a.txn written result reply) :: d.log = _
    rw [hlog, h.log]
    rfl
  · show l.issued = a :: l.returned.map (·.cmd)
    rw [h.issued, hcur]
    rfl

/-- **One step of the system adds at most one transaction.** -/
theorem booked_step {l' : Loop} (h : Booked l0 l txns) (hnext : l.dev.seqNext ≠ 0)
    (hstep : WholeStep e l l') : ∃ more, Booked l0 l' (more ++ txns) := by
  cases hstep with
  | issue g timeoutMs waits went a hcur hopen hlost hg hshort ha hseq =>
      have hid : a.id = l.issued.length := congrArg Issued.id ha
      have hmono : ∀ b ∈ l.issued, b ∈ a :: l.issued := fun b hb => List.mem_cons_of_mem a hb
      refine ⟨[], ?_, h.each, ?_, ?_, ?_⟩
      · exact (numberLine_kept l.dev g.command.line).2.trans h.log
      · show a :: l.issued = [a] ++ l.returned.map (·.cmd)
        rw [h.issued, hcur]
        rfl
      · intro newer b older hi
        cases newer with
        | nil =>
            obtain ⟨rfl, rfl⟩ := List.cons.inj hi
            exact hid
        | cons c newer => exact h.ids newer b older (List.cons.inj hi).2
      · intro b hb
        rcases List.mem_cons.mp hb with rfl | hb
        · exact ⟨g, sent_new hg hshort ha hseq hnext⟩
        · obtain ⟨g', hg'⟩ := h.given b hb
          exact ⟨g', hg'.mono hmono⟩
  | reads n c hs hread hhs => exact ⟨[], h.still rfl rfl rfl rfl⟩
  | due ev s hev hstep => exact ⟨[], h.still rfl rfl rfl rfl⟩
  | hears n hn hread hlost =>
      exact ⟨[], h.still (arrive_steady l.dev _).log rfl rfl rfl⟩
  | gone => exact ⟨[], h.still rfl rfl rfl rfl⟩
  | drop a st hcur hdrop =>
      exact ⟨[_], h.ended hcur st st none (d := { l.dev with cmdWaiting := false }) rfl⟩
  | collect a hcur hwaits =>
      exact ⟨[_], h.ended hcur .ok _ _ (collect_spec l.dev).1.log⟩

/-- **And a run has logged what it returned.** -/
theorem booked_run (hp : e.Plain) (hinit : e.wire.initReply = .aro) (hans : e.Answerable)
    (h0 : LoopStart l0) (hrun : WholeSteps e l0 l) (hbound : l.issued.length < numberCount) :
    ∃ txns, Booked l0 l txns := by
  induction hrun with
  | refl => exact ⟨[], booked_start h0⟩
  | @tail l1 l2 hsteps hstep ih =>
      have hlt := Nat.lt_of_le_of_lt (issued_step hstep) hbound
      obtain ⟨txns, h⟩ := ih hlt
      have hnext := reached_number hp hinit hans h0 hsteps hlt
      obtain ⟨more, h'⟩ := booked_step h hnext hstep
      exact ⟨more ++ txns, h'⟩

end Runs

/-! ## 2. Calls and the system -/

/-- **A run of calls over the cable**: since the device was `d₀` the calls have made the transactions
    `txns`, newest first, and so has a run of the system from `l0` to `l`, in which no write was cut
    and no command waits any more. The calls' log has nothing else, so none of them opens a session. -/
structure Joint (e : Setup) (d₀ d : OpDevice) (l0 l : Loop) (txns : List Txn) : Prop where
  asked : d.log = txns.map Event.txn ++ d₀.log
  start : LoopStart l0
  run : LoopSteps e l0 l
  uncut : l.cut = false
  logged : l.dev.log = txns.map Event.txn ++ l0.dev.log
  idle : l.current = none
  bound : l.issued.length < numberCount

/-- The row of the run, and its books. -/
structure Rowed (l0 l : Loop) (txns : List Txn) (hist : History) : Prop where
  linear : ∃ todo, Linear l0.cable.sim.books l hist todo
  booked : Booked l0 l txns
  idle : l.current = none
  few : hist.length ≤ l.issued.length

theorem Joint.rowed {e : Setup} {d₀ d : OpDevice} {l0 l : Loop} {txns : List Txn}
    (h : Joint e d₀ d l0 l txns) (hp : e.Plain) (hinit : e.wire.initReply = .aro)
    (hans : e.Answerable) : ∃ hist, Rowed l0 l txns hist := by
  have hrun := whole_run h.run h.uncut
  obtain ⟨sent, rest, hist, todo, hsteps, hl⟩ := loop_linked hp hinit hans h.start hrun h.bound
  have hm := matched_run h.start.session hsteps (Nat.lt_of_le_of_lt (numbered_le l sent) h.bound)
  obtain ⟨us, hus⟩ := booked_run hp hinit hans h.start hrun h.bound
  have hsame : us.map Event.txn = txns.map Event.txn :=
    List.append_cancel_right (hus.log.symm.trans h.logged)
  obtain rfl : us = txns := List.map_injective_iff.mpr (fun _ _ e => Event.txn.inj e) hsame
  refine ⟨hist, ⟨todo, hl.linear hm⟩, hus, h.idle, ?_⟩
  have hfew := hl.few
  rw [hl.wrote, List.length_append, List.length_map] at hfew
  omega

/-- The command of a transaction. -/
def Txn.Is (t : Txn) (c : Command) : Prop := t.command = some (c.issued t.seq)

theorem issued_inj {c c' : Command} {seq : UInt32} (h : c.issued seq = c'.issued seq) : c = c' := by
  have hv : c.verb = c'.verb := by
    rw [← Command.issued_verb c seq, h, Command.issued_verb]
  unfold Command.issued at h
  by_cases hi : c.verb = 0x69
  · rw [if_pos hi, if_pos (hv ▸ hi)] at h
    exact h
  · rw [if_neg hi, if_neg (hv ▸ hi)] at h
    obtain ⟨v, ch, args⟩ := c
    obtain ⟨v', ch', args'⟩ := c'
    obtain ⟨h1, h2, h3⟩ := Command.mk.inj h
    have hv' : v = v' := h1
    have hch : ch = ch' := h2
    have hargs : args = args' := List.append_cancel_right h3
    rw [hv', hch, hargs]

/-- A transaction has one command. -/
theorem Txn.Is.inj {t : Txn} {c c' : Command} (h : t.Is c) (h' : t.Is c') : c = c' :=
  issued_inj (Option.some.inj (h.symm.trans h'))

theorem Ask.Sent.is {a : Ask} {t : Txn} (h : a.Sent t) : t.Is a.command := h.command

/-- The command of a transaction is the one that was issued. -/
theorem TxnOf.is {t : Txn} {x : Returned} {issued : List Issued} {g : Given} (h : TxnOf t x)
    (hg : Sent issued (x.cmd, g)) : t.Is g.command ∧ g.payload = t.payload ∧ g.seq = t.seq := by
  have hseq : g.seq = t.seq := hg.seq.trans h.seq.symm
  refine ⟨Ask.Sent.command (a := ⟨g.command, g.payload⟩) ⟨?_, ?_⟩, ?_, hseq⟩
  · rw [h.line, hg.line, hseq]
  · rw [h.payload, hg.payload]
  · rw [h.payload, hg.payload]

/-- Entries of two lists that stand against each other. -/
theorem forall₂_cut {α β : Type} {R : α → β → Prop} : ∀ {as : List α} {x : α} {bs : List α} {ys : List β},
    List.Forall₂ R (as ++ x :: bs) ys → ∃ cs y ds, ys = cs ++ y :: ds ∧ R x y ∧ ds.length = bs.length
  | [], _, _, _, h => by
      cases h with
      | cons hx hrest => exact ⟨[], _, _, rfl, hx, hrest.length_eq.symm⟩
  | _ :: as, _, _, _, h => by
      cases h with
      | cons _ hrest =>
          obtain ⟨cs, y, ds, rfl, hr, hlen⟩ := forall₂_cut hrest
          exact ⟨_ :: cs, y, ds, rfl, hr, hlen⟩

/-- A transaction that was waited for and answered, and whose command is no init and no `ati`. -/
structure Txn.Answers (t : Txn) (c : Command) (r : OpReply) : Prop where
  is : t.Is c
  plain : c.verb ≠ 0x79 ∧ c.verb ≠ 0x77 ∧ c.verb ≠ 0x69
  waited : t.waited = true
  result : t.result = .ok
  reply : t.reply = some r

section Row

variable {l0 l : Loop} {txns : List Txn} {hist : History}

theorem Rowed.issued (h : Rowed l0 l txns hist) : l.issued = l.returned.map (·.cmd) := by
  rw [h.booked.issued, h.idle]
  rfl

/-- **Every command of the row is a transaction's**: the one with as many before it as its id. -/
theorem Rowed.place (h : Rowed l0 l txns hist) {p : (Issued × Given) × WireRecord} (hp : p ∈ hist) :
    ∃ newer u older, txns = newer ++ u :: older ∧ older.length = p.1.1.id ∧
      u.Is p.1.2.command ∧ p.1.2.payload = u.payload := by
  obtain ⟨todo, hlin⟩ := h.linear
  have hsent := hlin.each _ (hlin.written hp)
  obtain ⟨new, old, hcut⟩ := List.append_of_mem hsent.issued
  have hid := h.booked.ids new _ old hcut
  rw [h.issued] at hcut
  obtain ⟨ys1, ys, hys, -, hold⟩ := List.map_eq_append_iff.mp hcut
  obtain ⟨y, ys2, rfl, hcmd, hold⟩ := List.map_eq_cons_iff.mp hold
  have heach := List.Forall₂.flip h.booked.each
  rw [hys] at heach
  obtain ⟨newer, u, older, rfl, hu, hlen⟩ := forall₂_cut heach
  refine ⟨newer, u, older, rfl, ?_, ?_⟩
  · rw [hid, hlen, ← hold, List.length_map]
  · have hu' : TxnOf u y := hu
    have hsent' : Sent l.issued (y.cmd, p.1.2) := hcmd ▸ hsent
    exact ⟨(hu'.is hsent').1, (hu'.is hsent').2.1⟩

/-- **A transaction that was waited for and returned `OP_OK` is in the row**, and was answered what
    the row says. -/
theorem Rowed.found (h : Rowed l0 l txns hist) {newer older : List Txn} {t : Txn}
    (htxns : txns = newer ++ t :: older) {c : Command} (hc : t.Is c)
    (hplain : c.verb ≠ 0x79 ∧ c.verb ≠ 0x77 ∧ c.verb ≠ 0x69) (hwaited : t.waited = true)
    (hok : t.result = .ok) : ∃ p ∈ hist, p.1.1.id = older.length ∧ p.1.2.command = c ∧
      t.reply = some (matchedReply p.2.val.reply) := by
  obtain ⟨todo, hlin⟩ := h.linear
  have heach := h.booked.each
  rw [htxns] at heach
  obtain ⟨ys1, x, ys2, hys, hx, hlen⟩ := forall₂_cut heach
  have hcut : l.issued = ys1.map (·.cmd) ++ x.cmd :: ys2.map (·.cmd) := by
    rw [h.issued, hys, List.map_append, List.map_cons]
  have hmem : x.cmd ∈ l.issued := by
    rw [hcut]
    exact List.mem_append_right _ List.mem_cons_self
  obtain ⟨g, hg⟩ := h.booked.given x.cmd hmem
  obtain rfl : g.command = c := (hx.is hg).1.inj hc
  have hverb : x.cmd.verb = g.command.verb := by
    unfold Issued.verb
    rw [hg.line]
    exact Command.issued_verb _ _
  have hstrict : x.cmd.Strict := by
    refine ⟨hg.numbered fun e => hplain.2.2 (congrArg Command.verb e), ?_, ?_⟩
    · rw [hverb]
      exact hplain.1
    · rw [hverb]
      exact hplain.2.1
  have hxin : x ∈ l.returned := by
    rw [hys]
    exact List.mem_append_right _ List.mem_cons_self
  obtain ⟨g', q, hin, hreply⟩ := hlin.returned x hxin hstrict (hx.waited.symm.trans hwaited)
    (hx.result.symm.trans hok)
  have hg' : Sent l.issued (x.cmd, g') := hlin.each _ (hlin.written hin)
  refine ⟨_, hin, ?_, ?_, ?_⟩
  · rw [h.booked.ids _ _ _ hcut, List.length_map, hlen]
  · exact (hx.is hg').1.inj (hx.is hg).1
  · exact hx.reply.trans hreply

/-- So is one that was answered. -/
theorem Rowed.entry (h : Rowed l0 l txns hist) {newer older : List Txn} {t : Txn}
    (htxns : txns = newer ++ t :: older) {c : Command} {r : OpReply} (ht : t.Answers c r) :
    ∃ p ∈ hist, p.1.1.id = older.length ∧ p.1.2.command = c ∧ r = matchedReply p.2.val.reply := by
  obtain ⟨p, hp, hid, hc, hreply⟩ := h.found htxns ht.is ht.plain ht.waited ht.result
  exact ⟨p, hp, hid, hc, Option.some.inj (ht.reply.symm.trans hreply)⟩

/-- What is behind a command of the row was asked behind it. -/
theorem Rowed.behind (h : Rowed l0 l txns hist) {newer older : List Txn} {t : Txn}
    (htxns : txns = newer ++ t :: older) {p : (Issued × Given) × WireRecord} (hp : p ∈ hist)
    (hid : older.length < p.1.1.id) : ∃ u ∈ newer, u.Is p.1.2.command := by
  obtain ⟨newer', u, older', hcut, hlen, hu, -⟩ := h.place hp
  refine ⟨u, ?_, hu⟩
  refine mem_between (c := []) (d := t :: older) (hcut.symm.trans htxns) ?_ ?_
  · rw [List.length_cons, hlen]
    exact hid
  · rw [← htxns, hcut, List.length_append, List.length_cons]
    omega

variable {P : Books → Prop} {G : Command → Prop}

/-- **What an answered transaction brought about, and the later ones keep, is so on the cable.** -/
theorem Rowed.since (h : Rowed l0 l txns hist) {newer older : List Txn} {t : Txn}
    (htxns : txns = newer ++ t :: older) {c : Command} {r : OpReply} (ht : t.Answers c r)
    (hnow : ∀ b g q b', Specified b g q b' → g.command = c → r = matchedReply q.val.reply → P b')
    (hkeep : ∀ b g q b', Specified b g q b' → G g.command → P b → P b')
    (hnewer : ∀ u ∈ newer, ∀ c, u.Is c → G c) : P l.cable.sim.books := by
  obtain ⟨todo, hlin⟩ := h.linear
  obtain ⟨p, hp, hid, hc, hr⟩ := h.entry htxns ht
  obtain ⟨b, b', post, hspec, hpost, hlater⟩ := hlin.behind hp
  refine hpost.keeps (G := fun l => G l.1.command) (fun b l b' => hkeep b l.1 l.2 b') ?_
    (hnow b p.1.2 p.2 b' hspec hc hr)
  intro z hz
  obtain ⟨q, hq, rfl, hlt⟩ := hlater z hz
  obtain ⟨u, hu, his⟩ := h.behind htxns hq (hid ▸ hlt)
  exact hnewer u hu _ his

end Row

/-! ## 3. A sample -/

/-- The driver over the sample cable, its session open. -/
def stackDriver : Driver := { dev := sampleLoop.dev }

/-- Calls that made the transactions of these commands make a joint run with the system that hands
    over one after the other. -/
theorem joint_roundTrips {d : OpDevice} {cs : List (Command × Bytes)}
    (hcs : ∀ c ∈ cs, Spoken c.1 ∧ ∀ seq, c.2.length = (c.1.issued seq).declares)
    (h : (sampleLoop.roundTrips answering cs).map (fun l =>
      decide (d.log = (d.log.filterMap Event.written).map Event.txn ∧ l.dev.log = d.log ∧
        l.current.isNone = true ∧ l.issued.length < numberCount)) = some true) :
    ∃ l, Joint answering stackDriver.dev d sampleLoop l (d.log.filterMap Event.written) := by
  obtain ⟨l, hl, hall⟩ := Option.map_eq_some_iff.mp h
  obtain ⟨htxns, hlog, hidle, hbound⟩ := of_decide_eq_true hall
  have hasked : d.log = (d.log.filterMap Event.written).map Event.txn ++ stackDriver.dev.log := by
    rw [show stackDriver.dev.log = [] from rfl, List.append_nil]
    exact htxns
  obtain ⟨hsteps, hcut⟩ := whole_steps (roundTrips_steps hcs hl)
  exact ⟨l, hasked, sampleLoop_start, hsteps, hcut, hlog.trans hasked,
    Option.isNone_iff_eq_none.mp hidle, hbound⟩

/-- So do calls that made those of the first sample commands. -/
theorem joint_sample {d : OpDevice} {n : Nat}
    (h : (sampleLoop.roundTrips answering (sampleCommands.take n)).map (fun l =>
      decide (d.log = (d.log.filterMap Event.written).map Event.txn ∧ l.dev.log = d.log ∧
        l.current.isNone = true ∧ l.issued.length < numberCount)) = some true) :
    ∃ l txns, Joint answering stackDriver.dev d sampleLoop l txns := by
  obtain ⟨l, hj⟩ := joint_roundTrips
    (fun c hc => sampleCommands_spoken c (List.mem_of_mem_take hc)) h
  exact ⟨l, _, hj⟩

end Openport
