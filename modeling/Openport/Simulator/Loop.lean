/-
  File:      Openport/Simulator/Loop.lean
  Subject:   The driver's session and the simulated cable as one system, byte by byte:
             commands are written, the cable reads and answers, its timers and threads
             run, the driver's reader reads, waits end, all in any order.

  The driver's side is the one of `Openport/Device/Matching.lean`, whose functions
  are those `cmd_exchange` and `reader_main` run. A write that fails has sent
  nothing, everything, or the beginning, as `Carried` of `Openport/Api/Wire.lean` has
  it. Behind a beginning the cable takes the next line for its rest, so what is proved
  is about the runs with no such write: `Loop.cut` says whether there was one, and
  `whole_run` that without it every step is a `WholeStep`. `Linked` is their
  invariant: what is in flight to the cable are the commands it has not handled, what
  is in flight to the driver are records the cable put out.
-/
import Openport.Simulator.Replies

namespace Openport.Simulator

open Lib Lib.Decimal Lib.Framing

/-! ## 1. The system -/

/-- A command the cable handled, and the cable before and behind it. -/
structure Handling where
  heard : Heard
  before : Sim
  after : Sim

/-- `handle`, one command after the other. -/
def Sim.handlings (e : Setup) (s : Sim) : List Heard → Option (List Handling × Sim)
  | [] => some ([], s)
  | h :: hs =>
    (handle e s h.line h.payload).bind fun s' =>
      (s'.handlings e hs).map fun r => (⟨h, s, s'⟩ :: r.1, r.2)

/-- The driver's session, the cable, and the bytes between them. -/
structure Loop where
  dev : OpDevice
  issued : List Issued := []
  current : Option Issued := none
  returned : List Returned := []
  /-- the commands that were written, oldest first -/
  wrote : List (Issued × Given) := []
  /-- written, and not read by the cable yet -/
  toCable : Bytes := []
  cable : Cable := {}
  /-- the commands the cable handled, oldest first -/
  done : List Handling := []
  /-- how much of what the cable put out the driver has read -/
  heard : Nat := 0
  /-- a write failed that had sent a part of its command -/
  cut : Bool := false

/-- What the cable put out and the driver has not read. -/
def Loop.unheard (l : Loop) : Bytes := l.cable.sim.out.flatten.drop l.heard

/-- The driver's side, with the answers the cable has given. -/
def Loop.session (l : Loop) (sent : List (Issued × Record)) : Session :=
  { dev := l.dev, issued := l.issued, sent := sent, current := l.current, returned := l.returned }

/-- A command as the splitter must hear it. -/
def Given.heard (g : Given) : Heard := ⟨g.text, g.payload⟩

/-- A command is numbered, claims the slot, and is written. -/
def Loop.issuing (l : Loop) (a : Issued) (g : Given) (went : Bool) : Loop :=
  { l with
    dev := claimSlot (numberLine l.dev g.command.line).2.2 a.waits a.seq a.verb
    issued := a :: l.issued
    current := some a
    wrote := if went then l.wrote ++ [(a, g)] else l.wrote
    toCable := if went then l.toCable ++ (a.line ++ a.payload) else l.toCable }

/-- The same, and the write fails behind a part of the command. -/
def Loop.cutting (l : Loop) (a : Issued) (g : Given) (part : Bytes) : Loop :=
  { l.issuing a g false with toCable := l.toCable ++ part, cut := true }

/-- One step of the system, a write of which sends the whole command or nothing. -/
inductive WholeStep (e : Setup) : Loop → Loop → Prop where
  /-- `cmd_exchange` numbers its line, claims the slot and writes. -/
  | issue (l : Loop) (g : Given) (timeoutMs : UInt32) (waits went : Bool) (a : Issued) :
      l.current = none → l.dev.opened = true → l.dev.lost = false → g.Proper →
      g.command.line.length < opCmdMax →
      a = (l.session []).next g.command.line g.payload timeoutMs waits → g.seq = a.seq →
      WholeStep e l (l.issuing a g went)
  /-- The cable reads. -/
  | reads (l : Loop) (n : Nat) (c : Cable) (hs : List Handling) :
      l.cable.read e (l.toCable.take n) = some c →
      l.cable.sim.handlings e (serve l.cable.splitter (l.toCable.take n)).handled =
        some (hs, c.sim) →
      WholeStep e l { l with toCable := l.toCable.drop n, cable := c, done := l.done ++ hs }
  /-- A timer goes off in the cable, or a thread of it takes a turn. -/
  | due (l : Loop) (ev : Event) (s : Sim) : ev.isDue = true → l.cable.sim.step e ev = some s →
      WholeStep e l { l with cable := { l.cable with sim := s } }
  /-- The driver's reader reads. -/
  | hears (l : Loop) (n : Nat) : n ≤ 1024 → n ≤ l.unheard.length → l.dev.lost = false →
      WholeStep e l { l with dev := arrive l.dev (.read (l.unheard.take n)), heard := l.heard + n }
  /-- The device disappears. -/
  | gone (l : Loop) : WholeStep e l { l with dev := { l.dev with lost := true } }
  /-- The write failed, or the command does not wait. -/
  | drop (l : Loop) (a : Issued) (st : OpStatus) : l.current = some a → st ≠ .ok ∨ a.waits = false →
      WholeStep e l { l with
        dev := ({ l.dev with cmdWaiting := false }).logged (a.txn st st none)
        current := none
        returned := ⟨a, st, none⟩ :: l.returned }
  /-- The wait ends, by a reply or by its deadline. -/
  | collect (l : Loop) (a : Issued) : l.current = some a → a.waits = true →
      WholeStep e l { l with
        dev := (collect l.dev).2.2.logged (a.txn .ok (collect l.dev).1 (collect l.dev).2.1)
        current := none
        returned := ⟨a, (collect l.dev).1, (collect l.dev).2.1⟩ :: l.returned }

/-- One step of the system. -/
inductive LoopStep (e : Setup) : Loop → Loop → Prop where
  | whole {l l' : Loop} : WholeStep e l l' → LoopStep e l l'
  /-- `cmd_exchange` numbers its line and claims the slot, and the write fails on its way. -/
  | cut (l : Loop) (g : Given) (timeoutMs : UInt32) (waits : Bool) (a : Issued) (part : Bytes) :
      l.current = none → l.dev.opened = true → l.dev.lost = false → g.Proper →
      g.command.line.length < opCmdMax →
      a = (l.session []).next g.command.line g.payload timeoutMs waits → g.seq = a.seq →
      part <+: a.line ++ a.payload → part ≠ [] → part ≠ a.line ++ a.payload →
      LoopStep e l (l.cutting a g part)

/-- A command is numbered, claims the slot, and the transport takes `part` of it. -/
def Loop.sending (l : Loop) (a : Issued) (g : Given) (part : Bytes) : Loop :=
  if part = [] then l.issuing a g false
  else if part = a.line ++ a.payload then l.issuing a g true
  else l.cutting a g part

/-- Whatever the transport takes of a command is a step. -/
theorem sending_step {e : Setup} {l : Loop} {g : Given} {timeoutMs : UInt32} {waits : Bool}
    {a : Issued} {part : Bytes} (hcur : l.current = none) (hopen : l.dev.opened = true)
    (hlost : l.dev.lost = false) (hg : g.Proper) (hshort : g.command.line.length < opCmdMax)
    (ha : a = (l.session []).next g.command.line g.payload timeoutMs waits) (hseq : g.seq = a.seq)
    (hpart : part <+: a.line ++ a.payload) : LoopStep e l (l.sending a g part) := by
  unfold Loop.sending
  by_cases hnone : part = []
  · rw [if_pos hnone]
    exact .whole (.issue l g timeoutMs waits false a hcur hopen hlost hg hshort ha hseq)
  by_cases hall : part = a.line ++ a.payload
  · rw [if_neg hnone, if_pos hall]
    exact .whole (.issue l g timeoutMs waits true a hcur hopen hlost hg hshort ha hseq)
  · rw [if_neg hnone, if_neg hall]
    exact .cut l g timeoutMs waits a part hcur hopen hlost hg hshort ha hseq hpart hnone hall

/-- What the driver's side is left as does not depend on what the transport took. -/
theorem sending_same (l : Loop) (a : Issued) (g : Given) (part : Bytes) :
    (l.sending a g part).dev = (l.issuing a g true).dev ∧
      (l.sending a g part).current = some a ∧ (l.sending a g part).returned = l.returned := by
  unfold Loop.sending
  split
  · exact ⟨rfl, rfl, rfl⟩
  split
  · exact ⟨rfl, rfl, rfl⟩
  · exact ⟨rfl, rfl, rfl⟩

/-- Any number of steps. -/
abbrev LoopSteps (e : Setup) : Loop → Loop → Prop := Relation.ReflTransGen (LoopStep e)

/-- Any number of steps, no write of which was cut. -/
abbrev WholeSteps (e : Setup) : Loop → Loop → Prop := Relation.ReflTransGen (WholeStep e)

/-- Before the first command: nothing waits, nothing is in flight, the counter is at a number, and
    the cable has given out no id, as after power-up. -/
structure LoopStart (l : Loop) : Prop where
  number : 256 ≤ l.dev.seqNext.toNat
  waiting : l.dev.cmdWaiting = false
  accum : l.dev.accum = []
  issued : l.issued = []
  current : l.current = none
  returned : l.returned = []
  wrote : l.wrote = []
  toCable : l.toCable = []
  splitter : l.cable.splitter = {}
  ready : l.cable.sim.Ready 0
  out : l.cable.sim.out = []
  done : l.done = []
  heard : l.heard = 0

/-- A step that sends all or nothing leaves the mark as it is. -/
theorem WholeStep.cut {e : Setup} {l l' : Loop} (h : WholeStep e l l') : l'.cut = l.cut := by
  cases h with
  | issue | reads | due | hears | gone | drop | collect => rfl

/-- A run of whole steps is a run, and leaves the mark as it is. -/
theorem whole_steps {e : Setup} {l l' : Loop} (h : WholeSteps e l l') :
    LoopSteps e l l' ∧ l'.cut = l.cut := by
  induction h with
  | refl => exact ⟨.refl, rfl⟩
  | tail _ hstep ih => exact ⟨ih.1.tail (.whole hstep), hstep.cut.trans ih.2⟩

/-- **A run in which no write was cut is a run of whole steps.** -/
theorem whole_run {e : Setup} {l l' : Loop} (h : LoopSteps e l l') (hcut : l'.cut = false) :
    WholeSteps e l l' := by
  induction h with
  | refl => exact .refl
  | tail _ hstep ih =>
      cases hstep with
      | whole hstep => exact (ih (hstep.cut.symm.trans hcut)).tail hstep
      | cut => cases hcut

/-! ## 2. The splitter between two reads -/

theorem serveByte_handled (s : Splitter) (done : List Heard) (b : UInt8) :
    serveByte { s with handled := done ++ s.handled } b =
      { serveByte s b with handled := done ++ (serveByte s b).handled } := by
  unfold serveByte
  simp only
  split
  · split
    · rw [List.append_assoc]
    · rfl
  split
  · split
    · rw [List.append_assoc]
    · rfl
  split
  · rfl
  · rfl

/-- What was handled before makes no difference to the rest. -/
theorem serve_handled : ∀ (data : Bytes) (s : Splitter) (done : List Heard),
    serve { s with handled := done ++ s.handled } data =
      { serve s data with handled := done ++ (serve s data).handled }
  | [], _, _ => rfl
  | b :: data, s, done => by
      show serve (serveByte { s with handled := done ++ s.handled } b) data = _
      rw [serveByte_handled]
      exact serve_handled data (serveByte s b) done

theorem serve_append (s : Splitter) (data more : Bytes) :
    serve s (data ++ more) = serve (serve s data) more := List.foldl_append ..

/-- **The bytes that were not read yet hold the commands that were not handled yet.** -/
theorem serve_cut {s : Splitter} {data more : Bytes} {pending : List Heard}
    (h : serve s (data ++ more) = { handled := pending }) : ∃ rest,
      serve { serve s data with handled := [] } more = { handled := rest } ∧
      pending = (serve s data).handled ++ rest := by
  have hs : ({ serve s data with handled := [] } : Splitter).handled = [] := rfl
  have hcut := serve_handled more { serve s data with handled := [] } (serve s data).handled
  rw [hs, List.append_nil] at hcut
  rw [serve_append] at h
  rw [show ({ ({ serve s data with handled := [] } : Splitter) with
    handled := (serve s data).handled } : Splitter) = serve s data from rfl, h] at hcut
  refine ⟨(serve { serve s data with handled := [] } more).handled, ?_, ?_⟩
  · generalize serve { serve s data with handled := [] } more = t at hcut
    obtain ⟨line, pend, want, handled⟩ := t
    cases hcut
    rfl
  · exact congrArg Splitter.handled hcut

/-! ## 3. What a command is in flight -/

theorem known_printable : ∀ p ∈ knownArgs, isPrintable p.1 = true := by decide

theorem Given.Proper.printable {g : Given} (h : g.Proper) : isPrintable g.command.verb = true := by
  rcases h.spoken with hc | hc
  · exact known_printable _ (mem_of_lookup_eq hc.known)
  · rw [hc]
    rfl

/-- **A command's bytes go through the splitter as that command.** -/
theorem Given.Proper.serve {g : Given} (h : g.Proper) (pending : List Heard) :
    serve { handled := pending } ((g.command.issued g.seq).line ++ g.payload) =
      { handled := pending ++ [g.heard] } :=
  serve_command (by rw [Command.issued_verb]; exact h.printable) h.declared pending

/-- The line `cmd_exchange` writes, and its number. -/
theorem next_line {s : Session} {g : Given} {timeoutMs : UInt32} {waits : Bool} {a : Issued}
    (hg : g.Proper) (hshort : g.command.line.length < opCmdMax)
    (ha : a = s.next g.command.line g.payload timeoutMs waits) :
    a.line = (g.command.issued a.seq).line ∧ a.payload = g.payload ∧
      (a.seq = 0 ↔ g.command.verb = 0x69 ∨ s.dev.seqNext = 0) := by
  have hv : g.command.verb ≠ 0 := by
    intro e
    have := hg.printable
    rw [e] at this
    cases this
  have hnum : opCmdIsNumbered g.command.line = (g.command.verb != 0 && g.command.verb != 0x69) := rfl
  have hne := numberLine_ne_nil s.dev hshort
  have hline : a.line = (numberLine s.dev g.command.line).1 := congrArg Issued.line ha
  have hseq : a.seq = (numberLine s.dev g.command.line).2.1 := congrArg Issued.seq ha
  change (numberLine s.dev g.command.line).1 ≠ [] at hne
  refine ⟨?_, congrArg Issued.payload ha, ?_⟩
  · rw [hline, hseq]
    unfold Command.issued
    by_cases hi : g.command.verb = 0x69
    · rw [if_pos hi]
      unfold numberLine
      rw [hnum, hi]
      rfl
    · have hyes : opCmdIsNumbered g.command.line = true := by
        rw [hnum]
        simp [hv, hi]
      unfold numberLine at hne ⊢
      rw [hyes] at hne ⊢
      rw [if_neg hi]
      exact opCmdNumber_line g.command hne
  · rw [hseq]
    by_cases hi : g.command.verb = 0x69
    · unfold numberLine
      rw [hnum, hi]
      exact ⟨fun _ => Or.inl rfl, fun _ => rfl⟩
    · have hyes : opCmdIsNumbered g.command.line = true := by
        rw [hnum]
        simp [hv, hi]
      unfold numberLine
      rw [hyes]
      exact ⟨fun h => Or.inr h, fun h => h.elim (fun h => absurd h hi) id⟩

end Openport.Simulator
