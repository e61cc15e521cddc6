/-
  File:      Openport/Api/Inits.lean
  Subject:   Several threads in `ioctl_init`, each on its own channel: what a call
             copies out once its command has returned.

  `op_device_cmd` gives a caller its reply, and the reply's data points into the
  device's storage. The copy is made later, under no lock, so another thread's
  command may have run in between. `inits_own` says what such a command must not
  bring for every caller to get its own bytes; nothing in the source keeps it from
  bringing it (`inits_mixed`).
-/
import Openport.Device.Served
import Openport.Api.Ending

namespace Openport

open Lib.Ring

/-! ## 1. The calls, in two steps -/

/-- The arguments of one `ioctl_init`. -/
structure InitCall where
  fiveBaud : Bool
  input : IoctlIn := {}
  output : IoctlOut := {}

/-- A call whose command has returned: the reply on its stack, whether the reply's data points
    elsewhere than into `reply_data`, and the bytes of the reply matched to its command. -/
structure Holding where
  call : InitCall
  reply : OpReply
  stray : Bool
  own : Bytes

/-- What a call wrote, and what it would have of its own bytes. -/
structure Copied where
  result : IoctlResult
  own : IoctlResult

/-- The device, the calls that have still to copy, and what those that returned `STATUS_NOERROR`
    delivered. -/
structure Inits (ι : Type) where
  dev : OpDevice
  holds : ι → Option Holding := fun _ => none
  copied : List Copied := []

/-- What can happen next. Where a reply's data points elsewhere, the bytes that are there when it
    is copied are an argument. -/
inductive InitEvent (ι : Type) where
  /-- the reader runs, with no command under way -/
  | heard (as : List Arrival)
  /-- a thread calls `ioctl_init`, up to the return of its command -/
  | command (t : ι) (c : InitCall) (x : Exchange)
  /-- it copies, and its call returns -/
  | copy (t : ι) (elsewhere : Mem UInt8)

section Steps

variable {ι : Type} [DecidableEq ι] (chan : ι → Fin 10)

/-- `ioctl_init` up to the return of `simple_cmd` and the check of the reply. -/
def Inits.command (s : Inits ι) (t : ι) (c : InitCall) (x : Exchange) : Inits ι :=
  match initCommand (chan t) c.fiveBaud c.input c.output with
  | .error _ => s
  | .ok (line, payload) =>
    if line = [] then s
    else
      let r := simpleCmd x s.dev line payload 5000
      let reply := r.2.1.getD .incomplete
      if r.1 ≠ statusNoerror ∨ reply.kind ≠ .init ∨ reply.bytes = [] then { s with dev := r.2.2 }
      else
        let n := (x.served s.dev line payload).foldl Noted.note {}
        { s with dev := r.2.2
                 holds := fun u => if u = t then some ⟨c, reply, n.stray, n.own⟩ else s.holds u }

/-- The copy, and the return. -/
def Inits.copy (s : Inits ι) (t : ι) (elsewhere : Mem UInt8) : Inits ι :=
  match s.holds t with
  | none => s
  | some h =>
    let data := cells (if h.stray then elsewhere else s.dev.replyData) 0 h.reply.bytes.length
    let result := initResult (s.dev.ch (chan t)) h.call.fiveBaud h.call.output
    { s with holds := fun u => if u = t then none else s.holds u
             copied := ⟨result data, result h.own⟩ :: s.copied }

/-- One step. A thread is in one call at a time, and its channel is open. -/
def initStep (s : Inits ι) : InitEvent ι → Inits ι
  | .heard as => { s with dev := arrivals s.dev as }
  | .command t c x =>
    if (s.dev.ch (chan t)).isOpen ∧ (s.holds t).isNone then s.command chan t c x else s
  | .copy t elsewhere => s.copy chan t elsewhere

def initRun (s : Inits ι) (es : List (InitEvent ι)) : Inits ι := es.foldl (initStep chan) s

end Steps

/-! ## 2. The condition -/

section State

variable {ι : Type} (s : Inits ι)

/-- The bytes some call has still to copy. -/
def Inits.Lent (b : Bytes) : Prop := ∃ t h, s.holds t = some h ∧ h.own = b

/-- Before the first call: no command is under way. -/
structure Inits.Fresh : Prop where
  cmdWaiting : s.dev.cmdWaiting = false
  holds : ∀ t, s.holds t = none
  copied : s.copied = []

/-- Every call that returned `STATUS_NOERROR` delivered the bytes of its own reply. -/
def Inits.AllOwn : Prop := ∀ p ∈ s.copied, p.result = p.own

/-- The bytes of a call that has still to copy are where its reply's data points. -/
structure Inits.Sound : Prop where
  cmdWaiting : s.dev.cmdWaiting = false
  held : ∀ t h, s.holds t = some h → h.stray = false ∧ h.reply.bytes = h.own ∧
    cells s.dev.replyData 0 h.own.length = h.own
  copied : s.AllOwn

variable {s}

theorem Inits.Fresh.sound (h : s.Fresh) : s.Sound := by
  refine ⟨h.cmdWaiting, ?_, ?_⟩
  · intro t x hx
    rw [h.holds t] at hx
    cases hx
  · intro p hp
    rw [h.copied] at hp
    cases hp

theorem Inits.Sound.lent (h : s.Sound) (b : Bytes) (hb : s.Lent b) :
    cells s.dev.replyData 0 b.length = b := by
  obtain ⟨t, x, hx, rfl⟩ := hb
  exact (h.held t x hx).2.2

end State

section Runs

variable {ι : Type} [DecidableEq ι] (chan : ι → Fin 10)

/-- What is handed on to a command leaves alone the reply it was given, and the bytes that other
    calls have still to copy. -/
def EventMeets (s : Inits ι) : InitEvent ι → Prop
  | .command t c x => ∀ line payload,
      initCommand (chan t) c.fiveBaud c.input c.output = .ok (line, payload) →
      ∀ p ∈ x.served s.dev line payload, LeavesAlone s.Lent p.1 p.2
  | _ => True

def RunMeets : Inits ι → List (InitEvent ι) → Prop
  | _, [] => True
  | s, e :: es => EventMeets chan s e ∧ RunMeets (initStep chan s e) es

/-! ## 3. What a step keeps -/

/-- What a command of `ioctl_init` leaves of the slot. -/
theorem simpleCmd_slot (x : Exchange) {d : OpDevice} (line payload : Bytes) (timeoutMs : UInt32)
    (h : d.cmdWaiting = false) {d0 : OpDevice}
    (h0 : arrivals (x.waiting d line) (x.awaited d line payload) = d0) :
    (simpleCmd x d line payload timeoutMs).2.2.replyData = d0.replyData ∧
      (simpleCmd x d line payload timeoutMs).2.2.cmdWaiting = false ∧
      ((simpleCmd x d line payload timeoutMs).1 = statusNoerror → d0.replyValid = true ∧
        (simpleCmd x d line payload timeoutMs).2.1 = some d0.reply) := by
  have hslot := cmdExchange_slot x line payload timeoutMs h
  rw [h0] at hslot
  rw [simpleCmd_dev]
  refine ⟨hslot.replyData, hslot.cmdWaiting, ?_⟩
  intro hok
  obtain ⟨t, reply, hran, -, hreply, -, hgiven⟩ := simpleCmd_ok hok
  obtain ⟨hv, he⟩ := hslot.reply reply (hran.reply.symm.trans hreply)
  exact ⟨hv, hgiven.trans (congrArg some he.symm)⟩

section Step

variable {chan} {s : Inits ι} (h : s.Sound)
include h

theorem Inits.Sound.command {t : ι} {c : InitCall} {x : Exchange}
    (hm : EventMeets chan s (.command t c x)) : (s.command chan t c x).Sound := by
  unfold Inits.command
  cases hcmd : initCommand (chan t) c.fiveBaud c.input c.output with
  | error code => exact h
  | ok lp =>
      obtain ⟨line, payload⟩ := lp
      simp only
      by_cases hl : line = []
      · rw [if_pos hl]
        exact h
      rw [if_neg hl]
      have hserves := cmdExchange_serves x line payload h.cmdWaiting h.lent (hm line payload hcmd)
      generalize h0 : arrivals (x.waiting s.dev line) (x.awaited s.dev line payload) = d0 at hserves
      generalize hn : (x.served s.dev line payload).foldl Noted.note {} = n at hserves
      obtain ⟨hdata, hwait, hgiven⟩ := simpleCmd_slot x line payload 5000 h.cmdWaiting h0
      -- the bytes of the calls that held a reply before are where they were
      have hothers : ∀ u y, s.holds u = some y → y.stray = false ∧ y.reply.bytes = y.own ∧
          cells (simpleCmd x s.dev line payload 5000).2.2.replyData 0 y.own.length = y.own :=
        fun u y hy => by
          obtain ⟨h1, h2, -⟩ := h.held u y hy
          rw [hdata]
          exact ⟨h1, h2, hserves.lent _ ⟨u, y, hy, rfl⟩⟩
      split
      · exact ⟨hwait, hothers, h.copied⟩
      rename_i hok
      rw [not_or, not_or] at hok
      obtain ⟨hvalid, hreply⟩ := hgiven (not_not.mp hok.1)
      refine ⟨hwait, ?_, h.copied⟩
      intro u y hy
      by_cases hu : u = t
      · have hy' : (if u = t then some (⟨c, (simpleCmd x s.dev line payload 5000).2.1.getD
            .incomplete, n.stray, n.own⟩ : Holding) else s.holds u) = some y := hy
        rw [if_pos hu, hreply] at hy'
        cases hy'
        have hbytes : d0.reply.bytes ≠ [] := fun e => hok.2.2 (by rw [hreply]; exact e)
        have hstray : n.stray = false := by
          cases hs : n.stray with
          | false => rfl
          | true => exact absurd (hserves.stray hvalid hs) hbytes
        refine ⟨hstray, hserves.own hvalid hstray, ?_⟩
        rw [hdata]
        exact hserves.stored hvalid
      · have hy' : (if u = t then _ else s.holds u) = some y := hy
        rw [if_neg hu] at hy'
        exact hothers u y hy'

theorem Inits.Sound.copy (t : ι) (elsewhere : Mem UInt8) : (s.copy chan t elsewhere).Sound := by
  unfold Inits.copy
  cases ht : s.holds t with
  | none => exact h
  | some y =>
      obtain ⟨hstray, hbytes, hcells⟩ := h.held t y ht
      refine ⟨h.cmdWaiting, ?_, ?_⟩
      · intro u z hz
        have hz' : (if u = t then none else s.holds u) = some z := hz
        by_cases hu : u = t
        · rw [if_pos hu] at hz'
          cases hz'
        · rw [if_neg hu] at hz'
          exact h.held u z hz'
      · intro p hp
        rcases List.mem_cons.mp hp with rfl | hp
        · show initResult _ _ _ (cells (if y.stray = true then elsewhere else s.dev.replyData) 0
            y.reply.bytes.length) = initResult _ _ _ y.own
          rw [hstray, if_neg Bool.false_ne_true, hbytes, hcells]
        · exact h.copied p hp

/-- **A step that meets the condition keeps every call's bytes.** -/
theorem Inits.Sound.step {e : InitEvent ι} (hm : EventMeets chan s e) :
    (initStep chan s e).Sound := by
  cases e with
  | heard as =>
      obtain ⟨hdata, hwait⟩ := arrivals_idle as h.cmdWaiting
      refine ⟨hwait, ?_, h.copied⟩
      intro t y hy
      show _ ∧ _ ∧ cells (arrivals s.dev as).replyData 0 _ = _
      rw [hdata]
      exact h.held t y hy
  | command t c x =>
      unfold initStep
      simp only
      split
      · exact h.command hm
      · exact h
  | copy t elsewhere => exact h.copy t elsewhere

end Step

theorem Inits.Sound.run {chan : ι → Fin 10} {es : List (InitEvent ι)} {s : Inits ι} (h : s.Sound)
    (hm : RunMeets chan s es) : (initRun chan s es).Sound := by
  induction es generalizing s with
  | nil => exact h
  | cons e es ih => exact ih (h.step hm.1) hm.2

/-- **A call whose copy follows its command at once is the entry point's**: `ioctl_init` delivers
    what the two steps deliver. -/
theorem ioctlInit_steps {chan : ι → Fin 10} {s : Inits ι} (h : s.Sound) {t : ι} {c : InitCall}
    {env : CallEnv} {drv : Driver} (hdev : drv.dev = s.dev)
    (hopen : (s.dev.ch (chan t)).isOpen = true) (hidle : s.holds t = none)
    (hm : EventMeets chan s (.command t c (env.exchange 0))) (elsewhere : Mem UInt8)
    {r : Nat × IoctlResult × Driver}
    (hr : ioctlInit env drv (chan t) c.fiveBaud c.input c.output = r) (hok : r.1 = statusNoerror) :
    ∃ own, (initRun chan s [.command t c (env.exchange 0), .copy t elsewhere]).copied =
        ⟨r.2.1, own⟩ :: s.copied ∧
      (initRun chan s [.command t c (env.exchange 0), .copy t elsewhere]).dev = r.2.2.dev := by
  have hstep : initStep chan s (.command t c (env.exchange 0)) =
      s.command chan t c (env.exchange 0) := if_pos ⟨hopen, by rw [hidle]; rfl⟩
  have hsound := h.command hm
  show ∃ own, (Inits.copy chan (initStep chan s _) t elsewhere).copied = _ ∧
    (Inits.copy chan (initStep chan s _) t elsewhere).dev = _
  rw [hstep]
  unfold ioctlInit at hr
  unfold Inits.command at hsound ⊢
  rw [hdev] at hr
  cases hcmd : initCommand (chan t) c.fiveBaud c.input c.output with
  | error code =>
      rw [hcmd] at hr
      subst hr
      exact absurd hok (initCommand_error hcmd)
  | ok lp =>
      obtain ⟨line, payload⟩ := lp
      rw [hcmd] at hr hsound
      simp only at hr hsound ⊢
      by_cases hl : line = []
      · rw [if_pos hl] at hr
        subst hr
        exact absurd hok errFailed_ne
      rw [if_neg hl] at hr hsound ⊢
      generalize simpleCmd (env.exchange 0) s.dev line payload 5000 = q at hr hsound ⊢
      generalize ((env.exchange 0).served s.dev line payload).foldl Noted.note {} = n at hsound ⊢
      by_cases hq : q.1 = statusNoerror
      · rw [if_neg (not_not_intro hq)] at hr
        by_cases hb : (q.2.1.getD .incomplete).kind ≠ .init ∨ (q.2.1.getD .incomplete).bytes = []
        · have hb' : (q.2.1.getD .incomplete).kind ≠ .init ∨
            (q.2.1.getD .incomplete).data.getD [] = [] := hb
          rw [if_pos hb'] at hr
          subst hr
          exact absurd hok (show errInitFailed ≠ statusNoerror by decide)
        · have hb' : ¬((q.2.1.getD .incomplete).kind ≠ .init ∨
            (q.2.1.getD .incomplete).data.getD [] = []) := hb
          have hall : ¬(q.1 ≠ statusNoerror ∨ (q.2.1.getD .incomplete).kind ≠ .init ∨
            (q.2.1.getD .incomplete).bytes = []) := fun e => e.elim (fun e => e hq) hb
          rw [if_neg hb'] at hr
          rw [if_neg hall] at hsound ⊢
          subst hr
          obtain ⟨hstray, hbytes, hcells⟩ := hsound.held t _ (if_pos rfl)
          have hstray' : n.stray = false := hstray
          have hbytes' : (q.2.1.getD .incomplete).bytes = n.own := hbytes
          unfold Inits.copy
          simp only [if_pos]
          rw [hstray', if_neg Bool.false_ne_true, hbytes', hcells, ← hbytes']
          exact ⟨_, rfl, trivial⟩
      · rw [if_pos hq] at hr
        subst hr
        exact absurd hok hq

/-! ## 4. Every run -/

/-- **Every caller gets its own bytes**, in every run in which no command is given bytes that
    contradict those another caller has still to copy. -/
theorem inits_own {chan : ι → Fin 10} {s : Inits ι} (hs : s.Fresh) {es : List (InitEvent ι)}
    (h : RunMeets chan s es) : (initRun chan s es).AllOwn := (hs.sound.run h).copied

end Runs

/-! ## 5. Two K-lines -/

/-- Where everyone who has still to copy holds the same bytes, a command need only be given no
    stale init reply, and no bytes that contradict those. -/
theorem eventMeets_agrees {ι : Type} {chan : ι → Fin 10} {s : Inits ι} {t : ι} {c : InitCall}
    {x : Exchange} {line payload : Bytes} (lent : Bytes)
    (hcmd : initCommand (chan t) c.fiveBaud c.input c.output = .ok (line, payload))
    (hlent : ∀ u, (s.holds u).all (fun y => y.own == lent) = true)
    (hserved : ((x.served s.dev line payload).all fun p =>
      match p.2 with
      | .reply r => !stale p.1 r && ((written p.1.seqPending r).isPrefixOf lent ||
          lent.isPrefixOf (written p.1.seqPending r))
      | _ => true) = true) : EventMeets chan s (.command t c x) := by
  intro line' payload' hcmd' p hp
  rw [hcmd] at hcmd'
  cases hcmd'
  have hp' := List.all_eq_true.mp hserved p hp
  obtain ⟨d, y⟩ := p
  cases y with
  | frame r => trivial
  | desync n => trivial
  | reply r =>
      have hs : (!stale d r && ((written d.seqPending r).isPrefixOf lent ||
        lent.isPrefixOf (written d.seqPending r))) = true := hp'
      rw [Bool.and_eq_true, Bool.or_eq_true] at hs
      refine fun _ => ⟨fun e => ?_, fun _ b hb => ?_⟩
      · rw [e] at hs
        cases hs.1
      · obtain ⟨u, y, hy, rfl⟩ := hb
        have hy' := hlent u
        rw [hy] at hy'
        rw [eq_of_beq hy']
        exact hs.2.imp List.isPrefixOf_iff_prefix.mp List.isPrefixOf_iff_prefix.mp

/-- Two threads, on channels 3 and 7. -/
def kLineOf (t : Bool) : Fin 10 := if t then 7 else 3

/-- The two channels open, and number 300 next. -/
def twoKLines : Inits Bool :=
  { dev := { opened := true, seqNext := 300
             ch := fun i => if i = 3 ∨ i = 7 then { isOpen := true } else {} } }

/-- A `FIVE_BAUD_INIT` with room for eight key bytes. -/
def fiveBaudCall : InitCall :=
  { fiveBaud := true, input := { bytes := some ⟨1, some fun _ => 0x33⟩ }
    output := { bytes := some ⟨8, some fun _ => 0⟩ } }

/-- A command that is answered with this line. -/
def answeredWith (line : String) : Exchange :=
  { late := [.read (ascii line ++ [0x0d, 0x0a])] }

/-- Both commands are answered before the first caller copies. -/
def mixedInits : List (InitEvent Bool) :=
  [.command false fiveBaudCall (answeredWith "arw3 85 143 300"),
    .command true fiveBaudCall (answeredWith "arw7 1 2 301"),
    .copy false fun _ => 0]

/-- The second caller's command fails while the first has still to copy; then both are given the
    same bytes before either copies. -/
def wovenInits : List (InitEvent Bool) :=
  [.command false fiveBaudCall (answeredWith "arw3 85 143 300"),
    .command true fiveBaudCall (answeredWith "are 9 301"),
    .copy false fun _ => 0,
    .command true fiveBaudCall (answeredWith "arw7 1 2 302"),
    .command false fiveBaudCall (answeredWith "arw3 1 2 303"),
    .copy true fun _ => 0, .copy false fun _ => 0]

/-- The interleaving meets the condition, and three copies are delivered. -/
theorem inits_own_woven : (initRun kLineOf twoKLines wovenInits).AllOwn ∧
    (initRun kLineOf twoKLines wovenInits).copied.map (fun p => p.result.bytes) =
      [some [1, 2], some [1, 2], some [85, 143]] := by
  have hfresh : twoKLines.Fresh := ⟨rfl, fun _ => rfl, rfl⟩
  refine ⟨inits_own hfresh ⟨?_, ?_, trivial, ?_, ?_, trivial, trivial, trivial⟩, by decide⟩
  · exact eventMeets_agrees [] rfl (by decide) (by decide)
  · exact eventMeets_agrees [85, 143] rfl (by decide) (by decide)
  · exact eventMeets_agrees [] rfl (by decide) (by decide)
  · exact eventMeets_agrees [1, 2] rfl (by decide) (by decide)

/-- **The second caller's key bytes are given to the first.** -/
theorem inits_mixed : ¬∀ (chan : Bool → Fin 10) (s : Inits Bool) (es : List (InitEvent Bool)),
    Function.Injective chan → s.Fresh → (initRun chan s es).AllOwn := by
  intro h
  have hfresh : twoKLines.Fresh := ⟨rfl, fun _ => rfl, rfl⟩
  have hall := h kLineOf twoKLines mixedInits (by decide) hfresh
  have hcopied : (initRun kLineOf twoKLines mixedInits).copied.map
      (fun p => (p.result.bytes, p.own.bytes)) = [(some [1, 2], some [85, 143])] := by decide
  obtain ⟨p, hp, he⟩ := List.mem_map.mp (hcopied ▸ List.mem_singleton_self _)
  rw [hall p hp] at he
  exact absurd ((congrArg Prod.fst he).symm.trans (congrArg Prod.snd he)) (by decide)

end Openport
