/-
  File:      Openport/Simulator/Replies.lean
  Subject:   What the simulated cable puts out while the driver's commands, its timers
             and its periodic threads run in any order: one reply to each command, in
             the order of the commands, and frames between them.

  `Ready` is what a command needs of the cable: it holds from the start, a command
  keeps it (`given_answered`), and a timer or a thread does (`due_still`).
-/
import Openport.Device.Matching
import Openport.Simulator.Answers

namespace Openport.Simulator

open Lib Lib.Decimal

/-! ## 1. What the driver gives -/

/-- "ati". -/
def infoCommand : Command := { verb := 0x69 }

theorem infoText_ok : (Record.info 1 (versionHead.drop 4 ++ fwVersion)).textOk := by
  refine ⟨?_, ?_⟩
  · decide
  · decide

/-- "ari main code version : 1.17.4877". -/
def infoReply : WireRecord :=
  ⟨.info 1 (versionHead.drop 4 ++ fwVersion),
    ⟨(fun _ _ _ h => nomatch h), by decide, by decide, by decide, infoText_ok⟩⟩

/-- A command, its payload and its number as they go out. -/
structure Given where
  command : Command
  payload : Bytes
  seq : UInt32
  deriving DecidableEq, Repr

/-- The line of a command; `ati` takes no number. -/
def Given.text (g : Given) : Bytes := (g.command.issued g.seq).text

/-- A command of the driver's with the payload it declares, or `ati`. -/
structure Given.Proper (g : Given) : Prop where
  spoken : Spoken g.command ∨ g.command = infoCommand
  declared : g.payload.length = (g.command.issued g.seq).declares

/-- What handling it does: the version, or the answer to a numbered command. -/
inductive Told (s : Sim) (g : Given) (s' : Sim) : WireRecord → Prop where
  | info : g.command = infoCommand → Said s s' infoReply → s'.table = s.table → Told s g s' infoReply
  | answered {r : WireRecord} : Spoken g.command → Answered s g.command g.payload g.seq s' r →
      Told s g s' r

/-! ## 2. What a command needs of the cable -/

/-- What the parameters are set to are 32-bit numbers. -/
def ConfigFits (channels : Dict (Fin 10) Channel) : Prop :=
  ∀ i c k v, channels.lookup i = some c → c.config.lookup k = some v → 0 ≤ v ∧ v < 2 ^ 32

/-- The cable after at most `n` commands. -/
structure Sim.Ready (n : Nat) (s : Sim) : Prop where
  sound : s.Sound
  isOpen : s.closed = false
  config : ConfigFits s.channels
  filterIds : s.nextFilterId ≤ n
  periodicIds : s.nextPeriodicId ≤ n

theorem start_ready : Sim.Ready 0 {} :=
  ⟨start_sound, rfl, (fun _ _ _ _ h => nomatch h), Nat.le_refl 0, Nat.le_refl 0⟩

theorem Sim.Ready.fits {n : Nat} {s : Sim} (h : s.Ready n) (hn : n < 2 ^ 32) : s.table.Fits :=
  ⟨h.config, Nat.lt_of_le_of_lt h.filterIds hn, Nat.lt_of_le_of_lt h.periodicIds hn⟩

theorem params_fit : ∀ d ∈ [iso15765Params, klineParams, canParams], ∀ p ∈ d.entries,
    0 ≤ p.2 ∧ p.2 < 2 ^ 32 := by decide

/-- A channel as `ato` makes it. -/
theorem new_fits {proto : Nat} {flags baud : Int} {born : Nat} (hb : 0 ≤ baud ∧ baud < 2 ^ 32)
    {k v : Int} (h : (Channel.new proto flags baud born).config.lookup k = some v) :
    0 ≤ v ∧ v < 2 ^ 32 := by
  have hmem : paramsByProtocol proto ∈ [iso15765Params, klineParams, canParams] := by
    unfold paramsByProtocol
    split
    · exact List.mem_cons_self
    split
    · exact List.mem_cons_of_mem _ List.mem_cons_self
    · exact List.mem_cons_of_mem _ (List.mem_cons_of_mem _ List.mem_cons_self)
  rcases lookup_insert_cases h with ⟨-, rfl⟩ | ⟨-, h⟩
  · exact hb
  · exact params_fit _ hmem ⟨k, v⟩ (List.of_mem_dlookup h)

/-- A channel is put back with what it was, or with parameters that fit. -/
theorem ConfigFits.insert {channels : Dict (Fin 10) Channel} (h : ConfigFits channels) (i : Fin 10)
    {c : Channel} (hc : ∀ k v, c.config.lookup k = some v → 0 ≤ v ∧ v < 2 ^ 32) :
    ConfigFits (channels.insert i c) := by
  intro j d k v hj hd
  rcases lookup_insert_cases hj with ⟨-, rfl⟩ | ⟨-, hj⟩
  · exact hc k v hd
  · exact h j d k v hj hd

theorem ConfigFits.kept {channels : Dict (Fin 10) Channel} (h : ConfigFits channels) {i : Fin 10}
    {c d : Channel} (hl : channels.lookup i = some c) (hd : d.config = c.config) :
    ConfigFits (channels.insert i d) :=
  h.insert i fun k v hk => h i c k v hl (hd ▸ hk)

/-- **A command leaves parameters and ids that fit**, the ids one further at most. -/
theorem Answer.ready {t t' : Table} {c : Command} {payload : Bytes} {seq : UInt32} {r : WireRecord}
    (h : Answer t c payload seq r t') (hc : Spoken c) (hf : ConfigFits t.channels) :
    ConfigFits t'.channels ∧ t'.nextFilterId ≤ t.nextFilterId + 1 ∧
      t'.nextPeriodicId ≤ t.nextPeriodicId + 1 ∧ t'.closed = t.closed := by
  have hle : ∀ n : Nat, n ≤ n + 1 := Nat.le_succ
  cases h with
  | reset => exact ⟨(fun _ _ _ _ h => nomatch h), Nat.zero_le _, hle _, rfl⟩
  | opened i flags baud more hv _ ha =>
      have hb := hc.values (Or.inl hv) baud (ha ▸ List.mem_cons_of_mem _ List.mem_cons_self)
      exact ⟨hf.insert i fun k v hk => new_fits hb hk, hle _, hle _, rfl⟩
  | shut i => exact ⟨fun j d k v hj => hf j d k v (lookup_erase_some hj), hle _, hle _, rfl⟩
  | configured i ch param value hv _ ha hl =>
      have hb := hc.values (Or.inr (Or.inl hv)) value
        (ha ▸ List.mem_cons_of_mem _ List.mem_cons_self)
      refine ⟨hf.insert i fun k v hk => ?_, hle _, hle _, rfl⟩
      rcases lookup_insert_cases hk with ⟨-, rfl⟩ | ⟨-, hk⟩
      · exact hb
      · exact hf i ch k v hl hk
  | filtered i ch f _ _ hl => exact ⟨hf.kept hl rfl, Nat.le_refl _, hle _, rfl⟩
  | unfiltered i ch id fs _ _ _ hl => exact ⟨hf.kept hl rfl, hle _, hle _, rfl⟩
  | scheduled i ch interval zero txflags length _ _ _ hl =>
      exact ⟨hf.kept hl rfl, hle _, Nat.le_refl _, rfl⟩
  | unscheduled i ch id _ _ _ hl => exact ⟨hf.kept hl rfl, hle _, hle _, rfl⟩
  | emptied i ch _ _ hl => exact ⟨hf.kept hl rfl, hle _, hle _, rfl⟩
  | pin | config | full | unknown | nothing | done | refused => exact ⟨hf, hle _, hle _, rfl⟩

/-- Every answer is a text reply with the number of its command behind everything else. -/
theorem Answer.numbered {t t' : Table} {c : Command} {payload : Bytes} {seq : UInt32} {r : WireRecord}
    (h : Answer t c payload seq r t') : r.val.isText = true ∧ r.val.tail = [seq] := by
  cases h <;> exact ⟨rfl, rfl⟩

theorem text_no_frame {r : Record} (h : r.isText = true) : isFrame r = false := by
  cases r with
  | frame => cases h
  | ok | error | info | pin | filter | config | periodic | fastInit | fiveBaud => rfl

/-! ## 3. A command -/

section Commands

variable {e : Setup} {n : Nat} {s : Sim}

/-- `ati` is answered with the version. -/
theorem handle_info (hp : e.Plain) (s : Sim) (payload : Bytes) : ∃ s',
    handle e s infoCommand.text payload = some s' ∧ Said s s' infoReply ∧ s'.table = s.table := by
  have hwire : versionHead ++ fwVersion ++ [0x0d, 0x0a] = infoReply.val.wire := by decide
  have hhandle : handle e s infoCommand.text payload =
      some (Sim.reply e { s with cmdCount := s.cmdCount + 1, seq := none }
        (versionHead ++ fwVersion ++ [0x0d, 0x0a])) := by
    unfold handle
    simp only [hp.disconnect, ne_eq, not_true_eq_false, false_and, if_false]
    rfl
  rw [hhandle, hwire]
  have htab := inner_table
    (reply_inner e { s with cmdCount := s.cmdCount + 1, seq := none } infoReply.val.wire)
  have hputs := reply_puts hp { s with cmdCount := s.cmdCount + 1, seq := none } infoReply
  exact ⟨_, rfl, (show Puts s _ [infoReply] from hputs).said, htab⟩

/-- **Every command of the driver's is answered once, and leaves the cable ready for the next.** -/
theorem given_answered (hp : e.Plain) (hinit : e.wire.initReply = .aro) (hans : e.Answerable)
    (hs : s.Ready n) (hn : n < 2 ^ 32) {g : Given} (hg : g.Proper) : ∃ s' r,
      handle e s g.text g.payload = some s' ∧ Told s g s' r ∧ s'.Ready (n + 1) := by
  rcases hg.spoken with hc | hc
  · have hverb : g.command.verb ≠ 0x69 := hc.noInfo
    have htext : g.text = (g.command.numbered g.seq).text := by
      unfold Given.text Command.issued
      rw [if_neg hverb]
    rw [htext]
    obtain ⟨s', r, hh, ha⟩ :=
      handle_answered hp hinit hans hs.sound (hs.fits hn) hc g.seq g.payload
    obtain ⟨hconfig, hfilter, hperiodic, hclosed⟩ := ha.answer.ready hc hs.config
    have hstep : s.step e (.line (g.command.numbered g.seq).text g.payload) = some s' := hh
    refine ⟨s', r, hh, .answered hc ha, (step_sound hs.sound hstep).1, hclosed.trans hs.isOpen,
      hconfig, ?_, ?_⟩
    · exact Nat.le_trans hfilter (Nat.succ_le_succ hs.filterIds)
    · exact Nat.le_trans hperiodic (Nat.succ_le_succ hs.periodicIds)
  · have htext : g.text = infoCommand.text := by
      unfold Given.text
      rw [hc]
      rfl
    rw [htext]
    obtain ⟨s', hh, hsaid, htab⟩ := handle_info hp s g.payload
    have hch : s'.channels = s.channels := congrArg Table.channels htab
    have hf : s'.nextFilterId = s.nextFilterId := congrArg Table.nextFilterId htab
    have hp : s'.nextPeriodicId = s.nextPeriodicId := congrArg Table.nextPeriodicId htab
    have hstep : s.step e (.line infoCommand.text g.payload) = some s' := hh
    exact ⟨s', infoReply, hh, .info hc hsaid htab, (step_sound hs.sound hstep).1,
      (congrArg Table.closed htab).trans hs.isOpen, hch ▸ hs.config,
      Nat.le_succ_of_le (hf ▸ hs.filterIds), Nat.le_succ_of_le (hp ▸ hs.periodicIds)⟩

/-! ## 4. A timer, a thread -/

/-- Frames may have gone out, and the channels are as they were. -/
structure Still (e : Setup) (s s' : Sim) : Prop where
  frames : e.Plain → ∃ rs : List WireRecord, (∀ r ∈ rs, isFrame r.val = true) ∧ Puts s s' rs
  channels : s'.channels = s.channels
  filterIds : s'.nextFilterId = s.nextFilterId
  periodicIds : s'.nextPeriodicId = s.nextPeriodicId
  born : s'.born = s.born
  isOpen : s'.closed = s.closed

theorem Framed.still {s0 s' : Sim} (h : Framed e s0 s') (hout : s0.out = s.out)
    (hch : s0.channels = s.channels) (hf : s0.nextFilterId = s.nextFilterId)
    (hp : s0.nextPeriodicId = s.nextPeriodicId) (hb : s0.born = s.born) (hcl : s0.closed = s.closed) :
    Still e s s' := by
  refine ⟨fun hplain => ?_, (inner_same Sim.channels (fun _ => rfl) h.inner).trans hch,
    (inner_same Sim.nextFilterId (fun _ => rfl) h.inner).trans hf,
    (inner_same Sim.nextPeriodicId (fun _ => rfl) h.inner).trans hp,
    (inner_same Sim.born (fun _ => rfl) h.inner).trans hb,
    (inner_same Sim.closed (fun _ => rfl) h.inner).trans hcl⟩
  obtain ⟨rs, hr, hputs⟩ := h.frames hplain
  refine ⟨rs, hr, ?_⟩
  unfold Puts at hputs ⊢
  rw [hputs, hout]

theorem Still.unmoved {s' : Sim} (hout : s'.out = s.out) (hch : s'.channels = s.channels)
    (hf : s'.nextFilterId = s.nextFilterId) (hp : s'.nextPeriodicId = s.nextPeriodicId)
    (hb : s'.born = s.born) (hcl : s'.closed = s.closed) : Still e s s' :=
  (Framed.refl e s').still hout hch hf hp hb hcl

theorem fire_still (e : Setup) (s : Sim) (k : Nat) : ∃ s', s.fire e k = some s' ∧ Still e s s' := by
  unfold Sim.fire
  split
  · exact ⟨s, rfl, .unmoved rfl rfl rfl rfl rfl rfl⟩
  · rename_i i resp _
    obtain ⟨s', hs, hf⟩ := sendMessage_framed e { s with timers := s.timers.eraseIdx k } i resp false
    exact ⟨s', hs, hf.still rfl rfl rfl rfl rfl rfl⟩

theorem Turn.still {s' : Sim} {k : Nat} (h : Turn e s k s') : Still e s s' := by
  cases h with
  | idle => exact .unmoved rfl rfl rfl rfl rfl rfl
  | ended => exact .unmoved rfl rfl rfl rfl rfl rfl
  | slept => exact .unmoved rfl rfl rfl rfl rfl rfl
  | sent th c q p s' _ _ _ hf => exact hf.still rfl rfl rfl rfl rfl rfl

/-- What becomes due in the cable. -/
def Event.isDue : Event → Bool
  | .line _ _ => false
  | _ => true

/-- **A timer or a thread puts out frames, and leaves the channels as they were.** -/
theorem due_still (e : Setup) (s : Sim) {ev : Event} (hev : ev.isDue = true) : ∃ s',
    s.step e ev = some s' ∧ Still e s s' := by
  cases ev with
  | line => cases hev
  | timer k => exact fire_still e s k
  | thread k =>
      obtain ⟨s', hs, ht⟩ := turn_cases e s k
      exact ⟨s', hs, ht.still⟩

theorem Still.ready {s' : Sim} {ev : Event} (h : Still e s s') (hstep : s.step e ev = some s')
    (hs : s.Ready n) : s'.Ready n :=
  ⟨(step_sound hs.sound hstep).1, h.isOpen.trans hs.isOpen, h.channels ▸ hs.config,
    h.filterIds ▸ hs.filterIds, h.periodicIds ▸ hs.periodicIds⟩

end Commands

/-! ## 5. Any order of commands, timers and threads -/

/-- A command of the driver's, a timer that goes off, a turn of a periodic thread. -/
inductive Cue where
  | given (g : Given)
  | timer (k : Nat)
  | thread (k : Nat)
  deriving DecidableEq, Repr

def Cue.event : Cue → Event
  | .given g => .line g.text g.payload
  | .timer k => .timer k
  | .thread k => .thread k

def Cue.asked : Cue → Option Given
  | .given g => some g
  | _ => none

/-- **The replies of a run**: a command has its own, which `handle` gave in the state the command
    was handled in; a timer and a thread have none. -/
inductive Replied (e : Setup) : Sim → List Cue → List WireRecord → Sim → Prop where
  | done (s : Sim) : Replied e s [] [] s
  | due {s s' s'' : Sim} {cue : Cue} {cues : List Cue} {rs : List WireRecord} : cue.asked = none →
      s.step e cue.event = some s' → Replied e s' cues rs s'' → Replied e s (cue :: cues) rs s''
  | given {s s' s'' : Sim} {g : Given} {cues : List Cue} {r : WireRecord} {rs : List WireRecord} :
      handle e s g.text g.payload = some s' → Told s g s' r → Replied e s' cues rs s'' →
      Replied e s (.given g :: cues) (r :: rs) s''

/-- The replies among the records. -/
def replies (rs : List WireRecord) : List WireRecord := rs.filter fun r => !isFrame r.val

theorem replies_frames {rs : List WireRecord} (h : ∀ r ∈ rs, isFrame r.val = true) :
    replies rs = [] := by
  refine List.filter_eq_nil_iff.mpr fun r hr => ?_
  rw [h r hr]
  exact fun e => nomatch e

theorem replies_append (rs qs : List WireRecord) : replies (rs ++ qs) = replies rs ++ replies qs :=
  List.filter_append ..

/-- The reply to a command, and the frames around it. -/
theorem Said.puts {s s' : Sim} {r : WireRecord} (h : Said s s' r) (hr : isFrame r.val = false) :
    ∃ rs, Puts s s' rs ∧ replies rs = [r] := by
  obtain ⟨fs, gs, hf, hputs⟩ := h
  refine ⟨fs ++ r :: gs, hputs, ?_⟩
  rw [replies_append, replies_frames fun f hm => hf f (List.mem_append_left _ hm)]
  unfold replies
  rw [List.filter_cons_of_pos (by rw [hr]; rfl)]
  have := replies_frames fun f hm => hf f (List.mem_append_right fs hm)
  unfold replies at this
  rw [this]
  rfl

theorem Told.puts {s s' : Sim} {g : Given} {r : WireRecord} (h : Told s g s' r) :
    ∃ rs, Puts s s' rs ∧ replies rs = [r] := by
  cases h with
  | info _ hs => exact hs.puts rfl
  | answered _ ha =>
      exact ha.said.puts (text_no_frame ha.answer.numbered.1)

/-- A run from any state that is ready for its commands. -/
theorem ready_replies {e : Setup} (hp : e.Plain) (hinit : e.wire.initReply = .aro)
    (hans : e.Answerable) : ∀ (cues : List Cue) {n : Nat} {s : Sim}, s.Ready n →
    n + (cues.filterMap Cue.asked).length ≤ 2 ^ 32 →
    (∀ g ∈ cues.filterMap Cue.asked, g.Proper) → ∃ s' rs,
      s.run e (cues.map Cue.event) = some s' ∧ Puts s s' rs ∧ Replied e s cues (replies rs) s'
  | [], n, s, _, _, _ => ⟨s, [], rfl, .refl s, .done s⟩
  | cue :: cues, n, s, hs, hn, hg => by
      cases hc : cue.asked with
      | none =>
          have hev : cue.event.isDue = true := by
            cases cue with
            | given => cases hc
            | timer | thread => rfl
          rw [List.filterMap_cons_none hc] at hn hg
          obtain ⟨s1, h1, hstill⟩ := due_still e s hev
          obtain ⟨fs, hf, hputs⟩ := hstill.frames hp
          obtain ⟨s', rs, hrun, hput, hrep⟩ :=
            ready_replies hp hinit hans cues (hstill.ready h1 hs) hn hg
          refine ⟨s', fs ++ rs, (run_cons h1).trans hrun, hputs.trans hput, ?_⟩
          rw [replies_append, replies_frames hf]
          exact .due hc h1 hrep
      | some g =>
          obtain rfl : cue = .given g := by
            cases cue with
            | given => exact congrArg Cue.given (Option.some.inj hc)
            | timer | thread => cases hc
          rw [List.filterMap_cons_some hc] at hn hg
          rw [List.length_cons] at hn
          obtain ⟨s1, r, h1, htold, hready⟩ :=
            given_answered hp hinit hans hs (by omega) (hg g List.mem_cons_self)
          obtain ⟨qs, hputs, hqs⟩ := htold.puts
          obtain ⟨s', rs, hrun, hput, hrep⟩ := ready_replies hp hinit hans cues hready (by omega)
            fun h hm => hg h (List.mem_cons_of_mem g hm)
          have hstep : s.step e (Cue.given g).event = some s1 := h1
          refine ⟨s', qs ++ rs, (run_cons hstep).trans hrun, hputs.trans hput, ?_⟩
          rw [replies_append, hqs]
          exact .given h1 htold hrep

/-- **Every command has its reply, in the order of the commands, whatever runs between them and
    however the driver reads.** The records the driver's reader hands on are frames and, in the order
    of the commands, the reply that `handle` gave to each. -/
theorem run_replies {e : Setup} (hp : e.Plain) (hinit : e.wire.initReply = .aro) (hans : e.Answerable)
    {cues : List Cue} (hn : (cues.filterMap Cue.asked).length ≤ 2 ^ 32)
    (hg : ∀ g ∈ cues.filterMap Cue.asked, g.Proper) : ∃ s rs,
      Sim.run e {} (cues.map Cue.event) = some s ∧ Replied e {} cues (replies rs) s ∧
      ∀ reads : List Bytes, reads.flatten = s.out.flatten →
        (∀ tmp ∈ reads, 1 ≤ tmp.length ∧ tmp.length ≤ 1024) →
        readerReads [] reads = (handedOn rs, []) := by
  obtain ⟨s, rs, hrun, hputs, hrep⟩ :=
    ready_replies hp hinit hans cues start_ready (by rwa [Nat.zero_add]) hg
  refine ⟨s, rs, hrun, hrep, fun reads hcut hlen => readerReads_records rs reads ?_ hlen⟩
  rw [hcut]
  exact hputs

/-- A cable without faults, whose ECU answers everything. -/
def answering : Setup := { ecu := fun _ => some [0x50, 0x01] }

theorem answering_plain : answering.Plain := ⟨rfl, rfl, rfl, rfl, rfl⟩

theorem answering_answers : answering.Answerable :=
  fun _ _ => ⟨[0x50, 0x01], rfl, Nat.le_of_ble_eq_true rfl⟩

/-- "ato5 0 500000 0 256", "atm5 1000 0 0 1 257" and its byte, two turns of its thread, "ati", and
    "atc5 258". -/
def sampleGiven : List Given :=
  [⟨{ verb := 0x6f, channel := some 5, args := [0, 500000, 0] }, [], 256⟩,
    ⟨{ verb := 0x6d, channel := some 5, args := [1000, 0, 0, 1] }, [7], 257⟩,
    ⟨infoCommand, [], 0⟩, ⟨{ verb := 0x63, channel := some 5 }, [], 258⟩]

def sampleCues : List Cue :=
  [.given (sampleGiven.getD 0 ⟨infoCommand, [], 0⟩), .given (sampleGiven.getD 1 ⟨infoCommand, [], 0⟩),
    .thread 0, .thread 0, .given (sampleGiven.getD 2 ⟨infoCommand, [], 0⟩),
    .given (sampleGiven.getD 3 ⟨infoCommand, [], 0⟩)]

theorem sampleGiven_proper : ∀ g ∈ sampleGiven, g.Proper := by
  have hfive : ∀ c : Command, c.channel = some 5 → ∃ i : Fin 10, c.channel = some i.val :=
    fun c h => ⟨5, h⟩
  intro g hg
  unfold sampleGiven at hg
  simp only [List.mem_cons, List.not_mem_nil, or_false] at hg
  rcases hg with rfl | rfl | rfl | rfl
  · exact ⟨Or.inl ⟨rfl, by decide, by decide, fun _ => hfive _ rfl, by decide, by decide⟩, rfl⟩
  · exact ⟨Or.inl ⟨rfl, by decide, by decide, fun _ => hfive _ rfl, by decide, by decide⟩, rfl⟩
  · exact ⟨Or.inr rfl, rfl⟩
  · exact ⟨Or.inl ⟨rfl, by decide, by decide, fun _ => hfive _ rfl, by decide, by decide⟩, rfl⟩

theorem run_replies_sample : ∃ s rs, Sim.run answering {} (sampleCues.map Cue.event) = some s ∧
    Replied answering {} sampleCues (replies rs) s ∧
    ∀ reads : List Bytes, reads.flatten = s.out.flatten →
      (∀ tmp ∈ reads, 1 ≤ tmp.length ∧ tmp.length ≤ 1024) →
      readerReads [] reads = (handedOn rs, []) := by
  have hasked : sampleCues.filterMap Cue.asked = sampleGiven := rfl
  refine run_replies answering_plain rfl answering_answers ?_ ?_
  · rw [hasked]
    decide
  · rw [hasked]
    exact sampleGiven_proper

end Openport.Simulator
