/-
  File:      Openport/Simulator/Runs.lean
  Subject:   Runs of the simulated cable: command lines, timers and periodic threads in
             any order.

  `Change` says once what a step can do to the channels and the threads, and
  `Moves` what it can do to the rest; every fact about runs is derived from these
  two. `handle_moves`, `fire_moves` and `turn_moves` say that a step is one.
-/
import Openport.Simulator.Emitting

namespace Openport.Simulator

open Lib Lib.Decimal

/-! ## 1. Runs -/

/-- What the simulator is given, or what becomes due in it. -/
inductive Event where
  | line (line payload : Bytes)
  | timer (k : Nat)
  | thread (k : Nat)
  deriving DecidableEq, Repr

/-- A step: a command line, a timer that goes off, a turn of a periodic thread. -/
def Sim.step (e : Setup) (s : Sim) : Event → Option Sim
  | .line line payload => handle e s line payload
  | .timer k => s.fire e k
  | .thread k => s.turn e k

/-- A run, `none` where a step of it raised. -/
def Sim.run (e : Setup) (s : Sim) (events : List Event) : Option Sim :=
  events.foldlM (fun s ev => s.step e ev) s

theorem run_cons {e : Setup} {s s' : Sim} {ev : Event} {events : List Event}
    (h : s.step e ev = some s') : s.run e (ev :: events) = s'.run e events := by
  show (s.step e ev).bind _ = _
  rw [h]
  rfl

/-- The channels, the counters and the threads. -/
structure Table where
  channels : Dict (Fin 10) Channel
  nextFilterId : Nat
  nextPeriodicId : Nat
  born : Nat
  engines : List Engine
  closed : Bool

def Sim.table (s : Sim) : Table :=
  { channels := s.channels, nextFilterId := s.nextFilterId, nextPeriodicId := s.nextPeriodicId
    born := s.born, engines := s.engines, closed := s.closed }

/-- A filter as `_cmd_filter` makes it. -/
structure Filter.Sound (f : Filter) : Prop where
  type : f.type = 1 ∨ f.type = 2 ∨ f.type = 3
  pattern : f.pattern.length = f.mask.length
  flow : f.flow.isSome ↔ f.type = 3
  flowLength : ∀ m, f.flow = some m → m.length = f.mask.length

/-- The entry a thread reads: its own channel has to be there still, and its message. -/
def Table.entryOf (t : Table) (th : Engine) : Option (Channel × Periodic) :=
  ((t.channels.lookup th.channel).filter fun c => c.born = th.born).bind fun c =>
    (c.periodic.lookup th.pid).map fun p => (c, p)

/-- **What a step can do to the channels and the threads.** -/
inductive Change (t : Table) : Table → Prop where
  | same : Change t t
  /-- `ato` -/
  | opened (i : Fin 10) (flags baud : Int) : i.val ∈ supportedProtocols →
      i ∉ t.channels → (∀ p ∈ sharedLines, i.val = p.1 ∨ i.val = p.2 →
        ∀ j : Fin 10, j.val = p.1 ∨ j.val = p.2 → j ∉ t.channels) →
      Change t { t with channels := t.channels.insert i (.new i.val flags baud t.born)
                        born := t.born + 1 }
  /-- `atc` -/
  | shut (i : Fin 10) : Change t { t with channels := t.channels.erase i }
  /-- `ata`, `atz` -/
  | cleared : Change t { t with channels := ∅, nextFilterId := 0 }
  /-- `ats` -/
  | configured (i : Fin 10) (c : Channel) (param value : Int) : t.channels.lookup i = some c →
      param ∈ c.config → Change t { t with
        channels := t.channels.insert i { c with config := c.config.insert param value } }
  /-- `atf` -/
  | filtered (i : Fin 10) (c : Channel) (f : Filter) : t.channels.lookup i = some c →
      c.filters.entries.length < perChannel → f.Sound → Change t { t with
        channels := t.channels.insert i
          { c with filters := c.filters.insert (t.nextFilterId : Int) f }
        nextFilterId := t.nextFilterId + 1 }
  /-- `atk` -/
  | unfiltered (i : Fin 10) (c : Channel) (fs : Dict Int Filter) : t.channels.lookup i = some c →
      fs.entries.Sublist c.filters.entries → Change t { t with
        channels := t.channels.insert i { c with filters := fs } }
  /-- `atm`, and the thread of its message -/
  | scheduled (i : Fin 10) (c : Channel) (p : Periodic) : t.channels.lookup i = some c →
      c.periodic.entries.length < perChannel → Change t { t with
        channels := t.channels.insert i
          { c with periodic := c.periodic.insert (t.nextPeriodicId : Int) p }
        nextPeriodicId := t.nextPeriodicId + 1
        engines := t.engines ++ [{ channel := i, born := c.born, pid := t.nextPeriodicId }] }
  /-- `atn`, `atl` -/
  | unscheduled (i : Fin 10) (c : Channel) (ps : Dict Int Periodic) :
      t.channels.lookup i = some c → ps.entries.Sublist c.periodic.entries → Change t { t with
        channels := t.channels.insert i { c with periodic := ps } }
  /-- a thread ends -/
  | ended (k : Nat) (th : Engine) : t.engines[k]? = some th →
      t.entryOf th = none ∨ t.closed = true ∨
        (∃ c p, t.entryOf th = some (c, p) ∧ ¬p.Sleeps) →
      Change t { t with engines := t.engines.eraseIdx k }
  /-- a thread goes to sleep, or wakes -/
  | turned (k : Nat) (th : Engine) (asleep : Option Periodic) : t.engines[k]? = some th →
      (∀ p, asleep = some p → ∃ c, t.entryOf th = some (c, p)) →
      Change t { t with engines := t.engines.set k { th with asleep := asleep } }
  /-- the cable is gone -/
  | gone : Change t { t with closed := true }

/-- What the periodic threads have sent. -/
def Sim.repeated (s : Sim) : List Transmit := s.txLog.filter (·.periodic)

/-- Either both ids of a TP2.0 channel are set, or neither; the length of a request fits 16 bits. -/
structure Tp20State.Sound (t : Tp20State) : Prop where
  ids : t.rxId.isSome = t.txId.isSome
  want : ∀ w, t.want = some w → w ≤ 0xffff

/-- What the pins can read: 12 nothing or a voltage the cable gives out, 17 the idle voltage or
    such a voltage, and the other two what they always read. -/
structure PinsSound (pins : Dict Int Int) : Prop where
  keys : ∀ p, p ∈ pins ↔ p = 8 ∨ p = 12 ∨ p = 16 ∨ p = 17
  fixed : pins.lookup 8 = some 0 ∧ pins.lookup 16 = some 12480
  jack : ∀ v, pins.lookup 12 = some v → v = 0 ∨ (voltageMinMv ≤ v ∧ v ≤ voltageMaxMv)
  supply : ∀ v, pins.lookup 17 = some v → voltageMinMv ≤ v ∧ v ≤ voltageMaxMv

/-- **What a command or a timer can do.** -/
structure Moves (s s' : Sim) : Prop where
  change : Change s.table s'.table
  repeated : s'.repeated = s.repeated
  counted : s.txCount = s.txLog.length → s'.txCount = s'.txLog.length
  tp20 : s.tp20.Sound → s'.tp20.Sound
  pins : PinsSound s.pins → PinsSound s'.pins

theorem Moves.refl (s : Sim) : Moves s s := ⟨.same, rfl, id, id, id⟩

/-- What does not hang on the output is told by the rest of the state. -/
theorem inner_same {α : Type} (f : Sim → α) (hf : ∀ s : Sim, f s.inner = f s) {s s' : Sim}
    (h : s'.inner = s.inner) : f s' = f s := by
  rw [← hf s', ← hf s, h]

/-- What only put something out, after a step, is part of it. -/
theorem Moves.inner {s s1 s2 : Sim} (h : Moves s s1) (hi : s2.inner = s1.inner) : Moves s s2 := by
  have ht : s2.table = s1.table := inner_same Sim.table (fun _ => rfl) hi
  have hl : s2.txLog = s1.txLog := inner_same Sim.txLog (fun _ => rfl) hi
  have hc : s2.txCount = s1.txCount := inner_same Sim.txCount (fun _ => rfl) hi
  have hp : s2.tp20 = s1.tp20 := inner_same Sim.tp20 (fun _ => rfl) hi
  have hpins : s2.pins = s1.pins := inner_same Sim.pins (fun _ => rfl) hi
  refine ⟨by rw [ht]; exact h.change, ?_, ?_, by rw [hp]; exact h.tp20,
    by rw [hpins]; exact h.pins⟩
  · unfold Sim.repeated
    rw [hl]
    exact h.repeated
  · rw [hl, hc]
    exact h.counted

theorem Moves.of_inner {s s' : Sim} (h : s'.inner = s.inner) : Moves s s' :=
  (Moves.refl s).inner h

/-- A step that only changes the table. -/
theorem Moves.of_change {s s' : Sim} (h : Change s.table s'.table) (hl : s'.txLog = s.txLog)
    (hc : s'.txCount = s.txCount) (ht : s'.tp20 = s.tp20) (hp : s'.pins = s.pins) : Moves s s' := by
  refine ⟨h, ?_, ?_, by rw [ht]; exact id, by rw [hp]; exact id⟩
  · unfold Sim.repeated
    rw [hl]
  · rw [hl, hc]
    exact id

theorem Moves.ok {s s1 : Sim} (e : Setup) (h : Moves s s1) : Moves s (s1.ok e) :=
  h.inner (ok_inner e s1)

theorem moves_err (e : Setup) (s : Sim) (code : Nat) : Moves s (s.err e code) :=
  .of_inner (err_inner e s code)

/-! ## 3. Channels, pins, configuration -/

/-- A channel that was found is in the table under its number. -/
theorem find_some {s : Sim} {ch : Option Nat} {i : Fin 10} {c : Channel}
    (h : s.find ch = some (i, c)) : ch = some i.val ∧ s.channels.lookup i = some c := by
  unfold Sim.find at h
  cases ch with
  | none => cases h
  | some n =>
      have h' : (if hn : n < 10 then (s.channels.lookup ⟨n, hn⟩).map fun c => (⟨n, hn⟩, c)
        else none) = some (i, c) := h
      split at h'
      · rename_i hn
        obtain ⟨c', hc, e⟩ := Option.map_eq_some_iff.mp h'
        cases e
        exact ⟨rfl, hc⟩
      · cases h'

theorem find_val (s : Sim) (i : Fin 10) :
    s.find (some i.val) = (s.channels.lookup i).map fun c => (i, c) := by
  unfold Sim.find
  rw [Option.bind_some, dif_pos i.isLt]

theorem find_isSome (s : Sim) (i : Fin 10) :
    (s.find (some i.val)).isSome = true ↔ i ∈ s.channels := by
  rw [find_val, Option.isSome_map]
  exact AList.lookup_isSome

theorem cmdOpen_moves (e : Setup) (s : Sim) (rest : Bytes) : Moves s (s.cmdOpen e rest) := by
  unfold Sim.cmdOpen
  split
  · rename_i ch a0 a1 _ _ _ _
    split
    · rename_i hsup
      split
      · exact moves_err e s _
      rename_i hfree
      split
      · exact moves_err e s _
      rename_i hline
      split
      · rename_i flags baud _ _
        refine Moves.ok e (.of_change ?_ rfl rfl rfl rfl)
        refine .opened ⟨ch, supported_lt hsup⟩ flags baud hsup
          (fun hmem => hfree ((find_isSome s ⟨ch, supported_lt hsup⟩).mpr hmem)) ?_
        -- the other channel on the line would have been found
        intro p hp hon j hj hmem
        refine hline (List.any_eq_true.mpr ⟨p, hp, ?_⟩)
        rw [decide_eq_true hon, Bool.true_and, Bool.or_eq_true]
        have hfound := (find_isSome s j).mpr hmem
        rcases hj with hj | hj
        · exact Or.inl (hj ▸ hfound)
        · exact Or.inr (hj ▸ hfound)
      · exact moves_err e s _
    · exact moves_err e s _
  · exact moves_err e s _

theorem cmdClose_moves (e : Setup) (s : Sim) (rest : Bytes) : Moves s (s.cmdClose e rest) := by
  unfold Sim.cmdClose
  split
  · exact moves_err e s _
  · rename_i ch _
    refine Moves.ok e ?_
    unfold Sim.dropChannel
    split
    · rename_i h
      exact .of_change (.shut ⟨ch, h⟩) rfl rfl rfl rfl
    · exact .refl s

theorem cmdReadPin_moves (e : Setup) (s : Sim) (rest : Bytes) : Moves s (s.cmdReadPin e rest) := by
  unfold Sim.cmdReadPin
  split
  · exact moves_err e s _
  · split
    · exact moves_err e s _
    · exact .of_inner (reply_inner e s _)

theorem readablePins_sound : PinsSound readablePins := by
  refine ⟨fun p => ?_, ⟨by decide, by decide⟩, ?_, ?_⟩
  · have hk : readablePins.keys = [8, 12, 16, 17] := by decide
    rw [AList.mem_keys, hk]
    simp
  · intro v hv
    have h12 : readablePins.lookup 12 = some 0 := by decide
    rw [h12] at hv
    exact Or.inl (Option.some.inj hv).symm
  · intro v hv
    have h17 : readablePins.lookup 17 = some 5751 := by decide
    rw [h17] at hv
    rw [← Option.some.inj hv]
    decide

/-- Pin 12 is set to nothing, or to a voltage the cable gives out. -/
theorem PinsSound.jackSet {pins : Dict Int Int} (h : PinsSound pins) {v : Int}
    (hv : v = 0 ∨ (voltageMinMv ≤ v ∧ v ≤ voltageMaxMv)) : PinsSound (pins.insert 12 v) := by
  refine ⟨fun p => ?_, ⟨?_, ?_⟩, ?_, ?_⟩
  · rw [AList.mem_insert, h.keys]
    omega
  · rw [AList.lookup_insert_ne (by decide)]
    exact h.fixed.1
  · rw [AList.lookup_insert_ne (by decide)]
    exact h.fixed.2
  · intro w hw
    rw [AList.lookup_insert] at hw
    rw [← Option.some.inj hw]
    exact hv
  · intro w hw
    rw [AList.lookup_insert_ne (by decide)] at hw
    exact h.supply w hw

theorem PinsSound.supplySet {pins : Dict Int Int} (h : PinsSound pins) {v : Int}
    (hv : voltageMinMv ≤ v ∧ v ≤ voltageMaxMv) : PinsSound (pins.insert 17 v) := by
  refine ⟨fun p => ?_, ⟨?_, ?_⟩, ?_, ?_⟩
  · rw [AList.mem_insert, h.keys]
    omega
  · rw [AList.lookup_insert_ne (by decide)]
    exact h.fixed.1
  · rw [AList.lookup_insert_ne (by decide)]
    exact h.fixed.2
  · intro w hw
    rw [AList.lookup_insert_ne (by decide)] at hw
    exact h.jack w hw
  · intro w hw
    rw [AList.lookup_insert] at hw
    rw [← Option.some.inj hw]
    exact hv

theorem drivePin_sound {s : Sim} (h : PinsSound s.pins) (pin : Int) {v : Int}
    (hv : v = 0 ∨ (voltageMinMv ≤ v ∧ v ≤ voltageMaxMv)) : PinsSound (s.drivePin pin v).pins := by
  unfold Sim.drivePin
  split
  · exact h.jackSet hv
  · exact h

/-- A pin is driven, and nothing else. -/
theorem drivePin_rest (s : Sim) (pin mv : Int) :
    s.drivePin pin mv = { s with pins := (s.drivePin pin mv).pins } := by
  unfold Sim.drivePin
  split <;> rfl

/-- A step that only sets pins. -/
theorem moves_pins {s : Sim} {pins : Dict Int Int} (h : PinsSound s.pins → PinsSound pins) :
    Moves s { s with pins := pins } := ⟨.same, rfl, id, id, h⟩

theorem cmdVoltage_moves (e : Setup) (s : Sim) (rest : Bytes) : Moves s (s.cmdVoltage e rest) := by
  unfold Sim.cmdVoltage
  split
  · split
    · rename_i pin v _ _
      simp only
      split
      · split
        · exact moves_err e s _
        · refine Moves.ok e ?_
          rw [drivePin_rest]
          exact moves_pins fun h => drivePin_sound h pin (Or.inl rfl)
      · split
        · exact moves_err e s _
        split
        · exact moves_err e s _
        split
        · exact moves_err e s _
        · rename_i hlo hhi
          have hv : voltageMinMv ≤ v % 2 ^ 32 ∧ v % 2 ^ 32 ≤ voltageMaxMv :=
            ⟨Int.not_lt.mp hlo, Int.not_lt.mp hhi⟩
          refine Moves.ok e ?_
          rw [drivePin_rest]
          exact moves_pins fun h => drivePin_sound (s := { s with pins := _ }) (h.supplySet hv) pin
            (Or.inr hv)
    · exact moves_err e s _
  · exact moves_err e s _

theorem cmdGetConfig_moves (e : Setup) (s : Sim) (rest : Bytes) :
    Moves s (s.cmdGetConfig e rest) := by
  unfold Sim.cmdGetConfig
  split
  · split
    · exact moves_err e s _
    · split
      · exact moves_err e s _
      · exact .of_inner (reply_inner e s _)
  · exact moves_err e s _

theorem cmdSetConfig_moves (e : Setup) (s : Sim) (rest : Bytes) :
    Moves s (s.cmdSetConfig e rest) := by
  unfold Sim.cmdSetConfig
  split
  · rename_i i c _ _ _ hfind _
    split
    · rename_i param value _ _
      split
      · exact moves_err e s _
      · rename_i hmem
        refine Moves.ok e (.of_change ?_ rfl rfl rfl rfl)
        exact .configured i c param value (find_some hfind).2 (not_not.mp hmem)
    · exact moves_err e s _
  · exact moves_err e s _

/-! ## 4. Filters and periodic messages -/

/-- A message of a filter whose payload is as long as its messages together. -/
theorem filterMsg_length {payload : Bytes} {each n k : Nat} (h : payload.length = n * each)
    (hk : k < n) : (filterMsg payload each k).length = each := by
  unfold filterMsg
  have hle : (k + 1) * each ≤ n * each := Nat.mul_le_mul_right each hk
  rw [List.length_take, List.length_drop, h]
  rw [Nat.succ_mul] at hle
  omega

/-- The filter `_cmd_filter` makes of a payload of the right length. -/
theorem filter_sound {type each : Int} {payload : Bytes} (htype : filterParts type ≠ 0)
    (hlen : (payload.length : Int) = filterParts type * each) :
    Filter.Sound
      { type := type, mask := filterMsg payload each.toNat 0
        pattern := filterMsg payload each.toNat 1
        flow := if filterParts type = 3 then some (filterMsg payload each.toNat 2) else none } := by
  have hcases : (type = 1 ∨ type = 2) ∧ filterParts type = 2 ∨ type = 3 ∧ filterParts type = 3 := by
    unfold filterParts at htype ⊢
    split
    · rename_i h
      exact Or.inl ⟨h, rfl⟩
    · rename_i h
      rw [if_neg h] at htype
      split
      · rename_i h3
        exact Or.inr ⟨h3, rfl⟩
      · rename_i h3
        rw [if_neg h3] at htype
        exact absurd rfl htype
  rcases hcases with ⟨ht, hp⟩ | ⟨ht, hp⟩
  · have hn : payload.length = 2 * each.toNat := by
      rw [hp] at hlen
      omega
    refine ⟨ht.imp_right Or.inl, ?_, ?_, ?_⟩
    · show (filterMsg payload each.toNat 1).length = (filterMsg payload each.toNat 0).length
      rw [filterMsg_length hn (by decide), filterMsg_length hn (by decide)]
    · simp only [hp]
      constructor
      · intro h
        cases h
      · intro h
        omega
    · intro m hm
      simp only [hp] at hm
      cases hm
  · have hn : payload.length = 3 * each.toNat := by
      rw [hp] at hlen
      omega
    refine ⟨Or.inr (Or.inr ht), ?_, ?_, ?_⟩
    · show (filterMsg payload each.toNat 1).length = (filterMsg payload each.toNat 0).length
      rw [filterMsg_length hn (by decide), filterMsg_length hn (by decide)]
    · simp only [hp]
      exact ⟨fun _ => ht, fun _ => rfl⟩
    · intro m hm
      simp only [hp, if_true] at hm
      rw [← Option.some.inj hm]
      show (filterMsg payload each.toNat 2).length = (filterMsg payload each.toNat 0).length
      rw [filterMsg_length hn (by decide), filterMsg_length hn (by decide)]

theorem cmdFilter_moves (e : Setup) (s : Sim) (rest payload : Bytes) :
    Moves s (s.cmdFilter e rest payload) := by
  unfold Sim.cmdFilter
  split
  · rename_i i c _ _ _ _ hfind _
    split
    · rename_i type _ each _ _ _
      split
      · exact moves_err e s _
      rename_i htype
      split
      · exact moves_err e s _
      rename_i hlen
      split
      · exact moves_err e s _
      rename_i hroom
      refine Moves.inner ?_ (reply_inner e _ _)
      refine .of_change ?_ rfl rfl rfl rfl
      exact .filtered i c _ (find_some hfind).2 (Nat.lt_of_not_le hroom)
        (filter_sound htype (not_not.mp hlen))
    · exact moves_err e s _
  · exact moves_err e s _

theorem erase_sublist {κ ν : Type} [DecidableEq κ] (d : Dict κ ν) (k : κ) :
    (d.erase k).entries.Sublist d.entries := List.kerase_sublist k d.entries

theorem cmdStopFilter_moves (e : Setup) (s : Sim) (rest : Bytes) :
    Moves s (s.cmdStopFilter e rest) := by
  unfold Sim.cmdStopFilter
  split
  · rename_i i c _ _ hfind _
    split
    · exact moves_err e s _
    · split
      · refine Moves.ok e (.of_change ?_ rfl rfl rfl rfl)
        exact .unfiltered i c ∅ (find_some hfind).2 (List.nil_sublist _)
      · split
        · exact moves_err e s _
        · refine Moves.ok e (.of_change ?_ rfl rfl rfl rfl)
          exact .unfiltered i c _ (find_some hfind).2 (erase_sublist _ _)
  · exact moves_err e s _

theorem cmdPeriodicVendor_moves (e : Setup) (s : Sim) (rest payload : Bytes) :
    Moves s (s.cmdPeriodicVendor e rest payload) := by
  unfold Sim.cmdPeriodicVendor
  split
  · rename_i i c _ _ _ _ _ hfind _
    split
    · split
      · exact moves_err e s _
      split
      · exact moves_err e s _
      rename_i hroom
      refine Moves.inner ?_ (reply_inner e _ _)
      refine .of_change ?_ rfl rfl rfl rfl
      exact .scheduled i c _ (find_some hfind).2 (Nat.lt_of_not_le hroom)
    · exact moves_err e s _
  · exact moves_err e s _

theorem cmdClearPeriodic_moves (e : Setup) (s : Sim) (rest : Bytes) :
    Moves s (s.cmdClearPeriodic e rest) := by
  unfold Sim.cmdClearPeriodic
  split
  · exact .of_inner (ok_inner e s)
  · rename_i i c hfind
    refine Moves.ok e (.of_change ?_ rfl rfl rfl rfl)
    exact .unscheduled i c ∅ (find_some hfind).2 (List.nil_sublist _)

theorem cmdPeriodicStop_moves (e : Setup) (s : Sim) (rest : Bytes) :
    Moves s (s.cmdPeriodicStop e rest) := by
  unfold Sim.cmdPeriodicStop
  split
  · rename_i i c _ _ hfind _
    split
    · exact moves_err e s _
    · split
      · exact moves_err e s _
      · refine Moves.ok e (.of_change ?_ rfl rfl rfl rfl)
        exact .unscheduled i c _ (find_some hfind).2 (erase_sublist _ _)
  · exact moves_err e s _

end Openport.Simulator
