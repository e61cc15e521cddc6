/-
  File:      Openport/Simulator/Periodics.lean
  Subject:   What the periodic threads of the simulated cable send, in every run: the log
             is exact, every message was live when it was sent, and one that is stopped,
             cleared, or closed with its channel is never sent again.

  `sending` is the message a step sends, `sends` those of a run. `Dead` says that a
  message was scheduled and is gone; no change brings it back, because no id is
  given out twice.
-/
import Openport.Simulator.Sound

namespace Openport.Simulator

/-! ## 1. What a step sends -/

/-- The thread that sends in a step, and the message it sends. -/
def Sim.sending (s : Sim) : Event → Option (Engine × Periodic)
  | .thread k =>
    s.engines[k]?.bind fun th => (s.entryOf th).bind fun _ => th.asleep.map fun p => (th, p)
  | _ => none

/-- What the threads send in a run, oldest first. -/
def Sim.sends (e : Setup) : Sim → List Event → List (Engine × Periodic)
  | _, [] => []
  | s, ev :: events =>
    (s.sending ev).toList ++ ((s.step e ev).map fun s' => s'.sends e events).getD []

/-- **What is sent is live**: the channel it was scheduled on is still open and still has it. -/
theorem sending_live {s : Sim} (hs : s.table.Sound) {ev : Event} {th : Engine} {p : Periodic}
    (h : s.sending ev = some (th, p)) : ∃ c, s.channels.lookup th.channel = some c ∧
      c.born = th.born ∧ c.periodic.lookup th.pid = some p := by
  cases ev with
  | line | timer => cases h
  | thread k =>
      obtain ⟨u, hu, h⟩ := Option.bind_eq_some_iff.mp h
      obtain ⟨⟨c, q⟩, hq, h⟩ := Option.bind_eq_some_iff.mp h
      obtain ⟨p', hp, e⟩ := Option.map_eq_some_iff.mp h
      cases e
      have hentry : s.table.entryOf th = some (c, q) := hq
      obtain rfl : q = p := hs.asleep th (List.mem_of_getElem? hu) p hp c q hentry
      exact ⟨c, entryOf_some.mp hentry⟩

/-! ## 2. A message that is gone -/

/-- The id was given out, and no channel has the message any more. -/
structure Table.Dead (t : Table) (pid : Int) : Prop where
  given : pid < t.nextPeriodicId
  gone : ∀ i c, t.channels.lookup i = some c → pid ∉ c.periodic

/-- **No change brings it back.** -/
theorem Change.dead {t t' : Table} (h : Change t t') {pid : Int} (hd : t.Dead pid) : t'.Dead pid := by
  have hput : ∀ (i : Fin 10) (c c' : Channel), t.channels.lookup i = some c →
      (pid ∈ c'.periodic → pid ∈ c.periodic) →
      ∀ j d, (t.channels.insert i c').lookup j = some d → pid ∉ d.periodic := by
    intro i c c' hl hsub j d hj
    rcases lookup_insert_cases hj with ⟨-, rfl⟩ | ⟨-, hj⟩
    · exact fun hm => hd.gone i c hl (hsub hm)
    · exact hd.gone j d hj
  cases h with
  | same => exact hd
  | opened i flags baud =>
      refine ⟨hd.given, fun j d hj => ?_⟩
      rcases lookup_insert_cases hj with ⟨-, rfl⟩ | ⟨-, hj⟩
      · exact AList.notMem_empty pid
      · exact hd.gone j d hj
  | shut i => exact ⟨hd.given, fun j d hj => hd.gone j d (lookup_erase_some hj)⟩
  | cleared => exact ⟨hd.given, fun j d hj => nomatch hj⟩
  | configured i c param value hl => exact ⟨hd.given, hput i c _ hl id⟩
  | filtered i c f hl => exact ⟨hd.given, hput i c _ hl id⟩
  | unfiltered i c fs hl => exact ⟨hd.given, hput i c _ hl id⟩
  | scheduled i c p hl =>
      have hg := hd.given
      refine ⟨by show pid < ((t.nextPeriodicId + 1 : Nat) : Int); omega, hput i c _ hl fun hm => ?_⟩
      rcases (AList.mem_insert _).mp hm with rfl | hm
      · exact absurd hg (Int.lt_irrefl _)
      · exact hm
  | unscheduled i c ps hl hsub =>
      refine ⟨hd.given, hput i c _ hl fun hm => ?_⟩
      obtain ⟨p, hp⟩ := exists_lookup hm
      exact mem_of_lookup (lookup_sublist hsub hp)
  | ended | turned | gone => exact ⟨hd.given, hd.gone⟩

theorem dead_silent {s : Sim} (hs : s.table.Sound) {pid : Int} (hd : s.table.Dead pid) {ev : Event}
    {x : Engine × Periodic} (h : s.sending ev = some x) : x.1.pid ≠ pid := by
  rintro rfl
  obtain ⟨th, p⟩ := x
  obtain ⟨c, hl, -, hp⟩ := sending_live hs h
  exact hd.gone th.channel c hl (mem_of_lookup hp)

/-! ## 3. Every run -/

/-- **A message that is gone is never sent again**, in whatever order commands, timers and threads
    go on. -/
theorem dead_run {e : Setup} {pid : Int} : ∀ {events : List Event} {s : Sim}, s.Sound →
    s.table.Dead pid → ∀ x ∈ s.sends e events, x.1.pid ≠ pid
  | [], _, _, _, x, hx => absurd hx List.not_mem_nil
  | ev :: events, s, hs, hd, x, hx => by
      rcases List.mem_append.mp hx with hx | hx
      · exact dead_silent hs.table hd (Option.mem_toList.mp hx)
      · cases h1 : s.step e ev with
        | none =>
            rw [h1] at hx
            exact absurd hx List.not_mem_nil
        | some s1 =>
            rw [h1] at hx
            obtain ⟨hs1, hchange⟩ := step_sound hs h1
            exact dead_run hs1 (hchange.dead hd) x hx

end Openport.Simulator
