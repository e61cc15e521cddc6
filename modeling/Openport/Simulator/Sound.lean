/-
  File:      Openport/Simulator/Sound.lean
  Subject:   What holds of the simulated cable in every run, and when a run raises.

  `Table.Sound` is the invariant: lines that are not shared, ids that were given
  out, at most ten filters and periodic messages a channel, and exactly one thread
  for a periodic message. Every `Change` keeps it (`Change.sound`), every step is a
  change (`Openport/Simulator/Steps.lean`), so every run keeps it (`run_sound`).
-/
import Openport.Simulator.Steps

namespace Openport.Simulator

open Lib Lib.Decimal

/-! ## 1. Dicts -/

theorem lookup_insert_cases {κ ν : Type} [DecidableEq κ] {d : Dict κ ν} {i j : κ} {v w : ν}
    (h : (d.insert i v).lookup j = some w) : j = i ∧ w = v ∨ j ≠ i ∧ d.lookup j = some w := by
  by_cases e : j = i
  · subst e
    rw [AList.lookup_insert] at h
    exact Or.inl ⟨rfl, (Option.some.inj h).symm⟩
  · rw [AList.lookup_insert_ne e] at h
    exact Or.inr ⟨e, h⟩

theorem lookup_erase_some {κ ν : Type} [DecidableEq κ] {d : Dict κ ν} {i j : κ} {w : ν}
    (h : (d.erase i).lookup j = some w) : d.lookup j = some w := by
  by_cases e : j = i
  · subst e
    rw [AList.lookup_erase] at h
    cases h
  · rwa [AList.lookup_erase_ne e] at h

/-- What is left of a dict was in it. -/
theorem lookup_sublist {κ ν : Type} [DecidableEq κ] {d d' : Dict κ ν} {k : κ} {v : ν}
    (hs : d'.entries.Sublist d.entries) (h : d'.lookup k = some v) : d.lookup k = some v :=
  List.sublist_dlookup d.nodupKeys hs h

theorem mem_of_lookup {κ ν : Type} [DecidableEq κ] {d : Dict κ ν} {k : κ} {v : ν}
    (h : d.lookup k = some v) : k ∈ d := by
  rw [← AList.lookup_isSome, h]
  rfl

theorem exists_lookup {κ ν : Type} [DecidableEq κ] {d : Dict κ ν} {k : κ} (h : k ∈ d) :
    ∃ v, d.lookup k = some v := Option.isSome_iff_exists.mp (AList.lookup_isSome.mpr h)

/-- One more entry at most. -/
theorem insert_entries_length {κ ν : Type} [DecidableEq κ] (d : Dict κ ν) (k : κ) (v : ν) :
    (d.insert k v).entries.length ≤ d.entries.length + 1 := by
  rw [AList.entries_insert, List.length_cons]
  exact Nat.succ_le_succ (List.kerase_sublist k d.entries).length_le

/-! ## 2. The invariant -/

/-- What holds of a channel that is open. -/
structure Channel.Sound (t : Table) (i : Fin 10) (c : Channel) : Prop where
  supported : i.val ∈ supportedProtocols
  proto : c.proto = i.val
  born : c.born < t.born
  /-- its parameters are those of its protocol -/
  config : ∀ k, k ∈ c.config ↔ k ∈ paramsByProtocol i.val
  filters : ∀ id f, c.filters.lookup id = some f → 0 ≤ id ∧ id < t.nextFilterId ∧ f.Sound
  filtersRoom : c.filters.entries.length ≤ perChannel
  periodic : ∀ id p, c.periodic.lookup id = some p → 0 ≤ id ∧ id < t.nextPeriodicId
  periodicRoom : c.periodic.entries.length ≤ perChannel

/-- The thread of a message. -/
def threadOf (i : Fin 10) (c : Channel) (id : Int) (th : Engine) : Prop :=
  th.channel = i ∧ th.born = c.born ∧ th.pid = id

/-- **What holds of the channels and the threads in every run.** -/
structure Table.Sound (t : Table) : Prop where
  channel : ∀ i c, t.channels.lookup i = some c → c.Sound t i
  /-- protocols on one line are never open together -/
  apart : ∀ p ∈ sharedLines, ∀ i j : Fin 10, i.val = p.1 → j.val = p.2 → i ∈ t.channels →
    j ∉ t.channels
  /-- no id is given out twice, on whatever channel -/
  filterOnce : ∀ i j c d id, t.channels.lookup i = some c → t.channels.lookup j = some d →
    id ∈ c.filters → id ∈ d.filters → i = j
  periodicOnce : ∀ i j c d id, t.channels.lookup i = some c → t.channels.lookup j = some d →
    id ∈ c.periodic → id ∈ d.periodic → i = j
  threads : ∀ th ∈ t.engines, th.born < t.born ∧ 0 ≤ th.pid ∧ th.pid < t.nextPeriodicId
  /-- no message has two threads -/
  threadOnce : (t.engines.map Engine.pid).Nodup
  /-- every message has one, unless it cannot be slept for -/
  driven : ∀ i c id p, t.channels.lookup i = some c → c.periodic.lookup id = some p →
    p.Sleeps → t.closed = false → ∃ th ∈ t.engines, threadOf i c id th
  /-- what a thread sleeps for is still what its entry says -/
  asleep : ∀ th ∈ t.engines, ∀ p, th.asleep = some p → ∀ c q, t.entryOf th = some (c, q) → q = p

theorem entryOf_some {t : Table} {th : Engine} {c : Channel} {p : Periodic} :
    t.entryOf th = some (c, p) ↔ t.channels.lookup th.channel = some c ∧ c.born = th.born ∧
      c.periodic.lookup th.pid = some p := by
  unfold Table.entryOf
  constructor
  · intro h
    obtain ⟨d, hd, h⟩ := Option.bind_eq_some_iff.mp h
    obtain ⟨q, hq, e⟩ := Option.map_eq_some_iff.mp h
    cases e
    obtain ⟨hl, hb⟩ := Option.filter_eq_some_iff.mp hd
    exact ⟨hl, of_decide_eq_true hb, hq⟩
  · rintro ⟨hl, hb, hp⟩
    rw [hl, Option.filter_some, if_pos (decide_eq_true hb), Option.bind_some, hp]
    rfl

/-- Counters that went on keep a channel sound. -/
theorem Channel.Sound.mono {t t' : Table} {i : Fin 10} {c : Channel} (h : c.Sound t i)
    (hb : t.born ≤ t'.born) (hf : t.nextFilterId ≤ t'.nextFilterId)
    (hp : t.nextPeriodicId ≤ t'.nextPeriodicId) : c.Sound t' i := by
  refine ⟨h.supported, h.proto, Nat.lt_of_lt_of_le h.born hb, h.config, ?_, h.filtersRoom, ?_,
    h.periodicRoom⟩
  · intro id f hl
    obtain ⟨h0, hlt, hs⟩ := h.filters id f hl
    exact ⟨h0, by omega, hs⟩
  · intro id p hl
    obtain ⟨h0, hlt⟩ := h.periodic id p hl
    exact ⟨h0, by omega⟩

/-! ## 3. Every change keeps it -/

section Change

variable {t : Table}

/-- The channels do not speak of the threads. -/
theorem Table.Sound.channels (h : t.Sound) {es : List Engine} {closed : Bool} (i : Fin 10)
    (c : Channel) (hl : t.channels.lookup i = some c) :
    c.Sound { t with engines := es, closed := closed } i :=
  (h.channel i c hl).mono (Nat.le_refl _) (Nat.le_refl _) (Nat.le_refl _)

/-- Channels go away. -/
theorem Table.Sound.fewer (h : t.Sound) {channels : Dict (Fin 10) Channel} {next : Nat}
    (hc : ∀ i c, channels.lookup i = some c → t.channels.lookup i = some c)
    (hn : next = t.nextFilterId ∨ channels = ∅) :
    ({ t with channels := channels, nextFilterId := next } : Table).Sound := by
  have hmem : ∀ i, i ∈ channels → i ∈ t.channels := by
    intro i hi
    obtain ⟨c, hl⟩ := exists_lookup hi
    exact mem_of_lookup (hc i c hl)
  refine ⟨?_, ?_, ?_, ?_, h.threads, h.threadOnce, ?_, ?_⟩
  · intro i c hl
    rcases hn with rfl | rfl
    · exact (h.channel i c (hc i c hl)).mono (Nat.le_refl _) (Nat.le_refl _) (Nat.le_refl _)
    · cases hl
  · exact fun p hp i j hi hj hmi hmj => h.apart p hp i j hi hj (hmem i hmi) (hmem j hmj)
  · exact fun i j c d id hi hj => h.filterOnce i j c d id (hc i c hi) (hc j d hj)
  · exact fun i j c d id hi hj => h.periodicOnce i j c d id (hc i c hi) (hc j d hj)
  · exact fun i c id p hi => h.driven i c id p (hc i c hi)
  · intro th hth p hp c q he
    obtain ⟨hl, hb, hq⟩ := entryOf_some.mp he
    exact h.asleep th hth p hp c q (entryOf_some.mpr ⟨hc _ c hl, hb, hq⟩)

/-- What a command makes of one channel, with the counters and the threads after it. -/
structure Edit (t : Table) (i : Fin 10) (c c' : Channel) (nf np : Nat) (es : List Engine) :
    Prop where
  found : t.channels.lookup i = some c
  proto : c'.proto = c.proto
  born : c'.born = c.born
  config : ∀ k, k ∈ c'.config ↔ k ∈ c.config
  filtersRoom : c'.filters.entries.length ≤ perChannel
  periodicRoom : c'.periodic.entries.length ≤ perChannel
  nextFilter : t.nextFilterId ≤ nf
  nextPeriodic : t.nextPeriodicId ≤ np
  /-- a filter was there, or takes the next id -/
  filters : ∀ id f, c'.filters.lookup id = some f → c.filters.lookup id = some f ∨
    id = t.nextFilterId ∧ t.nextFilterId < nf ∧ f.Sound
  /-- a message was there, or takes the next id and a thread -/
  periodic : ∀ id p, c'.periodic.lookup id = some p → c.periodic.lookup id = some p ∨
    id = t.nextPeriodicId ∧ t.nextPeriodicId < np ∧ ∃ th ∈ es, threadOf i c id th
  engines : es = t.engines ∨ t.nextPeriodicId < np ∧
    es = t.engines ++ [{ channel := i, born := c.born, pid := t.nextPeriodicId }]

theorem Table.Sound.edit (h : t.Sound) {i : Fin 10} {c c' : Channel} {nf np : Nat}
    {es : List Engine} (he : Edit t i c c' nf np es) :
    ({ t with channels := t.channels.insert i c', nextFilterId := nf, nextPeriodicId := np
              engines := es } : Table).Sound := by
  have hsound := h.channel i c he.found
  -- an id of the new channel that another channel has was not the next one
  have hold : ∀ j d, t.channels.lookup j = some d → ∀ id, id ∈ c'.filters → id ∈ d.filters →
      id ∈ c.filters := by
    intro j d hj id hid hd
    obtain ⟨f, hf⟩ := exists_lookup hid
    rcases he.filters id f hf with hf | ⟨hnext, -, -⟩
    · exact mem_of_lookup hf
    · obtain ⟨g, hg⟩ := exists_lookup hd
      have := ((h.channel j d hj).filters id g hg).2.1
      omega
  have hold' : ∀ j d, t.channels.lookup j = some d → ∀ id, id ∈ c'.periodic → id ∈ d.periodic →
      id ∈ c.periodic := by
    intro j d hj id hid hd
    obtain ⟨p, hp⟩ := exists_lookup hid
    rcases he.periodic id p hp with hp | ⟨hnext, -, -⟩
    · exact mem_of_lookup hp
    · obtain ⟨q, hq⟩ := exists_lookup hd
      have := ((h.channel j d hj).periodic id q hq).2
      omega
  have hkept : ∀ th ∈ t.engines, th ∈ es := by
    intro th hth
    rcases he.engines with rfl | ⟨-, rfl⟩
    · exact hth
    · exact List.mem_append_left _ hth
  have hmem : ∀ j, j ∈ t.channels.insert i c' → j ∈ t.channels := by
    intro j hj
    rcases (AList.mem_insert _).mp hj with rfl | hj
    · exact mem_of_lookup he.found
    · exact hj
  refine ⟨?_, ?_, ?_, ?_, ?_, ?_, ?_, ?_⟩
  · intro j d hl
    rcases lookup_insert_cases hl with ⟨rfl, rfl⟩ | ⟨-, hl⟩
    · refine ⟨hsound.supported, he.proto.trans hsound.proto, ?_, ?_, ?_, he.filtersRoom, ?_,
        he.periodicRoom⟩
      · rw [he.born]
        exact hsound.born
      · exact fun k => (he.config k).trans (hsound.config k)
      · intro id f hf
        have hnf := he.nextFilter
        rcases he.filters id f hf with hf | ⟨hid, hlt, hfs⟩
        · obtain ⟨h0, h1, h2⟩ := hsound.filters id f hf
          exact ⟨h0, by show id < (nf : Int); omega, h2⟩
        · exact ⟨by omega, by show id < (nf : Int); omega, hfs⟩
      · intro id p hp
        have hnp := he.nextPeriodic
        rcases he.periodic id p hp with hp | ⟨hid, hlt, -⟩
        · obtain ⟨h0, h1⟩ := hsound.periodic id p hp
          exact ⟨h0, by show id < (np : Int); omega⟩
        · exact ⟨by omega, by show id < (np : Int); omega⟩
    · exact (h.channel j d hl).mono (Nat.le_refl _) he.nextFilter he.nextPeriodic
  · exact fun p hp j k hj hk hmj hmk => h.apart p hp j k hj hk (hmem j hmj) (hmem k hmk)
  · intro j k d e id hj hk hd he'
    rcases lookup_insert_cases hj with ⟨rfl, rfl⟩ | ⟨-, hj'⟩
    · rcases lookup_insert_cases hk with ⟨rfl, rfl⟩ | ⟨-, hk'⟩
      · rfl
      · exact h.filterOnce j k c e id he.found hk' (hold k e hk' id hd he') he'
    · rcases lookup_insert_cases hk with ⟨rfl, rfl⟩ | ⟨-, hk'⟩
      · exact h.filterOnce j k d c id hj' he.found hd (hold j d hj' id he' hd)
      · exact h.filterOnce j k d e id hj' hk' hd he'
  · intro j k d e id hj hk hd he'
    rcases lookup_insert_cases hj with ⟨rfl, rfl⟩ | ⟨-, hj'⟩
    · rcases lookup_insert_cases hk with ⟨rfl, rfl⟩ | ⟨-, hk'⟩
      · rfl
      · exact h.periodicOnce j k c e id he.found hk' (hold' k e hk' id hd he') he'
    · rcases lookup_insert_cases hk with ⟨rfl, rfl⟩ | ⟨-, hk'⟩
      · exact h.periodicOnce j k d c id hj' he.found hd (hold' j d hj' id he' hd)
      · exact h.periodicOnce j k d e id hj' hk' hd he'
  · intro th hth
    have hnp := he.nextPeriodic
    have hthreads : ∀ th ∈ t.engines, th.born < t.born ∧ 0 ≤ th.pid ∧ th.pid < (np : Int) := by
      intro th hth
      obtain ⟨h1, h2, h3⟩ := h.threads th hth
      exact ⟨h1, h2, by omega⟩
    rcases he.engines with rfl | ⟨hlt, rfl⟩
    · exact hthreads th hth
    · rcases List.mem_append.mp hth with hth | hth
      · exact hthreads th hth
      · rw [List.mem_singleton.mp hth]
        exact ⟨hsound.born, Int.natCast_nonneg _, Int.ofNat_lt.mpr hlt⟩
  · rcases he.engines with rfl | ⟨-, rfl⟩
    · exact h.threadOnce
    · show ((t.engines ++ [_]).map Engine.pid).Nodup
      rw [List.map_append, List.map_singleton, List.nodup_append]
      refine ⟨h.threadOnce, List.nodup_singleton _, ?_⟩
      rintro x hx y hy rfl
      obtain ⟨th, hth, rfl⟩ := List.mem_map.mp hx
      have := (h.threads th hth).2.2
      have hnext : th.pid = (t.nextPeriodicId : Int) := List.mem_singleton.mp hy
      omega
  · intro j d id p hj hp h0 hclosed
    rcases lookup_insert_cases hj with ⟨rfl, rfl⟩ | ⟨-, hj⟩
    · rcases he.periodic id p hp with hp | ⟨-, -, th, hth, h1, h2, h3⟩
      · obtain ⟨th, hth, h1, h2, h3⟩ := h.driven j c id p he.found hp h0 hclosed
        exact ⟨th, hkept th hth, h1, h2.trans he.born.symm, h3⟩
      · exact ⟨th, hth, h1, h2.trans he.born.symm, h3⟩
    · obtain ⟨th, hth, ho⟩ := h.driven j d id p hj hp h0 hclosed
      exact ⟨th, hkept th hth, ho⟩
  · intro th hth p hp d q hq
    obtain ⟨hl, hb, hpl⟩ := entryOf_some.mp hq
    have hth' : th ∈ t.engines := by
      rcases he.engines with rfl | ⟨-, rfl⟩
      · exact hth
      · rcases List.mem_append.mp hth with hth | hth
        · exact hth
        · rw [List.mem_singleton.mp hth] at hp
          cases hp
    rcases lookup_insert_cases hl with ⟨hch, rfl⟩ | ⟨-, hl⟩
    · rcases he.periodic th.pid q hpl with hpl | ⟨hnext, -, -⟩
      · refine h.asleep th hth' p hp c q (entryOf_some.mpr ⟨?_, ?_, hpl⟩)
        · rw [hch]
          exact he.found
        · rw [← he.born]
          exact hb
      · have := (h.threads th hth').2.2
        omega
    · exact h.asleep th hth' p hp d q (entryOf_some.mpr ⟨hl, hb, hpl⟩)

/-- A new channel takes the parameters of its protocol. -/
theorem new_config {i : Nat} (h : i ∈ supportedProtocols) (flags baud : Int) (born : Nat) (k : Int) :
    k ∈ (Channel.new i flags baud born).config ↔ k ∈ paramsByProtocol i := by
  have h1 : ∀ i ∈ supportedProtocols, (1 : Int) ∈ paramsByProtocol i := by decide
  show k ∈ (paramsByProtocol i).insert 1 baud ↔ _
  rw [AList.mem_insert]
  refine ⟨fun hk => ?_, Or.inr⟩
  rcases hk with rfl | hk
  · exact h1 i h
  · exact hk

theorem Table.Sound.opened (h : t.Sound) {i : Fin 10} (hsup : i.val ∈ supportedProtocols)
    (hnew : i ∉ t.channels)
    (hline : ∀ p ∈ sharedLines, i.val = p.1 ∨ i.val = p.2 →
      ∀ j : Fin 10, j.val = p.1 ∨ j.val = p.2 → j ∉ t.channels) (flags baud : Int) :
    ({ t with channels := t.channels.insert i (.new i.val flags baud t.born)
              born := t.born + 1 } : Table).Sound := by
  have hnone : ∀ {κ ν : Type} [DecidableEq κ] (k : κ), k ∉ (∅ : Dict κ ν) :=
    fun k => AList.notMem_empty k
  refine ⟨?_, ?_, ?_, ?_, ?_, h.threadOnce, ?_, ?_⟩
  · intro j c hl
    rcases lookup_insert_cases hl with ⟨rfl, rfl⟩ | ⟨-, hl⟩
    · exact ⟨hsup, rfl, Nat.lt_succ_self _, new_config hsup flags baud t.born,
        (fun id f hf => nomatch hf), Nat.zero_le _, (fun id p hp => nomatch hp), Nat.zero_le _⟩
    · exact (h.channel j c hl).mono (Nat.le_succ _) (Nat.le_refl _) (Nat.le_refl _)
  · intro p hp j k hj hk hmj hmk
    rcases (AList.mem_insert _).mp hmj with rfl | hmj'
    · rcases (AList.mem_insert _).mp hmk with rfl | hmk'
      · -- the two channels of a line differ
        have hne : ∀ p ∈ sharedLines, p.1 ≠ p.2 := by decide
        exact hne p hp (hj.symm.trans hk)
      · exact hline p hp (Or.inl hj) k (Or.inr hk) hmk'
    · rcases (AList.mem_insert _).mp hmk with rfl | hmk'
      · exact hline p hp (Or.inr hk) j (Or.inl hj) hmj'
      · exact h.apart p hp j k hj hk hmj' hmk'
  · intro j k c d id hj hk hc hd
    rcases lookup_insert_cases hj with ⟨rfl, rfl⟩ | ⟨-, hj⟩
    · exact absurd hc (hnone id)
    · rcases lookup_insert_cases hk with ⟨rfl, rfl⟩ | ⟨-, hk⟩
      · exact absurd hd (hnone id)
      · exact h.filterOnce j k c d id hj hk hc hd
  · intro j k c d id hj hk hc hd
    rcases lookup_insert_cases hj with ⟨rfl, rfl⟩ | ⟨-, hj⟩
    · exact absurd hc (hnone id)
    · rcases lookup_insert_cases hk with ⟨rfl, rfl⟩ | ⟨-, hk⟩
      · exact absurd hd (hnone id)
      · exact h.periodicOnce j k c d id hj hk hc hd
  · intro th hth
    obtain ⟨h1, h2, h3⟩ := h.threads th hth
    exact ⟨Nat.lt_succ_of_lt h1, h2, h3⟩
  · intro j c id p hj hp h0 hclosed
    rcases lookup_insert_cases hj with ⟨rfl, rfl⟩ | ⟨-, hj⟩
    · cases hp
    · exact h.driven j c id p hj hp h0 hclosed
  · intro th hth p hp c q hq
    obtain ⟨hl, hb, hpl⟩ := entryOf_some.mp hq
    rcases lookup_insert_cases hl with ⟨-, rfl⟩ | ⟨-, hl⟩
    · cases hpl
    · exact h.asleep th hth p hp c q (entryOf_some.mpr ⟨hl, hb, hpl⟩)

/-- A thread that is not the one that ended is still there. -/
theorem mem_eraseIdx_of_ne {k : Nat} {th u : Engine} {es : List Engine} (hk : es[k]? = some th)
    (hu : u ∈ es) (hne : u ≠ th) : u ∈ es.eraseIdx k := by
  obtain ⟨n, hn⟩ := List.mem_iff_getElem?.mp hu
  rw [List.mem_eraseIdx_iff_getElem?]
  refine ⟨n, fun e => hne ?_, hn⟩
  subst e
  rw [hk] at hn
  exact (Option.some.inj hn).symm

/-- A thread that has no work left ends. -/
theorem Table.Sound.ended (h : t.Sound) {k : Nat} {th : Engine} (hk : t.engines[k]? = some th)
    (hend : t.entryOf th = none ∨ t.closed = true ∨
      (∃ c p, t.entryOf th = some (c, p) ∧ ¬p.Sleeps)) :
    ({ t with engines := t.engines.eraseIdx k } : Table).Sound := by
  have hmem : ∀ u ∈ t.engines.eraseIdx k, u ∈ t.engines := fun u hu => List.mem_of_mem_eraseIdx hu
  refine ⟨h.channels, h.apart, h.filterOnce, h.periodicOnce,
    fun u hu => h.threads u (hmem u hu), ?_, ?_, fun u hu => h.asleep u (hmem u hu)⟩
  · exact h.threadOnce.sublist ((List.eraseIdx_sublist _ k).map Engine.pid)
  · intro i c id p hi hp h0 hclosed
    obtain ⟨u, hu, h1, h2, h3⟩ := h.driven i c id p hi hp h0 hclosed
    refine ⟨u, mem_eraseIdx_of_ne hk hu ?_, h1, h2, h3⟩
    -- the thread of a message that is there, and can be slept for, does not end
    rintro rfl
    have he : t.entryOf u = some (c, p) :=
      entryOf_some.mpr ⟨by rw [h1]; exact hi, h2.symm, by rw [h3]; exact hp⟩
    rcases hend with hnone | hcl | ⟨d, q, hq, hneg⟩
    · rw [he] at hnone
      cases hnone
    · have hcl' : t.closed = false := hclosed
      rw [hcl'] at hcl
      cases hcl
    · rw [he] at hq
      cases hq
      exact hneg h0

theorem mem_set_cases {k : Nat} {th' u : Engine} {es : List Engine}
    (hu : u ∈ es.set k th') : u = th' ∨ u ∈ es := by
  rcases List.mem_or_eq_of_mem_set hu with hu | rfl
  · exact Or.inr hu
  · exact Or.inl rfl

/-- A thread goes to sleep, or wakes. -/
theorem Table.Sound.turned (h : t.Sound) {k : Nat} {th : Engine} (hk : t.engines[k]? = some th)
    {asleep : Option Periodic} (ha : ∀ p, asleep = some p → ∃ c, t.entryOf th = some (c, p)) :
    ({ t with engines := t.engines.set k { th with asleep := asleep } } : Table).Sound := by
  have hth : th ∈ t.engines := List.mem_of_getElem? hk
  have hmem : ∀ u ∈ t.engines.set k { th with asleep := asleep },
      u = { th with asleep := asleep } ∨ u ∈ t.engines := fun u hu => mem_set_cases hu
  refine ⟨h.channels, h.apart, h.filterOnce, h.periodicOnce, ?_, ?_, ?_, ?_⟩
  · intro u hu
    rcases hmem u hu with rfl | hu
    · exact h.threads th hth
    · exact h.threads u hu
  · have hsame : (t.engines.set k { th with asleep := asleep }).map Engine.pid =
        t.engines.map Engine.pid := by
      obtain ⟨hlt, hget⟩ := List.getElem?_eq_some_iff.mp hk
      have hlt' : k < (t.engines.map Engine.pid).length := by rwa [List.length_map]
      have hself : th.pid = (t.engines.map Engine.pid).get ⟨k, hlt'⟩ := by
        rw [List.get_eq_getElem, List.getElem_map, hget]
      rw [List.map_set]
      show (t.engines.map Engine.pid).set k th.pid = _
      rw [hself]
      exact List.set_getElem_self hlt'
    show ((t.engines.set k { th with asleep := asleep }).map Engine.pid).Nodup
    rw [hsame]
    exact h.threadOnce
  · intro i c id p hi hp h0 hclosed
    obtain ⟨u, hu, h1, h2, h3⟩ := h.driven i c id p hi hp h0 hclosed
    by_cases e : u = th
    · subst e
      refine ⟨{ u with asleep := asleep }, ?_, h1, h2, h3⟩
      exact List.mem_iff_getElem?.mpr ⟨k, by
        rw [List.getElem?_set_self' , hk]
        rfl⟩
    · obtain ⟨n, hn⟩ := List.mem_iff_getElem?.mp hu
      refine ⟨u, List.mem_iff_getElem?.mpr ⟨n, ?_⟩, h1, h2, h3⟩
      rw [List.getElem?_set_ne ?_]
      · exact hn
      · rintro rfl
        rw [hk] at hn
        exact e (Option.some.inj hn).symm
  · intro u hu p hp c q hq
    rcases hmem u hu with rfl | hu
    · obtain ⟨d, hd⟩ := ha p hp
      have hq' : t.entryOf th = some (c, q) := hq
      rw [hd] at hq'
      cases hq'
      rfl
    · exact h.asleep u hu p hp c q hq

/-- **Every change keeps what holds.** -/
theorem Change.sound {t' : Table} (hc : Change t t') (h : t.Sound) : t'.Sound := by
  cases hc with
  | same => exact h
  | opened i flags baud hsup hnew hline => exact h.opened hsup hnew hline flags baud
  | shut i => exact h.fewer (fun j c hl => lookup_erase_some hl) (Or.inl rfl)
  | cleared => exact h.fewer (fun j c hl => nomatch hl) (Or.inr rfl)
  | configured i c param value hi hmem =>
      have hs := h.channel i c hi
      refine h.edit
        ⟨hi, rfl, rfl, fun k => ?_, hs.filtersRoom, hs.periodicRoom, Nat.le_refl _, Nat.le_refl _,
          fun id f hf => Or.inl hf, fun id p hp => Or.inl hp, Or.inl rfl⟩
      show k ∈ c.config.insert param value ↔ k ∈ c.config
      rw [AList.mem_insert]
      refine ⟨fun hk => ?_, Or.inr⟩
      rcases hk with rfl | hk
      · exact hmem
      · exact hk
  | filtered i c f hi hroom hf =>
      have hs := h.channel i c hi
      refine h.edit
        ⟨hi, rfl, rfl, fun k => Iff.rfl, ?_, hs.periodicRoom, Nat.le_succ _, Nat.le_refl _,
          fun id g hg => ?_, fun id p hp => Or.inl hp, Or.inl rfl⟩
      · exact Nat.le_trans (insert_entries_length _ _ _) hroom
      · rcases lookup_insert_cases hg with ⟨hid, rfl⟩ | ⟨-, hg⟩
        · exact Or.inr ⟨hid, Nat.lt_succ_self _, hf⟩
        · exact Or.inl hg
  | unfiltered i c fs hi hsub =>
      have hs := h.channel i c hi
      exact h.edit
        ⟨hi, rfl, rfl, fun k => Iff.rfl, Nat.le_trans hsub.length_le hs.filtersRoom,
          hs.periodicRoom, Nat.le_refl _, Nat.le_refl _,
          fun id f hf => Or.inl (lookup_sublist hsub hf), fun id p hp => Or.inl hp, Or.inl rfl⟩
  | scheduled i c p hi hroom =>
      have hs := h.channel i c hi
      refine h.edit
        ⟨hi, rfl, rfl, fun k => Iff.rfl, hs.filtersRoom, ?_, Nat.le_refl _, Nat.le_succ _,
          fun id f hf => Or.inl hf, fun id q hq => ?_, Or.inr ⟨Nat.lt_succ_self _, rfl⟩⟩
      · exact Nat.le_trans (insert_entries_length _ _ _) hroom
      · rcases lookup_insert_cases hq with ⟨hid, -⟩ | ⟨-, hq⟩
        · exact Or.inr ⟨hid, Nat.lt_succ_self _, _,
            List.mem_append_right _ (List.mem_singleton_self _), rfl, rfl, hid.symm⟩
        · exact Or.inl hq
  | unscheduled i c ps hi hsub =>
      have hs := h.channel i c hi
      exact h.edit
        ⟨hi, rfl, rfl, fun k => Iff.rfl, hs.filtersRoom,
          Nat.le_trans hsub.length_le hs.periodicRoom, Nat.le_refl _, Nat.le_refl _,
          fun id f hf => Or.inl hf, fun id p hp => Or.inl (lookup_sublist hsub hp), Or.inl rfl⟩
  | ended k th hk hend => exact h.ended hk hend
  | turned k th asleep hk ha => exact h.turned hk ha
  | gone =>
      exact ⟨h.channels, h.apart, h.filterOnce, h.periodicOnce, h.threads,
        h.threadOnce, (fun i c id p hi hp h0 hcl => nomatch hcl), h.asleep⟩

end Change

/-! ## 4. Every run keeps it -/

/-- **What holds of the simulator in every run.** -/
structure Sim.Sound (s : Sim) : Prop where
  table : s.table.Sound
  /-- every transmit is counted and logged -/
  counted : s.txCount = s.txLog.length
  tp20 : s.tp20.Sound
  pins : PinsSound s.pins

theorem start_sound : Sim.Sound {} := by
  have hnone : ∀ (i : Fin 10) (c : Channel), ({} : Sim).channels.lookup i ≠ some c :=
    fun i c h => nomatch h
  refine ⟨⟨?_, ?_, ?_, ?_, ?_, List.nodup_nil, ?_, ?_⟩, rfl, ⟨rfl, fun w hw => nomatch hw⟩,
    readablePins_sound⟩
  · exact fun i c h => absurd h (hnone i c)
  · exact fun p _ i j _ _ hi => absurd hi (AList.notMem_empty i)
  · exact fun i j c d id h => absurd h (hnone i c)
  · exact fun i j c d id h => absurd h (hnone i c)
  · exact fun th h => absurd h List.not_mem_nil
  · exact fun i c id p h => absurd h (hnone i c)
  · exact fun th h => absurd h List.not_mem_nil

theorem Moves.sound {s s' : Sim} (h : Moves s s') (hs : s.Sound) : s'.Sound :=
  ⟨h.change.sound hs.table, h.counted hs.counted, h.tp20 hs.tp20, h.pins hs.pins⟩

theorem Turn.sound {e : Setup} {s s' : Sim} {k : Nat} (h : Turn e s k s') (hs : s.Sound) :
    s'.Sound := by
  have ht := h.change.sound hs.table
  cases h with
  | idle => exact hs
  | ended => exact ⟨ht, hs.counted, hs.tp20, hs.pins⟩
  | slept => exact ⟨ht, hs.counted, hs.tp20, hs.pins⟩
  | sent th c q p _ _ _ _ hf =>
      have hl : s'.txLog = s.txLog ++ [Transmit.mk th.channel.val p.payload true] :=
        inner_same Sim.txLog (fun _ => rfl) hf.inner
      have hn : s'.txCount = s.txCount + 1 := inner_same Sim.txCount (fun _ => rfl) hf.inner
      refine ⟨ht, ?_, ?_, ?_⟩
      · rw [hl, hn, List.length_append, hs.counted]
        rfl
      · rw [inner_same Sim.tp20 (fun _ => rfl) hf.inner]
        exact hs.tp20
      · rw [inner_same Sim.pins (fun _ => rfl) hf.inner]
        exact hs.pins

/-- **A step keeps what holds, or raises in `_tp20_reply`.** -/
theorem step_cases (e : Setup) {s : Sim} (hs : s.Sound) (ev : Event) :
    (s.step e ev = none ∧ ∃ req, req.length ≤ 0xffff ∧ tp20Reply e.ecu s.tp20.txSeq req = none) ∨
    ∃ s', s.step e ev = some s' ∧ s'.Sound ∧ Change s.table s'.table := by
  cases ev with
  | line line payload =>
      rcases handle_ends (e := e) hs.tp20 line payload with hr | ⟨s', hh, hm⟩
      · exact Or.inl hr
      · exact Or.inr ⟨s', hh, hm.sound hs, hm.change⟩
  | timer k =>
      obtain ⟨s', hf, hm⟩ := fire_moves e s k
      exact Or.inr ⟨s', hf, hm.sound hs, hm.change⟩
  | thread k =>
      obtain ⟨s', ht, hturn⟩ := turn_cases e s k
      exact Or.inr ⟨s', ht, hturn.sound hs, hturn.change⟩

theorem step_sound {e : Setup} {s s' : Sim} {ev : Event} (hs : s.Sound)
    (h : s.step e ev = some s') : s'.Sound ∧ Change s.table s'.table := by
  rcases step_cases e hs ev with ⟨hnone, -⟩ | ⟨s1, h1, hsound, hchange⟩
  · rw [hnone] at h
    cases h
  · rw [h1] at h
    obtain rfl := Option.some.inj h
    exact ⟨hsound, hchange⟩

end Openport.Simulator
