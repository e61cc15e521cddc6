/-
  File:      Openport/Stack/Tracked.lean
  Subject:   The cable's periodic messages are a `Schedule`, and it answers the
             commands about them as one does.

  `Tracks` relates the cable's books to the abstract schedule of
  `Openport/Api/Schedule.lean`. Each command that touches channels or periodic
  messages does to the books what the schedule does for its reply, so what is proved of
  the host against a schedule holds against the cable.
-/
import Openport.Stack.Asked

namespace Openport

open Lib Lib.Decimal Lib.Rows Simulator

/-! ## 1. What runs on the cable -/

/-- A periodic message is on a channel. -/
def Runs (channels : Dict (Fin 10) Channel) (i : Fin 10) (id : Int) : Prop :=
  ∃ c, channels.lookup i = some c ∧ id ∈ c.periodic

theorem runs_insert {channels : Dict (Fin 10) Channel} {i j : Fin 10} {d : Channel} {id : Int} :
    Runs (channels.insert j d) i id ↔ i = j ∧ id ∈ d.periodic ∨ i ≠ j ∧ Runs channels i id := by
  unfold Runs
  by_cases e : i = j
  · subst e
    rw [AList.lookup_insert]
    constructor
    · rintro ⟨c, hc, hid⟩
      obtain rfl := Option.some.inj hc
      exact Or.inl ⟨rfl, hid⟩
    · rintro (⟨-, hid⟩ | ⟨hne, -⟩)
      · exact ⟨d, rfl, hid⟩
      · exact absurd rfl hne
  · rw [AList.lookup_insert_ne e]
    constructor
    · exact fun h => Or.inr ⟨e, h⟩
    · rintro (⟨h, -⟩ | ⟨-, h⟩)
      · exact absurd h e
      · exact h

theorem runs_erase {channels : Dict (Fin 10) Channel} {i j : Fin 10} {id : Int} :
    Runs (channels.erase j) i id ↔ i ≠ j ∧ Runs channels i id := by
  unfold Runs
  by_cases e : i = j
  · subst e
    rw [AList.lookup_erase]
    constructor
    · rintro ⟨c, hc, -⟩
      cases hc
    · rintro ⟨hne, -⟩
      exact absurd rfl hne
  · rw [AList.lookup_erase_ne e]
    exact ⟨fun h => ⟨e, h⟩, fun h => h.2⟩

/-- A channel that is put back with its messages. -/
theorem runs_put {channels : Dict (Fin 10) Channel} {j : Fin 10} {c d : Channel}
    (hj : channels.lookup j = some c) (hd : d.periodic = c.periodic) {i : Fin 10} {id : Int} :
    Runs (channels.insert j d) i id ↔ Runs channels i id := by
  rw [runs_insert, hd]
  constructor
  · rintro (⟨rfl, hid⟩ | ⟨-, h⟩)
    · exact ⟨c, hj, hid⟩
    · exact h
  · rintro ⟨c', hc', hid⟩
    by_cases e : i = j
    · subst e
      obtain rfl := Option.some.inj (hj.symm.trans hc')
      exact Or.inl ⟨rfl, hid⟩
    · exact Or.inr ⟨e, c', hc', hid⟩

/-! ## 2. As a schedule -/

/-- **The schedule has what runs on the cable**, and every id in either was given out. -/
structure Tracks (b : Books) (p : Schedule) : Prop where
  live : ∀ (i : Fin 10) (id : UInt32), id ∈ p.live i.val ↔ Runs b.channels i id.toNat
  used : ∀ id ∈ p.used, id.toNat < b.nextPeriodicId
  ids : ∀ i id, Runs b.channels i id → 0 ≤ id ∧ id < b.nextPeriodicId

section Tracks

variable {b b' : Books} {p : Schedule} {i : Fin 10}

theorem Tracks.none (ht : Tracks b p) (hi : i ∉ b.channels) : p.live i.val = ∅ := by
  refine Finset.eq_empty_of_forall_notMem fun id hid => hi ?_
  obtain ⟨c, hc, -⟩ := (ht.live i id).mp hid
  exact mem_of_lookup hc

/-- As many run as the channel holds. -/
theorem Tracks.card (ht : Tracks b p) (hroom : b.nextPeriodicId < 2 ^ 32) {c : Channel}
    (hc : b.channels.lookup i = some c) : (p.live i.val).card = c.periodic.entries.length := by
  have hrange : ∀ id ∈ c.periodic.keys, 0 ≤ id ∧ id < 2 ^ 32 := by
    intro id hid
    obtain ⟨h0, h1⟩ := ht.ids i id ⟨c, hc, AList.mem_keys.mpr hid⟩
    exact ⟨h0, by omega⟩
  have hback : ∀ id ∈ c.periodic.keys, ((UInt32.ofNat id.toNat).toNat : Int) = id := by
    intro id hid
    obtain ⟨h0, h1⟩ := hrange id hid
    rw [ofNat_toNat (by omega), Int.toNat_of_nonneg h0]
  have hlive : p.live i.val = (c.periodic.keys.map fun id => UInt32.ofNat id.toNat).toFinset := by
    ext id
    rw [ht.live, List.mem_toFinset, List.mem_map]
    constructor
    · rintro ⟨c', hc', hid⟩
      obtain rfl := Option.some.inj (hc.symm.trans hc')
      refine ⟨_, AList.mem_keys.mp hid, ?_⟩
      rw [Int.toNat_natCast, UInt32.ofNat_toNat]
    · rintro ⟨k, hk, rfl⟩
      rw [hback k hk]
      exact ⟨c, hc, AList.mem_keys.mpr hk⟩
  have hnodup : (c.periodic.keys.map fun id => UInt32.ofNat id.toNat).Nodup := by
    refine List.Nodup.map_on ?_ c.periodic.keys_nodup
    intro x hx y hy e
    rw [← hback x hx, ← hback y hy, e]
  rw [hlive, List.toFinset_card_of_nodup hnodup, List.length_map]
  exact List.length_map _

/-- The books have the same messages, and none were given out. -/
theorem Tracks.still (ht : Tracks b p) (hruns : ∀ i id, Runs b'.channels i id ↔ Runs b.channels i id)
    (hnext : b'.nextPeriodicId = b.nextPeriodicId) : Tracks b' p := by
  refine ⟨fun i id => (ht.live i id).trans (hruns i _).symm, fun id hid => ?_, fun i id hid => ?_⟩
  · rw [hnext]
    exact ht.used id hid
  · rw [hnext]
    exact ht.ids i id ((hruns i id).mp hid)

/-- Everything on a channel stops. -/
theorem Tracks.cleared (ht : Tracks b p)
    (hruns : ∀ j id, Runs b'.channels j id ↔ j ≠ i ∧ Runs b.channels j id)
    (hnext : b'.nextPeriodicId = b.nextPeriodicId) : Tracks b' (p.clear i.val) := by
  refine ⟨fun j id => ?_, fun id hid => ?_, fun j id hid => ?_⟩
  · rw [hruns]
    by_cases e : j = i
    · subst e
      rw [Schedule.clear_live]
      exact ⟨fun h => absurd h (Finset.notMem_empty id), fun h => absurd rfl h.1⟩
    · rw [Schedule.clear_other fun h => e (Fin.ext h), ht.live]
      exact ⟨fun h => ⟨e, h⟩, fun h => h.2⟩
  · rw [hnext]
    exact ht.used id hid
  · rw [hnext]
    exact ht.ids j id ((hruns j id).mp hid).2

/-- A message begins, with the id that comes next. -/
theorem Tracks.started (ht : Tracks b p) (hroom : b.nextPeriodicId < 2 ^ 32) {c d : Channel}
    (hc : b.channels.lookup i = some c) {m : Periodic}
    (hd : d.periodic = c.periodic.insert (b.nextPeriodicId : Int) m)
    (hfew : (p.live i.val).card < opPeriodicPerCh)
    (hchannels : b'.channels = b.channels.insert i d)
    (hnext : b'.nextPeriodicId = b.nextPeriodicId + 1) :
    Tracks b' (p.start i.val (UInt32.ofNat b.nextPeriodicId) hfew) := by
  have hback : (UInt32.ofNat b.nextPeriodicId).toNat = b.nextPeriodicId := ofNat_toNat hroom
  refine ⟨fun k id => ?_, fun id hid => ?_, fun k id hrun => ?_⟩
  · rw [hchannels, runs_insert, hd]
    by_cases e : k = i
    · subst e
      rw [Schedule.start_live, Finset.mem_insert, ht.live]
      have hin : ((id.toNat : Int) ∈ c.periodic.insert (b.nextPeriodicId : Int) m) ↔
          id = UInt32.ofNat b.nextPeriodicId ∨ (id.toNat : Int) ∈ c.periodic := by
        rw [AList.mem_insert]
        refine or_congr_left ⟨fun e => ?_, fun e => ?_⟩
        · exact UInt32.toNat_inj.mp (by rw [hback]; exact Int.ofNat.inj e)
        · rw [e, hback]
      constructor
      · rintro (e | ⟨c', hc', hid⟩)
        · exact Or.inl ⟨rfl, hin.mpr (Or.inl e)⟩
        · obtain rfl := Option.some.inj (hc.symm.trans hc')
          exact Or.inl ⟨rfl, hin.mpr (Or.inr hid)⟩
      · rintro (⟨-, hid⟩ | ⟨hne, -⟩)
        · exact (hin.mp hid).imp_right fun hid => ⟨c, hc, hid⟩
        · exact absurd rfl hne
    · rw [Schedule.start_other fun h => e (Fin.ext h), ht.live]
      exact ⟨fun h => Or.inr ⟨e, h⟩, fun h => h.elim (fun h => absurd h.1 e) (·.2)⟩
  · rw [hnext]
    rcases Finset.mem_insert.mp hid with rfl | hid
    · rw [hback]
      exact Nat.lt_succ_self _
    · exact Nat.lt_succ_of_lt (ht.used id hid)
  · rw [hnext]
    have hold : Runs b.channels k id → 0 ≤ id ∧ id < ((b.nextPeriodicId + 1 : Nat) : Int) := by
      intro hr
      obtain ⟨h0, h1⟩ := ht.ids k id hr
      omega
    rw [hchannels, runs_insert, hd] at hrun
    rcases hrun with ⟨rfl, hid⟩ | ⟨-, hr⟩
    · rcases (AList.mem_insert _).mp hid with rfl | hid
      · omega
      · exact hold ⟨c, hc, hid⟩
    · exact hold hr

/-- A message stops. -/
theorem Tracks.stopped (ht : Tracks b p) {c d : Channel} (hc : b.channels.lookup i = some c)
    {v : UInt32} (hd : d.periodic = c.periodic.erase (arg v))
    (hchannels : b'.channels = b.channels.insert i d)
    (hnext : b'.nextPeriodicId = b.nextPeriodicId) : Tracks b' (p.stop i.val v) := by
  refine ⟨fun k id => ?_, fun id hid => ?_, fun k id hrun => ?_⟩
  · rw [hchannels, runs_insert, hd]
    by_cases e : k = i
    · subst e
      rw [Schedule.stop_live, Finset.mem_erase, ht.live]
      have hout : ((id.toNat : Int) ∈ c.periodic.erase (arg v)) ↔
          id ≠ v ∧ (id.toNat : Int) ∈ c.periodic := by
        rw [AList.mem_erase]
        refine and_congr_left fun _ => not_congr ⟨fun e => arg_inj e, fun e => ?_⟩
        rw [e]
        rfl
      constructor
      · rintro ⟨hne, c', hc', hid⟩
        obtain rfl := Option.some.inj (hc.symm.trans hc')
        exact Or.inl ⟨rfl, hout.mpr ⟨hne, hid⟩⟩
      · rintro (⟨-, hid⟩ | ⟨hne, -⟩)
        · exact ⟨(hout.mp hid).1, c, hc, (hout.mp hid).2⟩
        · exact absurd rfl hne
    · rw [Schedule.stop_other fun h => e (Fin.ext h), ht.live]
      exact ⟨fun h => Or.inr ⟨e, h⟩, fun h => h.elim (fun h => absurd h.1 e) (·.2)⟩
  · rw [hnext]
    exact ht.used id hid
  · rw [hnext]
    refine ht.ids k id ?_
    rw [hchannels, runs_insert, hd] at hrun
    rcases hrun with ⟨rfl, hid⟩ | ⟨-, hr⟩
    · exact ⟨c, hc, (AList.mem_erase.mp hid).2⟩
    · exact hr

end Tracks

/-! ## 3. The commands -/

/-- The verbs that touch channels or periodic messages. -/
def tableVerbs : List UInt8 := [0x61, 0x7a, 0x6f, 0x63, 0x6d, 0x6e, 0x6c]

section Commands

variable {b b' : Books} {p : Schedule} {g : Given} {q : WireRecord} {i : Fin 10}

/-- **Any other command leaves the schedule as it is.** -/
theorem other_obeys (ht : Tracks b p) (h : Specified b g q b') (hv : g.command.verb ∉ tableVerbs) :
    Tracks b' p := by
  have hbad : ∀ {P : Prop} {w : UInt8}, w ∈ tableVerbs → g.command.verb = w → P :=
    fun hw e => absurd (e ▸ hw) hv
  cases h with
  | info => exact ht
  | @answered t t' _ hb hc ha =>
      subst hb
      cases ha with
      | configured j c param value _ _ _ hj =>
          exact ht.still (fun _ _ =>
            runs_put (d := { c with config := c.config.insert param value }) hj rfl) rfl
      | filtered j c f _ _ hj =>
          exact ht.still (fun _ _ =>
            runs_put (d := { c with filters := c.filters.insert _ f }) hj rfl) rfl
      | unfiltered j c id fs _ _ _ hj =>
          exact ht.still (fun _ _ => runs_put (d := { c with filters := fs }) hj rfl) rfl
      | pin | config | done | refused => exact ht
      | reset hw => exact hw.elim (hbad (by decide)) (hbad (by decide))
      | opened _ _ _ _ hw => exact hbad (by decide) hw
      | shut _ hw => exact hbad (by decide) hw
      | scheduled _ _ _ _ _ _ hw => exact hbad (by decide) hw
      | full _ _ _ _ _ _ hw => exact hbad (by decide) hw
      | unscheduled _ _ _ hw => exact hbad (by decide) hw
      | unknown _ _ _ hw => exact hbad (by decide) hw
      | emptied _ _ hw => exact hbad (by decide) hw
      | nothing _ hw => exact hbad (by decide) hw

/-- `ato` begins with nothing on the channel. -/
theorem open_obeys (ht : Tracks b p) (h : Specified b g q b') (hv : g.command.verb = 0x6f) :
    Tracks b' p := by
  rcases h.does hv with ⟨-, rfl⟩ | ⟨j, flags, baud, more, -, -, hno, -, rfl⟩
  · exact ht
  · refine ht.still (fun k id => ?_) rfl
    show Runs (b.channels.insert j _) k id ↔ _
    rw [runs_insert]
    constructor
    · rintro (⟨-, hid⟩ | ⟨-, hr⟩)
      · exact absurd hid (AList.notMem_empty id)
      · exact hr
    · intro hr
      refine Or.inr ⟨?_, hr⟩
      rintro rfl
      obtain ⟨c, hc, -⟩ := hr
      exact hno (mem_of_lookup hc)

/-- `atc` stops what runs on its channel. -/
theorem close_obeys (ht : Tracks b p) (h : Specified b g q b') (hv : g.command.verb = 0x63)
    (hch : g.command.channel = some i.val) : Tracks b' (p.clear i.val) := by
  obtain ⟨j, hj, -, rfl⟩ := h.does hv
  obtain rfl : j = i := Fin.ext (Option.some.inj (hj.symm.trans hch))
  exact ht.cleared (fun _ _ => runs_erase) rfl

/-- **`atl` does what a schedule does.** -/
theorem clear_obeys (ht : Tracks b p) (h : Specified b g q b') (hv : g.command.verb = 0x6c)
    (hch : g.command.channel = some i.val) :
    ∃ p', p.Clear i.val (matchedReply q.val.reply) p' ∧ Tracks b' p' := by
  have hok : (matchedReply (okReply g.seq).val.reply).kind ≠ .error := fun e => nomatch e
  obtain ⟨j, hj, rfl, hdone⟩ := h.does hv
  obtain rfl : j = i := Fin.ext (Option.some.inj (hj.symm.trans hch))
  rcases hdone with ⟨hno, rfl⟩ | ⟨c, -, rfl⟩
  · refine ⟨_, .cleared hok, ht.cleared (fun k id => ⟨fun hr => ⟨?_, hr⟩, fun hr => hr.2⟩) rfl⟩
    rintro rfl
    obtain ⟨c, hc, -⟩ := hr
    exact hno (mem_of_lookup hc)
  · refine ⟨_, .cleared hok, ht.cleared (fun k id => ?_) rfl⟩
    show Runs (b.channels.insert j _) k id ↔ _
    rw [runs_insert]
    constructor
    · rintro (⟨-, hid⟩ | hr)
      · exact absurd hid (AList.notMem_empty id)
      · exact hr
    · exact Or.inr

/-- **`atm` does what a schedule does.** -/
theorem start_obeys (ht : Tracks b p) (h : Specified b g q b') (hv : g.command.verb = 0x6d)
    (hch : g.command.channel = some i.val) (hi : i ∈ b.channels)
    (hlen : g.command.args.getD 3 0 = g.payload.length) (hroom : b.nextPeriodicId < 2 ^ 32) :
    ∃ p', p.Start i.val (matchedReply q.val.reply) p' ∧ Tracks b' p' := by
  rcases h.does hv with ⟨-, hno⟩ | ⟨j, c, interval, txflags, hj, hl, hdone⟩
  · exact absurd hlen (hno i hch hi)
  obtain rfl : j = i := Fin.ext (Option.some.inj (hj.symm.trans hch))
  have hcard := ht.card hroom hl
  rcases hdone with ⟨hfull, rfl, rfl⟩ | ⟨hfew, rfl, rfl⟩
  · have hten : (p.live j.val).card = opPeriodicPerCh :=
      Nat.le_antisymm (p.room j.val) (by rw [hcard]; exact hfull)
    exact ⟨p, .declined rfl ⟨fun _ => hten, fun _ => rfl⟩, ht⟩
  · have hback : (UInt32.ofNat b.nextPeriodicId).toNat = b.nextPeriodicId := ofNat_toNat hroom
    have hfresh : UInt32.ofNat b.nextPeriodicId ∉ p.used := by
      intro hin
      have hlt := ht.used _ hin
      rw [hback] at hlt
      exact Nat.lt_irrefl _ hlt
    have hlt : (p.live j.val).card < opPeriodicPerCh := by
      rw [hcard]
      exact hfew
    exact ⟨_, .started hlt rfl hfresh, ht.started hroom hl rfl hlt rfl rfl⟩

/-- **`atn` does what a schedule does.** -/
theorem stop_obeys (ht : Tracks b p) (h : Specified b g q b') (hv : g.command.verb = 0x6e)
    (hch : g.command.channel = some i.val) (hi : i ∈ b.channels) {v : UInt32}
    (hargs : g.command.args = [arg v]) :
    ∃ p', p.Stop i.val (arg v) (matchedReply q.val.reply) p' ∧ Tracks b' p' := by
  rcases h.does hv with ⟨-, hno⟩ | ⟨j, c, id, hj, ha, hl, hdone⟩
  · exact absurd hi (hno i hch)
  obtain rfl : j = i := Fin.ext (Option.some.inj (hj.symm.trans hch))
  obtain rfl : id = arg v := (List.cons.inj (ha.symm.trans hargs)).1
  rcases hdone with ⟨hout, rfl, rfl⟩ | ⟨hin, rfl, rfl⟩
  · refine ⟨p, .unknown (fun w hw e => hout ?_) rfl rfl, ht⟩
    obtain ⟨c', hc', hid⟩ := (ht.live j w).mp hw
    obtain rfl := Option.some.inj (hl.symm.trans hc')
    rw [e]
    exact hid
  · exact ⟨_, .stopped v rfl ((ht.live j v).mpr ⟨c, hl, hin⟩) (fun e => nomatch e),
      ht.stopped hl rfl rfl rfl⟩

end Commands

end Openport
