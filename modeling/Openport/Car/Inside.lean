/-
  File:      Openport/Car/Inside.lean
  Subject:   The runs of the capture tool and its envelope.

  Under all options but those of `Unguarded` the log of every run is in order,
  whatever the cable answers and whatever is raised. Under these `q3_txflags`
  writes a frame no guard looked at: a quiet cable lets it through, and the id in
  it stays in the log to the end.
-/
import Openport.Car.Guarded

namespace Openport.Car

open Lib Lib.Decimal Lib.Raising Simulator

variable {o : Options} {m : Bool} {s : Tool}

/-! ## 1. The run -/

theorem converted_keeps {α : Type} (x : Option α) : Keeps (At o m) (fun _ => True) (converted x) := by
  cases x with
  | none => exact Keeps.throw trivial
  | some a => exact Keeps.pure _

/-- A live mode but TP2.0 keeps the invariant whatever it raises. -/
theorem liveAll_spec (o : Options) :
    Triple (At o false) (liveAll o) (fun _ => At o false) fun _ s => Safe o s := by
  have hc := conduct_at o false
  have hkept : ∀ {β : Type} {x : Act β}, Keeps (At o false) (fun _ => True) x →
      Triple (At o false) x (fun _ => At o false) fun _ s => Safe o s := fun hx =>
    hx.raising fun e s h => ⟨_, h.1⟩
  refine Triple.bind (M := fun _ => At o false) (hkept ?_) fun _ =>
    Triple.bind (M := fun _ => At o false) (hkept ?_) fun _ =>
    Triple.bind (M := fun _ => At o false) (hkept ?_) fun _ => ?_
  · unfold liveIso
    split
    · split
      · exact Keeps.pure _
      · exact Keeps.bind (converted_keeps _) fun payload => hc.liveRequest_keeps _ _ payload
    · exact Keeps.pure _
  · unfold liveInit
    split
    · exact Keeps.bind (converted_keeps _) fun payload => hc.liveKline_keeps _ payload
    · exact Keeps.pure _
  · unfold liveRead
    split
    · exact hc.longRead_keeps _ _ _ _
    · exact Keeps.pure _
  · unfold liveTp20
    split
    · refine Triple.bind (hkept (converted_keeps _)) fun dests => ?_
      split
      · exact Triple.bind (hkept (converted_keeps _)) fun extra => q12Tp20_spec dests _
      · exact q12Tp20_spec dests none
    · exact Triple.pure fun _ h => h

theorem Steady.safeShutdown_keeps {I : Tool → Prop} {E : Raised → Prop} (h : Steady I E) :
    Keeps I E safeShutdown := by
  refine Keeps.caught E ?_ fun e he => ?_
  · refine Keeps.bind (h.tell_keeps [] (by decide)) fun _ => ?_
    refine Keeps.bind (Keeps.forM fun ch _ => h.tell_keeps [] rfl) fun _ => ?_
    exact Keeps.bind h.resync_keeps fun _ => Keeps.pure _
  · split
    · exact Keeps.throw he
    · exact Keeps.pure _

/-- The last of `main`: the shutdown, and the port closed. -/
theorem Steady.last_keeps {I : Tool → Prop} {E : Raised → Prop} (h : Steady I E) :
    Keeps I E (do
      safeShutdown
      let _ ← sysCall) :=
  Keeps.bind h.safeShutdown_keeps fun _ => Keeps.bind h.sysCall_keeps fun _ => Keeps.pure _

/-- Between opening the port and the shutdown: without `--tp20` no id is unlocked. -/
def Ready (o : Options) (s : Tool) : Prop := At o false s ∧ (o.tp20 = false → s.extraTx = [])

theorem conduct_ready (o : Options) : Conduct (Ready o) fun _ => True :=
  (conduct_at o false).extra fun extraTx _ => o.tp20 = false → extraTx = []

/-- **The options under which `q3_txflags` reaches the bus with an id outside the range**: no live
    mode and no passive one, the section is run, no pre-flight sent a frame through the guard
    before, and both ids fit their four bytes. -/
structure Unguarded (o : Options) : Prop where
  passive : o.klineListen = false
  live : o.live = false
  only : o.onlyOne.all (· == "q3") = true
  preflight : o.needPreflight = false
  tx : Packs o.tx
  rx : Packs o.rx
  outside : ¬(safeTxLo ≤ o.tx ∧ o.tx ≤ safeTxHi)

/-- Of what a section raises only a Ctrl-C leaves the loop. -/
theorem runSection_keeps {I : Tool → Prop} {sec : String × Act Unit} {F E : Raised → Prop}
    (h : o.onlyOne.all (· == sec.1) = true → Keeps I F sec.2) (hE : F .interrupt → E .interrupt) :
    Keeps I E (runSection o sec) := by
  unfold runSection
  split
  · rename_i hrun
    refine Keeps.caught F (h hrun) fun e he => ?_
    split
    · rename_i hint
      rw [hint] at he ⊢
      exact Keeps.throw (hE he)
    · exact Keeps.pure _
  · exact Keeps.pure _

theorem sections_split (o : Options) : sections o = (sections o).take 4 ++
    ("q3", q3Txflags o.tx o.rx) :: (sections o).drop 5 := rfl

/-- The sections in front of `q3` keep what stands the guarded frames, and so do those behind it. -/
theorem early_keep {I : Tool → Prop} {E : Raised → Prop} (h : Conduct I E) (o : Options) :
    ∀ sec ∈ (sections o).take 4, Keeps I E sec.2 := by
  intro sec hsec
  unfold sections at hsec
  simp only [List.take_succ_cons, List.take_zero, List.mem_cons, List.not_mem_nil, or_false] at hsec
  rcases hsec with rfl | rfl | rfl | rfl
  · exact h.q7_keeps
  · exact h.q0_keeps _
  · exact h.q1_keeps _ _
  · show Keeps I E (if o.kline then q2Kline o.klineVariants else Pure.pure ())
    split
    · exact h.q2_keeps _
    · exact Keeps.pure _

theorem late_keep {I : Tool → Prop} {E : Raised → Prop} (h : Conduct I E) (o : Options) :
    ∀ sec ∈ (sections o).drop 5, Keeps I E sec.2 := by
  intro sec hsec
  unfold sections at hsec
  simp only [List.drop_succ_cons, List.drop_zero, List.mem_cons, List.not_mem_nil, or_false] at hsec
  rcases hsec with rfl | rfl | rfl | rfl | rfl | rfl
  · exact h.q8_keeps
  · exact h.q9_keeps _ _
  · exact h.q10_keeps
  · exact h.q11_keeps
  · show Keeps I E (if o.unknownVerbs then q5Unknown else Pure.pure ())
    split
    · exact h.q5_keeps
    · exact Keeps.pure _
  · exact h.q6_keeps

/-- What every section keeps, the loop over them does. -/
theorem sections_keep {I : Tool → Prop} {E : Raised → Prop} (h : Conduct I fun _ => True)
    (hq : o.onlyOne.all (· == "q3") = true → Keeps I (fun _ => True) (q3Txflags o.tx o.rx))
    (hE : True → E .interrupt) : Keeps I E ((sections o).forM (runSection o)) := by
  refine Keeps.forM fun sec hsec => runSection_keeps (F := fun _ => True) ?_ fun _ => hE trivial
  intro hrun
  rw [sections_split] at hsec
  rcases List.mem_append.mp hsec with hsec | hsec
  · exact early_keep h o sec hsec
  · rcases List.mem_cons.mp hsec with rfl | hsec
    · exact hq hrun
    · exact late_keep h o sec hsec

/-- **What is between opening the port and the shutdown leaves the log in order**, but under the
    options that let `q3_txflags` past the guard. -/
theorem mainBody_spec (h : ¬Unguarded o) :
    Triple (Ready o) (mainBody o) (fun _ => Safe o) fun _ s => Safe o s := by
  have hc := conduct_ready o
  have hend : ∀ {β : Type} {x : Act β}, Keeps (Ready o) (fun _ => True) x →
      Triple (Ready o) x (fun _ => Safe o) fun _ s => Safe o s := fun hx =>
    hx.exits (fun _ _ h => ⟨_, h.1⟩) fun e s h => ⟨_, h.1.1⟩
  unfold mainBody
  split
  · exact hend (Keeps.bind hc.klineListen_keeps fun _ => Keeps.pure _)
  rename_i hlisten
  refine Triple.bind (M := fun ok s => Ready o s ∧
    (o.needPreflight = true → ok = true → Admitted s.extraTx o.tx)) ?_ fun ready => ?_
  · unfold preflightNeeded
    split
    · exact (hc.preflight_spec _ _).exits (fun _ _ h => ⟨h.1, fun _ => h.2⟩)
        fun e s h => ⟨_, h.1.1⟩
    · rename_i hneed
      exact Triple.pure fun s h => ⟨h, fun e => absurd e hneed⟩
  split
  · exact Triple.pure fun s h => ⟨_, h.1.1⟩
  rename_i hready
  split
  · have hlive : Triple (Ready o) (do
        liveAll o
        return 0) (fun _ => Safe o) fun _ s => Safe o s := by
      refine Triple.bind ((liveAll_spec o).behind fun _ h => h.1) fun _ => ?_
      exact Triple.pure fun s h => ⟨_, h⟩
    refine (Triple.caught hlive fun e => ?_).behind fun _ h => h.1
    split
    · exact Triple.pure fun s h => h
    · exact Triple.throw fun s h => h
  rename_i hlive
  have hlive := Bool.eq_false_iff.mpr hlive
  have htp : o.tp20 = false := (Bool.or_eq_false_iff.mp hlive).2
  -- without unlocked ids the guard admits only those of the range
  refine Triple.behind (P := fun s => Ready o s ∧
    (o.needPreflight = true → safeTxLo ≤ o.tx ∧ o.tx ≤ safeTxHi)) (Triple.fact fun hpre => ?_)
    fun s h => ⟨h.1, fun hn => ?_⟩
  · refine hend (Keeps.bind (sections_keep hc (fun honly => ?_) id) fun _ => Keeps.pure _)
    refine hc.q3_keeps fun hrx htx s args hs => ?_
    have hin : safeTxLo ≤ o.tx ∧ o.tx ≤ safeTxHi := by
      by_contra hout
      exact h ⟨Bool.eq_false_iff.mpr hlisten, hlive, honly,
        Bool.eq_false_iff.mpr fun hn => hout (hpre hn), htx, hrx, hout⟩
    exact hc.can s o.tx [0x3e, 0x00] 6 args hs (Or.inr hin) htx (Or.inl (by decide))
  · have := h.2 hn (by cases ready with
      | false => exact absurd rfl hready
      | true => rfl)
    rw [h.1.2 htp] at this
    exact this.elim (fun e => (nomatch e)) id

/-- The tool as it begins. -/
def Fresh (s : Tool) : Prop := s.log = [] ∧ s.extraTx = [] ∧ s.chan.txId = none

/-- The handler and the `finally` of `main` keep what its body leaves, where the shutdown does. -/
theorem mainEnd_spec {P J : Tool → Prop} {E : Raised → Prop}
    (hbody : Triple P (mainBody o) (fun _ => J) fun _ => J)
    (hlast : Keeps J E (do
      safeShutdown
      let _ ← sysCall)) :
    Triple P (lastly (tryCatch (mainBody o) fun e => if e = .interrupt then return 130 else throw e) do
      safeShutdown
      let _ ← sysCall) (fun _ => J) fun _ => J := by
  refine Triple.lastly (Triple.caught hbody fun e => ?_) (fun _ => hlast.raising fun _ _ h => h.1)
    fun _ => hlast.raising fun _ _ h => h.1
  split
  · exact Triple.pure fun _ h => h
  · exact Triple.throw fun _ h => h

/-- What holds behind `main` however it ends holds of the run. -/
theorem run_of {P J : Tool → Prop} (h : Triple P (main o) (fun _ => J) fun _ => J) {cable : Cable}
    (hp : P { cable := cable }) : J (run o cable) := by
  have hmain := h { cable := cable } hp
  unfold run
  revert hmain
  rcases main o { cable := cable } with ⟨e | a, s⟩
  · exact fun h => h
  · exact fun h => h

/-- **The run leaves the log in order where its body does**; the shutdown adds nothing to it that is
    not. -/
theorem main_spec (hbody : Triple (Ready o) (mainBody o) (fun _ => Safe o) fun _ s => Safe o s) :
    Triple Fresh (main o) (fun _ s => Inside o s.log) fun _ s => Inside o s.log := by
  have hsafe : ∀ {s : Tool}, Safe o s → Inside o s.log := fun ⟨_, h⟩ => h.inside
  refine Triple.bind (M := fun _ => Fresh) (Triple.get fun s h => h) fun s => ?_
  split
  · refine Triple.pure fun s h => ?_
    rw [h.1]
    trivial
  have hset : ∀ s, Fresh s → Ready o { s with session := o.session } := fun s h => by
    refine ⟨⟨?_, rfl, ?_, ?_, ?_⟩, fun _ => h.2.1⟩
    · show Inside o s.log
      rw [h.1]
      trivial
    · show ∀ id ∈ s.extraTx, _
      rw [h.2.1]
      exact fun id hid => (nomatch hid)
    · show ∀ id, s.chan.txId = some id → _
      rw [h.2.2]
      exact fun id hid => (nomatch hid)
    · show midMessage s.log = false
      rw [h.1]
      rfl
  refine Triple.bind (M := fun _ => Ready o) (Triple.modify hset) fun _ => ?_
  have hrest : Triple (Ready o) (do
      let _ ← sysCall
      lastly (tryCatch (mainBody o) fun e => if e = .interrupt then return 130 else throw e) do
        safeShutdown
        let _ ← sysCall) (fun _ s => Inside o s.log) fun _ s => Inside o s.log := by
    refine Triple.bind ((conduct_ready o).sysCall_keeps.raising fun e s h => h.1.1.inside)
      fun _ => ?_
    have hlast := Keeps.safe fun m => (steady_at o m trivial trivial).last_keeps (E := fun _ => True)
    exact (mainEnd_spec hbody hlast).exits (fun _ _ h => hsafe h) fun _ _ h => hsafe h
  split
  · rename_i htp
    refine Triple.bind (M := fun _ => Ready o) (Triple.modify fun s h => ?_) fun _ => hrest
    refine ⟨⟨⟨⟨htp, rfl⟩, h.1.inside⟩, h.1.session, ?_, fun id hid => ?_, h.1.mid⟩, fun hn => ?_⟩
    · intro id hid
      rcases List.mem_cons.mp hid with rfl | hid
      · exact List.mem_cons_self
      · exact List.mem_cons_of_mem _ (h.1.extra id hid)
    · exact List.mem_cons_of_mem _ (h.1.txId id hid)
    · rw [hn] at htp
      cases htp
  · exact hrest

theorem run_inside (h : ¬Unguarded o) (cable : Cable) : Inside o (run o cable).log :=
  run_of (main_spec (mainBody_spec h)) ⟨rfl, rfl, rfl⟩

/-! ## 2. Beside the guard -/

/-- A cable that takes every call, answers nothing and leaves no time for a loop. -/
def quietCable : Cable where
  present := true
  fault := fun _ => none
  reads := fun _ => []
  turns := fun _ => 0
  late := fun _ => false

/-- On the quiet cable no id was unlocked, and these events are in the log. -/
structure Quiet (es : List Event) (s : Tool) : Prop where
  cable : s.cable = quietCable
  none : unlockedIds s.log = []
  mem : ∀ e ∈ es, e ∈ s.log

theorem Quiet.wrote {es : List Event} (h : Quiet es s) (line payload : Bytes) :
    Quiet es (s.wrote line payload) :=
  ⟨h.cable, h.none, fun e he => List.mem_cons_of_mem _ (h.mem e he)⟩

theorem steady_quiet (es : List Event) : Steady (Quiet es) fun _ => False where
  calls := fun s n h => ⟨h.cable, h.none, h.mem⟩
  plain := fun s line payload h _ => h.wrote line payload
  failed := fun s n h hf => by
    rw [h.cable] at hf
    cases hf
  interrupt := fun s n h hf => by
    rw [h.cable] at hf
    cases hf

theorem conduct_quiet (es : List Event) : Conduct (Quiet es) (· ≠ .interrupt) where
  calls := (steady_quiet es).calls
  plain := (steady_quiet es).plain
  failed := fun s n h hf => ((steady_quiet es).failed s n h hf).elim
  interrupt := fun s n h hf => ((steady_quiet es).interrupt s n h hf).elim
  refusal := by decide
  failure := by decide
  can := fun s id service n args h _ _ _ => h.wrote _ _
  kline := fun s ch header service n args h _ _ _ => h.wrote _ _

/-- The first frame of `q3_txflags`. -/
def firstFlagged (o : Options) : Event :=
  .wrote (lineOf "att" 6 [6, 0]) (BigEndian.bytes 4 o.tx.toNat ++ [0x3e, 0x00])

/-- Under a quiet cable the first turn of `q3_txflags` writes its frame, and nothing is raised. -/
theorem flaggedTurn_writes (htx : Packs o.tx) (hrx : Packs o.rx) :
    Triple (Quiet []) (flaggedTurn o.tx o.rx [0]) (fun _ => Quiet [firstFlagged o])
      fun _ _ => False := by
  have hquiet : ∀ {β : Type} {x : Act β}, Keeps (Quiet []) (fun _ => False) x →
      Triple (Quiet []) x (fun _ => Quiet []) fun _ _ => False :=
    fun hx => hx.raising fun _ _ h => h.2
  have hst := steady_quiet []
  have hpack : ∀ {n}, Packs n → Triple (Quiet []) (pack n)
      (fun b s => Quiet [] s ∧ b = BigEndian.bytes 4 n.toNat) fun _ _ => False := fun hn =>
    (pack_spec _ fun h => absurd hn h).returning fun _ _ h => ⟨h.1, h.2.1⟩
  refine Triple.bind (hquiet hst.resync_keeps) fun _ => ?_
  refine Triple.bind (M := fun _ => Quiet []) ?_ fun _ => ?_
  · refine Triple.bind (hquiet (hst.cmd_keeps [] (by decide))) fun _ => ?_
    refine Triple.bind (hpack ⟨by decide, by decide⟩) fun mask => Triple.fact fun _ => ?_
    refine Triple.bind (hpack hrx) fun pat => Triple.fact fun _ => ?_
    refine Triple.bind (hpack htx) fun fc => Triple.fact fun _ => ?_
    refine Triple.bind (hquiet (hst.cmd_keeps _ (by decide))) fun _ => ?_
    exact Triple.pure fun _ h => h
  · refine sendFlagged_spec (fun hn => absurd htx hn) fun _ => ?_
    refine (hst.cmd_to (steady_quiet [firstFlagged o]) fun s hs => ?_).raising fun _ _ h => h.2
    refine ⟨hs.cable, hs.none, fun e he => ?_⟩
    rw [List.mem_singleton.mp he]
    exact List.mem_cons_self

/-- **Under a quiet cable the first frame of `q3_txflags` is written**, and no Ctrl-C ends it. -/
theorem q3_writes (htx : Packs o.tx) (hrx : Packs o.rx) :
    Triple (Quiet []) (q3Txflags o.tx o.rx) (fun _ => Quiet [firstFlagged o])
      fun e s => Quiet [firstFlagged o] s ∧ e ≠ .interrupt := by
  have hc := conduct_quiet [firstFlagged o]
  have hfirst := (flaggedTurn_writes htx hrx).raising fun (e : Raised) s h =>
    (h.elim : Quiet [firstFlagged o] s ∧ e ≠ .interrupt)
  have hmore : ∀ args, Keeps (Quiet [firstFlagged o]) (· ≠ .interrupt)
      (flaggedTurn o.tx o.rx args) := by
    intro args
    refine Keeps.bind hc.resync_keeps fun _ => Keeps.bind (hc.openIso_keeps _ _) fun _ => ?_
    exact hc.sendFlagged_keeps (fun s _ h => h.wrote _ _) args
  refine Triple.bind (M := fun _ => Quiet [firstFlagged o]) ?_ fun _ => ?_
  · refine Triple.bind hfirst fun _ => ?_
    exact Keeps.forM fun flags _ => hmore [flags]
  · refine Keeps.bind (hmore _) fun _ => ?_
    exact hc.sendFlagged_keeps (fun s _ h => h.wrote _ _) _

/-- The sections leave it in the log. -/
theorem sections_write (h : Unguarded o) :
    Triple (Quiet []) ((sections o).forM (runSection o)) (fun _ => Quiet [firstFlagged o])
      fun _ _ => False := by
  have hnot : ∀ es, ∀ secs : List (String × Act Unit),
      (∀ sec ∈ secs, Keeps (Quiet es) (· ≠ .interrupt) sec.2) →
      Triple (Quiet es) (secs.forM (runSection o)) (fun _ => Quiet es) fun _ _ => False := by
    intro es secs hs
    have hk : Keeps (Quiet es) (fun _ => False) (secs.forM (runSection o)) :=
      Keeps.forM fun sec hsec => runSection_keeps (fun _ => hs sec hsec) fun e => e rfl
    exact hk.raising fun _ _ h => h.2
  have hq3 : Triple (Quiet []) (runSection o ("q3", q3Txflags o.tx o.rx))
      (fun _ => Quiet [firstFlagged o]) fun _ _ => False := by
    unfold runSection
    rw [if_pos h.only]
    refine Triple.caught (q3_writes h.tx h.rx) fun e => ?_
    split
    · rename_i he
      exact fun s hs => absurd he hs.2
    · exact Triple.pure fun s hs => hs.1
  rw [sections_split]
  refine Triple.append (hnot [] _ (early_keep (conduct_quiet []) o)) ?_
  exact Triple.bind hq3 fun _ => hnot _ _ (late_keep (conduct_quiet _) o)

theorem mainBody_writes (h : Unguarded o) :
    Triple (Quiet []) (mainBody o) (fun _ => Quiet [firstFlagged o])
      fun _ => Quiet [firstFlagged o] := by
  have hsec : Triple (Quiet []) ((sections o).forM (runSection o))
      (fun _ => Quiet [firstFlagged o]) fun _ => Quiet [firstFlagged o] :=
    (sections_write h).raising fun _ _ h => h.elim
  unfold mainBody
  rw [if_neg (by rw [h.passive]; decide)]
  refine Triple.bind (M := fun ready s => Quiet [] s ∧ ready = true) ?_ fun ready =>
    Triple.fact fun hready => ?_
  · unfold preflightNeeded
    rw [if_neg (by rw [h.preflight]; decide)]
    exact Triple.pure fun s hs => ⟨hs, rfl⟩
  · rw [hready, if_neg (by decide), if_neg (by rw [h.live]; decide)]
    exact Triple.bind hsec fun _ => Triple.pure fun _ hs => hs

/-- An id in an envelope kept is in order where its frame stands. -/
theorem Inside.can : ∀ {log : List Event}, Inside o log → ∀ {line payload : Bytes},
    .wrote line payload ∈ log → attOn 6 line = true → IdOk log (canIdOf payload)
  | .wrote l p :: log, h, line, payload, hm, hl => by
      rcases List.mem_cons.mp hm with hm | hm
      · cases hm
        exact (h.1.id (Or.inr hl)).2
      · exact h.2.can hm hl
  | .unlocked id why :: log, h, line, payload, hm, hl => by
      rcases List.mem_cons.mp hm with hm | hm
      · cases hm
      · exact (h.2.can hm hl).imp (fun hr => hr) fun hin => List.mem_cons_of_mem _ hin

/-- **Beside the guard the tool leaves its envelope.** -/
theorem run_outside (h : Unguarded o) : ¬Inside o (run o quietCable).log := by
  have hlast := (steady_quiet [firstFlagged o]).last_keeps
  have hmain : Triple (fun s => s.cable = quietCable ∧ s.log = []) (main o)
      (fun _ => Quiet [firstFlagged o]) fun _ => Quiet [firstFlagged o] := by
    refine Triple.bind (M := fun s s' => (s'.cable = quietCable ∧ s'.log = []) ∧
      s.cable = quietCable) (Triple.get fun s hs => ⟨hs, hs.1⟩) fun s => Triple.fact fun hs => ?_
    rw [hs, if_neg (by decide)]
    refine Triple.bind (M := fun _ => Quiet []) (Triple.modify fun s hs => ?_) fun _ => ?_
    · refine ⟨hs.1, ?_, fun e he => (nomatch he)⟩
      show unlockedIds s.log = []
      rw [hs.2]
      rfl
    have htp : o.tp20 = false := (Bool.or_eq_false_iff.mp h.live).2
    rw [if_neg (by rw [htp]; decide)]
    refine Triple.bind ((steady_quiet []).sysCall_keeps.raising fun _ _ h => h.2.elim) fun _ => ?_
    exact mainEnd_spec (mainBody_writes h) hlast
  have hrun : Quiet [firstFlagged o] (run o quietCable) := run_of hmain ⟨rfl, rfl⟩
  intro hin
  have hid := hin.can (hrun.mem _ List.mem_cons_self) rfl
  rw [canIdOf_pack h.tx] at hid
  rcases hid with hid | hid
  · exact h.outside hid
  · rw [hrun.none] at hid
    cases hid

theorem not_all_inside (h : Unguarded o) : ¬∀ cable, Inside o (run o cable).log :=
  fun hall => run_outside h (hall quietCable)

/-- **The capture tool transmits only inside its envelope but for the options of `Unguarded`**, and
    under each of these there is a run outside it. -/
theorem run_inside_iff (o : Options) :
    (∀ cable, Inside o (run o cable).log) ↔ ¬Unguarded o := by
  refine ⟨?_, fun h cable => run_inside h cable⟩
  intro h hu
  exact not_all_inside hu h

/-- `--only q3 --tx 0x123`. -/
def strayOptions : Options := { only := some "q3", tx := 0x123 }

theorem strayOptions_unguarded : Unguarded strayOptions where
  passive := rfl
  live := rfl
  only := by decide
  preflight := by decide
  tx := ⟨by decide, by decide⟩
  rx := ⟨by decide, by decide⟩
  outside := by decide

/-- **The envelope is left under them**: a frame with the id 0x123 goes to the bus. -/
theorem q3_beside_guard : ¬∀ (o : Options) (cable : Cable), Inside o (run o cable).log :=
  fun h => not_all_inside strayOptions_unguarded (h strayOptions)

end Openport.Car
