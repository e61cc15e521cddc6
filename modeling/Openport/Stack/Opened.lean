/-
  File:      Openport/Stack/Opened.lean
  Subject:   A channel the host has open is open on the cable.

  The host opens a channel where its `ato` was accepted, and from then on gives no
  command that closes it before it forgets the channel itself: `Held` says so of the
  log, for every run of calls. What the log says is in the row of the cable.
-/
import Openport.Stack.Asked

namespace Openport

open Lib Lib.Decimal Lib.Rows Simulator

/-! ## 1. What a call does to an open channel -/

/-- Between these states nothing was given that closes the channel. -/
abbrev Leaves (i : Fin 10) (d d' : OpDevice) : Prop := Only (fun c => ¬Shuts c i) d d'

theorem close_shuts {i j : Fin 10} (h : i ≠ j) : ¬Shuts (askClose j).command i := by
  rintro (h1 | h1 | ⟨-, h1⟩)
  · cases h1
  · cases h1
  · exact h (Fin.ext (Option.some.inj h1).symm)

/-- Where the channel is open behind a connect, its `ato` was accepted. -/
def OpensBy (s : Driver) (i : Fin 10) (flags baud : UInt64) (ret : Ret UInt64) : Prop :=
  (ret.drv.dev.ch i).isOpen = true →
    ∃ t, ret.drv.dev.log = .txn t :: s.dev.log ∧ (askOpen i flags baud).Done t

theorem connectOn_opened (env : CallEnv) (s : Driver) {fw : Fin 10}
    (protocolID flags baudRate : UInt64) (hclosed : (s.dev.ch fw).isOpen = false) :
    OpensBy s fw flags baudRate (connectOn env s fw protocolID flags baudRate) := by
  intro ho
  have hk := simpleCmd_kept (env.exchange 0) s.dev
    (opCmdOpen fw.val flags.toUInt32 baudRate.toUInt32) [] opDefaultCmdMs
  have hdone := simpleCmd_done (env.exchange 0) s.dev
    (prints_emit (askOpen fw flags baudRate).command) (by simp [askOpen]) [] opDefaultCmdMs
  have hline : emit (askOpen fw flags baudRate).command.line =
      opCmdOpen fw.val flags.toUInt32 baudRate.toUInt32 := rfl
  rw [hline] at hdone
  unfold connectOn at ho ⊢
  simp only at ho ⊢
  generalize simpleCmd (env.exchange 0) s.dev
    (opCmdOpen fw.val flags.toUInt32 baudRate.toUInt32) [] opDefaultCmdMs = c at *
  have hshut : (c.2.2.ch fw).isOpen = false := (hk.isOpen fw).trans hclosed
  split at ho
  · rw [Driver.fail_dev, hclosed] at ho
    cases ho
  rename_i hne
  rw [if_neg hne]
  split at ho
  · rw [Driver.fail_dev, show ({ s with dev := c.2.2 } : Driver).dev = c.2.2 from rfl, hshut] at ho
    cases ho
  rename_i hgood
  rw [if_neg hgood]
  have hgood := Decidable.not_not.mp hgood
  split at ho
  · -- without memory the channel is closed again
    rename_i hmem
    have hkept : Kept (opDeviceOpenChannel c.2.2 fw env.mem protocolID.toUInt32).2
        (simpleCmd (env.exchange 1) (opDeviceOpenChannel c.2.2 fw env.mem protocolID.toUInt32).2
          (opCmdClose fw.val) [] opDefaultCmdMs).2.2 := simpleCmd_kept _ _ _ _ _
    rw [Driver.failText_dev] at ho
    have ho' := (hkept.isOpen fw).symm.trans ho
    unfold opDeviceOpenChannel openChannel at hmem ho'
    simp only [OpDevice.setCh_same] at ho'
    cases hm : (c.2.2.ch fw).rq <|> env.mem with
    | none =>
        rw [hm] at ho'
        cases ho'
    | some m =>
        rw [hm] at hmem
        exact absurd rfl hmem
  · rename_i hmem
    rw [if_neg hmem]
    obtain ⟨t, hlog, ht, -⟩ := hdone hgood
    exact ⟨t, hlog, ht⟩

/-- **A connect opens a channel only where its `ato` was accepted.** -/
theorem passThruConnect_opened (env : CallEnv) (s : Driver)
    (deviceID protocolID flags baudRate : UInt64) (pChannelID : Bool) {i : Fin 10}
    (hclosed : (s.dev.ch i).isOpen = false) : OpensBy s i flags baudRate
      (passThruConnect env s deviceID protocolID flags baudRate pChannelID) := by
  have hsame : ∀ ret : Ret UInt64, ret.drv.dev = s.dev → OpensBy s i flags baudRate ret := by
    intro ret hdev ho
    rw [hdev, hclosed] at ho
    cases ho
  unfold passThruConnect
  simp only
  split
  · exact hsame _ (Driver.fail_dev s.errClear _ _)
  split
  · exact hsame _ (Driver.fail_dev s.errClear _ _)
  split
  · exact hsame _ (Driver.fail_dev s.errClear _ _)
  rename_i fw _
  split
  · exact hsame _ (Driver.fail_dev s.errClear _ _)
  rename_i hshut
  split
  · exact hsame _ (Driver.failText_dev s.errClear _ _)
  split
  · exact hsame _ (Driver.fail_dev s.errClear _ _)
  split
  · exact hsame _ (Driver.failText_dev s.errClear _ _)
  by_cases e : i = fw
  · subst e
    exact connectOn_opened env s.errClear protocolID flags baudRate hclosed
  · -- the other channels are as they were
    intro ho
    rcases connectOn_cases env s.errClear fw protocolID flags baudRate with h | ⟨d, c, h, -, hdev⟩
    · exact absurd ((h.lines.held i ho).1.symm.trans hclosed) (by decide)
    · rw [hdev, OpDevice.setCh_other d c e] at ho
      exact absurd ((h.lines.held i ho).1.symm.trans hclosed) (by decide)

/-- And the others it leaves. -/
theorem passThruConnect_leaves (env : CallEnv) (s : Driver)
    (deviceID protocolID flags baudRate : UInt64) (pChannelID : Bool) {i : Fin 10}
    (hi : (s.dev.ch i).isOpen = true) : Leaves i s.dev
      (passThruConnect env s deviceID protocolID flags baudRate pChannelID).drv.dev := by
  have hends := passThruConnect_ends env s deviceID protocolID flags baudRate pChannelID
  generalize (passThruConnect env s deviceID protocolID flags baudRate pChannelID).drv.dev = dev
    at hends
  rcases hends with rfl | ⟨fw, c, hclosed, hc, hend⟩
  · exact .silent rfl
  have hne : i ≠ fw := by
    rintro rfl
    rw [hclosed] at hi
    cases hi
  have hfirst : Leaves i s.dev c.2.2 := hc.only (by
    rintro (h | h | ⟨h, -⟩) <;> cases h)
  rcases hend with rfl | ⟨-, ⟨m, rfl⟩ | ⟨c', hc', rfl⟩⟩
  · exact hfirst
  · exact hfirst
  · have hlast : Leaves i (c.2.2.setCh fw {}) c'.2.2 := hc'.only (close_shuts hne)
    exact hfirst.trans hlast

/-- A call that gives none of `ata`, `atz`, `atc` and `ato` leaves the channel open. -/
theorem plain_leaves {fuel : Nat} {env : CallEnv} {s s' : Driver} {c : Call} {code : Nat}
    (hrun : c.run fuel env s = some (code, s'))
    (hv : ∀ v ∈ c.verbs, v ≠ 0x61 ∧ v ≠ 0x7a ∧ v ≠ 0x63 ∧ v ≠ 0x6f) {i : Fin 10}
    (hopen : s'.dev.opened = true) (hi : (s'.dev.ch i).isOpen = true) :
    (s.dev.opened = true ∧ (s.dev.ch i).isOpen = true) ∧ Leaves i s.dev s'.dev := by
  have hout := call_outcome hrun
  have hspares : ∀ a ∈ c.asks printed env s.dev, ¬Shuts a.command i := by
    intro a ha
    obtain ⟨h1, h2, h3, -⟩ := hv _ (asks_verbs printed env s.dev c a ha)
    rintro (h | h | ⟨h, -⟩)
    · exact h1 h
    · exact h2 h
    · exact h3 h
  refine ⟨?_, hout.only hspares fun h => h (Or.inr (Or.inl rfl))⟩
  generalize s'.dev = d at hout hopen hi
  cases hout with
  | refuses _ _ hn _ => exact ⟨hn.opened hopen, (hn.held i hi).1⟩
  | keeps _ _ _ heff => exact ⟨heff.lines.opened hopen, (heff.lines.held i hi).1⟩
  | opens p _ _ => exact absurd rfl (hv 0x7a List.mem_cons_self).2.1
  | connects id protocolID flags baud p fw d' c' _ _ _ =>
      exact absurd rfl (hv 0x6f List.mem_cons_self).2.2.2
  | fails id pin voltage _ t _ hk _ _ _ _ =>
      exact ⟨hk.noNewLine.opened hopen, (hk.noNewLine.held i hi).1⟩
  | sets id pin voltage d' t _ hk _ _ _ _ =>
      rw [pinsAfter_ch] at hi
      rw [(pinsAfter_session d' pin voltage).1] at hopen
      exact ⟨hk.noNewLine.opened hopen, (hk.noNewLine.held i hi).1⟩

/-- So does a disconnect of another channel. -/
theorem disconnect_leaves (env : CallEnv) (s : Driver) (channelID : UInt64) {i : Fin 10}
    (hopen : (passThruDisconnect env s channelID).drv.dev.opened = true)
    (hi : ((passThruDisconnect env s channelID).drv.dev.ch i).isOpen = true) :
    (s.dev.opened = true ∧ (s.dev.ch i).isOpen = true) ∧
      Leaves i s.dev (passThruDisconnect env s channelID).drv.dev := by
  rcases passThruDisconnect_cases env s channelID with e | ⟨j, c, hc, e⟩
  · rw [e] at hopen hi ⊢
    exact ⟨⟨hopen, hi⟩, .silent rfl⟩
  have hne : i ≠ j := by
    rintro rfl
    rw [e] at hi
    unfold opDeviceCloseChannel at hi
    rw [OpDevice.setCh_same] at hi
    cases hi
  rw [e] at hopen hi ⊢
  have hi' : (c.2.2.ch i).isOpen = true := by
    rw [← OpDevice.setCh_other c.2.2 (closeChannel (c.2.2.ch j)) hne]
    exact hi
  have hopen' : c.2.2.opened = true := hopen
  have hleft : Leaves i s.dev c.2.2 := hc.only (close_shuts hne)
  exact ⟨⟨hc.kept.opened.symm.trans hopen', (hc.kept.isOpen i).symm.trans hi'⟩, hleft⟩

/-- **What a call leaves of an open channel**: it has just been opened, or it was open before, and
    nothing the call wrote closes it. -/
theorem call_leaves {fuel : Nat} {env : CallEnv} {s s' : Driver} {c : Call} {code : Nat}
    (hrun : c.run fuel env s = some (code, s')) {i : Fin 10} (hopen : s'.dev.opened = true)
    (hi : (s'.dev.ch i).isOpen = true) :
    (∃ flags baud t, s'.dev.log = .txn t :: s.dev.log ∧ (askOpen i flags baud).Done t) ∨
      (s.dev.opened = true ∧ (s.dev.ch i).isOpen = true) ∧ Leaves i s.dev s'.dev := by
  have hsame : s'.dev = s.dev → (s.dev.opened = true ∧ (s.dev.ch i).isOpen = true) ∧
      Leaves i s.dev s'.dev := by
    intro e
    rw [← e]
    exact ⟨⟨hopen, hi⟩, .silent rfl⟩
  cases c with
  | passThruOpen p =>
      cases hrun
      rcases passThruOpen_cases env s p with e | heff
      · exact Or.inr (hsame e)
      · exact absurd (heff.lines.held i hi).1 (by simp [newSession, freshSession, OpChannel.cleared])
  | passThruClose id =>
      cases hrun
      unfold passThruClose at hopen hsame ⊢
      simp only at hopen hsame ⊢
      split at hopen
      · rename_i h1
        rw [if_pos h1] at hsame ⊢
        exact Or.inr (hsame (Driver.fail_dev _ _ _))
      · rw [Driver.failed_dev, opDeviceClose_opened] at hopen
        cases hopen
  | passThruConnect id protocolID flags baud p =>
      cases hrun
      cases hwas : (s.dev.ch i).isOpen with
      | false =>
          obtain ⟨t, ht⟩ := passThruConnect_opened env s id protocolID flags baud p hwas hi
          exact Or.inl ⟨flags, baud, t, ht⟩
      | true =>
          have hopened : s.dev.opened = true := by
            rcases passThruConnect_cases env s id protocolID flags baud p with h |
              ⟨fw, d, c, -, h, -, e⟩
            · exact h.lines.opened hopen
            · rw [e] at hopen
              exact h.lines.opened hopen
          exact Or.inr ⟨⟨hopened, rfl⟩, passThruConnect_leaves env s id protocolID flags baud p hwas⟩
  | passThruDisconnect ch =>
      cases hrun
      exact Or.inr (disconnect_leaves env s ch hopen hi)
  | _ =>
      refine Or.inr (plain_leaves hrun ?_ hopen hi)
      simp [Call.verbs, ioctlVerbs]

/-! ## 2. Runs -/

/-- **What the log says of an open channel**: its `ato` was accepted, and nothing given behind it
    closes it. -/
structure Held (base : List Event) (d : OpDevice) (i : Fin 10) (flags baud : UInt64) (newer : List Txn)
    (t : Txn) : Prop where
  log : ∃ more, d.log = newer.map Event.txn ++ .txn t :: (more ++ base)
  opens : (askOpen i flags baud).Done t
  leaves : ∀ u ∈ newer, ∃ a : Ask, a.Sent u ∧ ¬Shuts a.command i

theorem Held.leaving {base : List Event} {d d' : OpDevice} {i : Fin 10} {flags baud : UInt64}
    {newer : List Txn} {t : Txn} (h : Held base d i flags baud newer t) (hl : Leaves i d d') :
    ∃ newer', Held base d' i flags baud newer' t := by
  obtain ⟨txns, hlog, hall⟩ := hl
  obtain ⟨more, hmore⟩ := h.log
  refine ⟨txns ++ newer, ⟨more, ?_⟩, h.opens, fun u hu => ?_⟩
  · rw [hlog, hmore, List.map_append, List.append_assoc]
  · rcases List.mem_append.mp hu with hu | hu
    · exact hall u hu
    · exact h.leaves u hu

/-- Since the start the log went on, and every channel that is open is held. -/
structure AllHeld (base : List Event) (s : Driver) : Prop where
  logged : ∃ more, s.dev.log = more ++ base
  held : s.dev.opened = true → ∀ i, (s.dev.ch i).isOpen = true →
    ∃ flags baud newer t, Held base s.dev i flags baud newer t

theorem allHeld_step {base : List Event} {s s' : Driver} (h : AllHeld base s) (hm : Moves s s') :
    AllHeld base s' := by
  obtain ⟨more, hmore⟩ := h.logged
  cases hm with
  | call _ c fuel env code hrun =>
      obtain ⟨new, hnew⟩ := call_logs hrun
      refine ⟨⟨new ++ more, by rw [hnew, hmore, List.append_assoc]⟩, fun hopen i hi => ?_⟩
      rcases call_leaves hrun hopen hi with ⟨flags, baud, t, hlog, ht⟩ | ⟨⟨hopen', hi'⟩, hl⟩
      · exact ⟨flags, baud, [], t, ⟨more, by rw [hlog, hmore]; rfl⟩, ht,
          fun u hu => absurd hu List.not_mem_nil⟩
      · obtain ⟨flags, baud, newer, t, hheld⟩ := h.held hopen' i hi'
        obtain ⟨newer', hheld'⟩ := hheld.leaving hl
        exact ⟨flags, baud, newer', t, hheld'⟩
  | arrive a =>
      have hst := arrive_steady s.dev a
      refine ⟨⟨more, hst.log.trans hmore⟩, fun hopen i hi => ?_⟩
      obtain ⟨flags, baud, newer, t, hheld⟩ := h.held (hst.kept.noNewLine.opened hopen) i
        (hst.kept.noNewLine.held i hi).1
      obtain ⟨newer', hheld'⟩ := hheld.leaving (.silent hst.log)
      exact ⟨flags, baud, newer', t, hheld'⟩

/-- **And so it is in every run of calls** that begins without open channels. -/
theorem allHeld_run {s₀ s : Driver} (h₀ : ∀ i, (s₀.dev.ch i).isOpen = false)
    (hrun : Relation.ReflTransGen Moves s₀ s) : AllHeld s₀.dev.log s := by
  induction hrun with
  | refl =>
      refine ⟨⟨[], rfl⟩, fun _ i hi => ?_⟩
      rw [h₀ i] at hi
      cases hi
  | tail _ hm ih => exact allHeld_step ih hm

/-! ## 3. On the cable -/

/-- **A channel the host has open is open on the cable**, with the flags and the rate of the `ato`
    that was accepted: in every run of calls and the system under it, whatever timed out on the
    way, and whatever the cable still has to read. -/
theorem stack_open {e : Setup} (hp : e.Plain) (hinit : e.wire.initReply = .aro)
    (hans : e.Answerable) {s₀ s : Driver} (h₀ : ∀ i, (s₀.dev.ch i).isOpen = false)
    (hrun : Relation.ReflTransGen Moves s₀ s) {l0 l : Loop} {txns : List Txn}
    (hj : Joint e s₀.dev s.dev l0 l txns) (hopen : s.dev.opened = true) {i : Fin 10}
    (hi : (s.dev.ch i).isOpen = true) : ∃ flags baud t c, t ∈ txns ∧
      (askOpen i flags baud).Done t ∧ l.cable.sim.channels.lookup i = some c ∧
      c.flags = printed flags ∧ c.baud = printed baud := by
  obtain ⟨flags, baud, newer, t, hheld⟩ := (allHeld_run h₀ hrun).held hopen i hi
  obtain ⟨more, hlog⟩ := hheld.log
  obtain ⟨older, htxns, -⟩ := txns_cut (hj.asked.symm.trans hlog)
  obtain ⟨r, ht, hstatus⟩ := hheld.opens.answers ⟨by simp [askOpen], by simp [askOpen], by simp [askOpen]⟩
  obtain ⟨hist, hrow⟩ := hj.rowed hp hinit hans
  have hon : l.cable.sim.books.On i (printed flags) (printed baud) := by
    refine hrow.since (P := fun b => b.On i (printed flags) (printed baud))
      (G := fun c => ¬Shuts c i) htxns ht ?_ ?_ ?_
    · rintro b g q b' hspec hc rfl
      exact hspec.opens (m := 0) (by rw [hc]; rfl) (by rw [hc]; rfl) (by rw [hc]; rfl)
        (done_ok hspec hstatus)
    · intro b g q b' hspec hg ho
      exact hspec.stays hg ho
    · intro u hu c hc
      obtain ⟨a, ha, hno⟩ := hheld.leaves u hu
      rw [hc.inj ha.is]
      exact hno
  obtain ⟨c, hc, hflags, hbaud⟩ := hon
  refine ⟨flags, baud, t, c, ?_, hheld.opens, hc, hflags, hbaud⟩
  rw [htxns]
  exact List.mem_append_right _ List.mem_cons_self

/-- Behind a connect for CAN at 500 kbit/s. -/
def connectedDriver : Driver := (passThruConnect (okEnv 300) stackDriver 1 can 0 500000 true).drv

theorem connectedDriver_run : Relation.ReflTransGen Moves stackDriver connectedDriver :=
  .tail .refl (.call _ _ (.passThruConnect 1 can 0 500000 true) 0 (okEnv 300) statusNoerror rfl)

theorem stack_open_sample : ∃ l txns flags baud t c,
    Joint answering stackDriver.dev connectedDriver.dev sampleLoop l txns ∧ t ∈ txns ∧
      (askOpen 5 flags baud).Done t ∧ l.cable.sim.channels.lookup 5 = some c ∧
      c.flags = printed flags ∧ c.baud = printed baud := by
  obtain ⟨l, txns, hj⟩ := joint_sample (d := connectedDriver.dev) (n := 1) (by decide +kernel)
  obtain ⟨flags, baud, t, c, h⟩ := stack_open answering_plain rfl answering_answers
    (by decide) connectedDriver_run hj (by decide) (show (connectedDriver.dev.ch 5).isOpen = true by
      decide)
  exact ⟨l, txns, flags, baud, t, c, hj, h⟩

end Openport
