/-
  File:      Openport/Simulator/Steps.lean
  Subject:   Every step of the simulated cable is one of `Moves` or a turn of a thread,
             and exactly what makes a step raise.

  The only source of an exception is `_tp20_reply`: a request without an answer, or
  an answer too long for its 16-bit length (`Answerable`).
-/
import Openport.Simulator.Runs

namespace Openport.Simulator

open Lib Lib.Decimal

/-! ## 1. The TP2.0 channel -/

/-- `_tp20_reply` has an answer to every request it can be given, none too long. -/
def Setup.Answerable (e : Setup) : Prop :=
  ∀ req : Bytes, req.length ≤ 0xffff → ∃ resp, ecuAnswer e.ecu req = some resp ∧
    resp.length ≤ 0xffff

theorem mem_lastAsks {op : UInt8} {c : Bytes} : ∀ {cs : List Bytes}, (op, c) ∈ lastAsks cs → c ∈ cs
  | [], h => absurd h List.not_mem_nil
  | [d], h => by
      cases List.mem_singleton.mp h
      exact List.mem_singleton_self c
  | d :: d' :: cs, h => by
      rw [lastAsks_cons] at h
      rcases List.mem_cons.mp h with e | h
      · cases e
        exact List.mem_cons_self
      · exact List.mem_cons_of_mem d (mem_lastAsks h)

theorem mem_numbered {d : Bytes} : ∀ {fs : List (UInt8 × Bytes)} {seq : UInt8},
    d ∈ (numbered seq fs).1 → ∃ b, ∃ f ∈ fs, d = b :: f.2
  | [], _, h => absurd h List.not_mem_nil
  | (op, c) :: fs, seq, h => by
      rw [numbered_next] at h
      rcases List.mem_cons.mp h with rfl | h
      · exact ⟨_, (op, c), List.mem_cons_self, rfl⟩
      · obtain ⟨b, f, hf, e⟩ := mem_numbered h
        exact ⟨b, f, List.mem_cons_of_mem _ hf, e⟩

/-- Every frame of a reply is a CAN frame: eight bytes at most. -/
theorem tp20Reply_length {ecu : Bytes → Option Bytes} {seq : UInt8} {req : Bytes}
    {reply : List Bytes × UInt8} (h : tp20Reply ecu seq req = some reply) {d : Bytes}
    (hd : d ∈ reply.1) : d.length ≤ 8 := by
  unfold tp20Reply at h
  cases ha : ecuAnswer ecu req with
  | none =>
      rw [ha] at h
      cases h
  | some resp =>
      rw [ha] at h
      simp only at h
      split at h
      · cases h
      · rw [← Option.some.inj h] at hd
        obtain ⟨b, ⟨op, c⟩, hf, rfl⟩ := mem_numbered hd
        have hc : c ∈ split (BigEndian.bytes 2 resp.length ++ resp) 7 := mem_lastAsks hf
        exact Nat.succ_le_succ (mem_split hc)

/-- Two bytes hold no number above 65535. -/
theorem two_bytes (b0 b1 : UInt8) : b0.toNat * 256 + b1.toNat ≤ 0xffff := by
  have h0 := b0.toNat_lt
  have h1 := b1.toNat_lt
  omega

theorem ack_mem {rxId : Nat} {op seq : UInt8} {m : Nat × Bytes}
    (h : m ∈ if op = 0 ∨ op = 1 then [(rxId, [0xb0 ||| ((seq + 1) &&& 0x0f)])] else []) :
    m.2.length ≤ 8 := by
  split at h
  · rw [List.mem_singleton.mp h]
    exact Nat.le_of_ble_eq_true rfl
  · exact absurd h List.not_mem_nil

section Tp20

variable {modules : List UInt8} {ecu : Bytes → Option Bytes} {t : Tp20State}

/-- What `tp20Data` holds once a part is in: the length, where it is known, and the rest. -/
def heldOf (t : Tp20State) (part : Bytes) : Option Nat × Bytes :=
  match t.want, t.pending ++ part with
  | none, b0 :: b1 :: rest => (some (b0.toNat * 256 + b1.toNat), rest)
  | want, pending => (want, pending)

/-- What `tp20Data` does with it. -/
def tp20Take (ecu : Bytes → Option Bytes) (t : Tp20State) (rxId : Nat) (ack : List (Nat × Bytes))
    (held : Option Nat × Bytes) : Option Handled :=
  match held.1 with
  | none => some { taken := true, state := { t with pending := held.2, want := none }, sent := ack }
  | some want =>
    if want ≤ held.2.length then
      let req := held.2.take want
      match tp20Reply ecu t.txSeq req with
      | none => none
      | some reply =>
        some { taken := true
               state := { t with pending := [], want := none, txSeq := reply.2 }
               sent := ack ++ reply.1.map fun d => (rxId, d)
               answered := [req] }
    else
      some { taken := true, state := { t with pending := held.2, want := some want }, sent := ack }

theorem tp20Data_eq (rxId : Nat) (op seq : UInt8) (part : Bytes) :
    tp20Data ecu t rxId op seq part = tp20Take ecu t rxId
      (if op = 0 ∨ op = 1 then [(rxId, [0xb0 ||| ((seq + 1) &&& 0x0f)])] else [])
      (heldOf t part) := rfl

theorem heldOf_want (ht : t.Sound) (part : Bytes) : ∀ w, (heldOf t part).1 = some w →
    w ≤ 0xffff := by
  intro w hw
  unfold heldOf at hw
  split at hw
  · rw [← Option.some.inj hw]
    exact two_bytes _ _
  · exact ht.want w hw

/-- What a data frame does: it raises only where `_tp20_reply` does. -/
theorem tp20Data_spec (ht : t.Sound) (rxId : Nat) (op seq : UInt8) (part : Bytes) :
    (tp20Data ecu t rxId op seq part = none ∧
      ∃ req, req.length ≤ 0xffff ∧ tp20Reply ecu t.txSeq req = none) ∨
    ∃ h, tp20Data ecu t rxId op seq part = some h ∧ h.state.Sound ∧ ∀ m ∈ h.sent, m.2.length ≤ 8 := by
  have hwant := heldOf_want ht part
  rw [tp20Data_eq]
  generalize hack : (if op = 0 ∨ op = 1 then [(rxId, [0xb0 ||| ((seq + 1) &&& 0x0f)])] else
    []) = ack
  have hack' : ∀ m ∈ ack, m.2.length ≤ 8 := fun m hm => ack_mem (hack ▸ hm)
  generalize heldOf t part = held at hwant
  unfold tp20Take
  cases hw : held.1 with
  | none => exact Or.inr ⟨_, rfl, ⟨ht.ids, fun w hw => nomatch hw⟩, hack'⟩
  | some want =>
      simp only
      split
      · cases hr : tp20Reply ecu t.txSeq (held.2.take want) with
        | none =>
            exact Or.inl ⟨rfl, _, Nat.le_trans (List.length_take_le _ _) (hwant want hw), hr⟩
        | some reply =>
            refine Or.inr ⟨_, rfl, ⟨ht.ids, fun w hw => nomatch hw⟩, fun m hm => ?_⟩
            rcases List.mem_append.mp hm with hm | hm
            · exact hack' m hm
            · obtain ⟨d, hd, rfl⟩ := List.mem_map.mp hm
              exact tp20Reply_length hr hd
      · refine Or.inr ⟨_, rfl, ⟨ht.ids, fun w h => ?_⟩, hack'⟩
        rw [← Option.some.inj h]
        exact hwant want hw

/-- **What a frame does to the TP2.0 channel**: it raises only where `_tp20_reply` does, and what
    it sends are CAN frames. -/
theorem tp20Handle_spec (ht : t.Sound) (ch : Nat) (payload : Bytes) :
    (tp20Handle modules ecu t ch payload = none ∧
      ∃ req, req.length ≤ 0xffff ∧ tp20Reply ecu t.txSeq req = none) ∨
    ∃ h, tp20Handle modules ecu t ch payload = some h ∧ h.state.Sound ∧
      ∀ m ∈ h.sent, m.2.length ≤ 8 := by
  have hnone : ∀ m ∈ ([] : List (Nat × Bytes)), m.2.length ≤ 8 :=
    fun m hm => absurd hm List.not_mem_nil
  unfold tp20Handle
  split
  · exact Or.inr ⟨_, rfl, ht, hnone⟩
  rename_i hch
  simp only
  split
  · split
    · exact Or.inr ⟨_, rfl, ht, hnone⟩
    · refine Or.inr ⟨_, rfl, ⟨rfl, fun w hw => nomatch hw⟩, fun m hm => ?_⟩
      rw [List.mem_singleton.mp hm]
      exact Nat.le_of_ble_eq_true rfl
  · split
    · exact Or.inr ⟨_, rfl, ht, hnone⟩
    rename_i htx
    -- both ids are there, and a byte of data
    have htx' : t.txId = some (BigEndian.value (payload.take 4)) := not_not.mp htx
    obtain ⟨rxId, hrx⟩ : ∃ rxId, t.rxId = some rxId := by
      refine Option.isSome_iff_exists.mp ?_
      rw [ht.ids, htx']
      rfl
    obtain ⟨d0, part, hd⟩ : ∃ d0 part, payload.drop 4 = d0 :: part := by
      refine List.exists_cons_of_ne_nil fun e => hch (Or.inr ?_)
      have := congrArg List.length e
      rw [List.length_drop, List.length_nil] at this
      omega
    rw [hrx, hd]
    simp only
    split
    · refine Or.inr ⟨_, rfl, ht, fun m hm => ?_⟩
      rw [List.mem_singleton.mp hm]
      exact Nat.le_of_ble_eq_true rfl
    split
    · refine Or.inr ⟨_, rfl, ⟨rfl, ht.want⟩, fun m hm => ?_⟩
      rw [List.mem_singleton.mp hm]
      exact Nat.le_of_ble_eq_true rfl
    split
    · exact Or.inr ⟨_, rfl, ht, hnone⟩
    split
    · exact Or.inr ⟨_, rfl, ht, hnone⟩
    · exact tp20Data_spec ht rxId _ _ part

end Tp20

theorem Setup.Answerable.reply {e : Setup} (h : e.Answerable) (seq : UInt8) {req : Bytes}
    (hr : req.length ≤ 0xffff) : tp20Reply e.ecu seq req ≠ none := by
  obtain ⟨resp, ha, hl⟩ := h req hr
  unfold tp20Reply
  rw [ha]
  simp only
  rw [if_neg (Nat.not_lt_of_le hl)]
  exact fun e => nomatch e

/-- `_tp20_send`, one after the other. -/
theorem tp20Send_framed (e : Setup) (i : Fin 10) : ∀ (sent : List (Nat × Bytes)) (s : Sim),
    (∀ m ∈ sent, m.2.length ≤ 8) → ∃ s', s.tp20Send e i.val sent = some s' ∧ Framed e s s'
  | [], s, _ => ⟨s, rfl, Framed.refl e s⟩
  | m :: sent, s, h => by
      have hlen : (BigEndian.bytes 4 m.1 ++ m.2).length ≤ 250 := by
        have := h m List.mem_cons_self
        have h4 : (BigEndian.bytes 4 m.1).length = 4 := BigEndian.bytes_length 4 m.1
        rw [List.length_append, h4]
        omega
      obtain ⟨s1, h1, hf1⟩ := frame_framed e s i 0x00 hlen
      obtain ⟨s2, h2, hf2⟩ := tp20Send_framed e i sent s1 fun n hn =>
        h n (List.mem_cons_of_mem m hn)
      refine ⟨s2, ?_, hf1.trans hf2⟩
      show (s.frame e i.val 0x00 (BigEndian.bytes 4 m.1 ++ m.2)).bind
        (fun s => s.tp20Send e i.val sent) = _
      rw [h1]
      exact h2

/-! ## 2. A transmit -/

/-- What `_cmd_transmit` does once the frame was on the bus: frames, its reply, frames, and then
    what becomes of a frame of TP2.0, or of any other. -/
theorem transmitted_steps (e : Setup) (s : Sim) (i : Fin 10) (c : Channel) (payload : Bytes)
    {h : Handled} (hh : tp20Handle e.tp20Modules e.ecu s.tp20 i.val payload = some h)
    (hsent : ∀ m ∈ h.sent, m.2.length ≤ 8) :
    ∃ s0 s1 s2 s3, s0.inner = s.inner ∧ (e.Plain → s0 = s) ∧ Framed e s0 s1 ∧
      Framed e (s1.ok e) s2 ∧ Framed e { s2 with tp20 := h.state } s3 ∧
      s.transmitted e i c payload =
        some (if h.taken then s3 else s3.later i (s3.ecuResponse e i payload)) := by
  have hdesync : (s.desynced e).inner = s.inner ∧ (e.Plain → s.desynced e = s) := by
    unfold Sim.desynced
    refine ⟨by split <;> rfl, fun hp => ?_⟩
    rw [if_neg fun hd => hd.1 hp.desync]
  obtain ⟨hinner0, hplain0⟩ := hdesync
  obtain ⟨s1, hs1, hf1⟩ := echoed_framed e (s.desynced e) i c payload
  obtain ⟨s2, hs2, hf2⟩ := indicated_framed e (s1.ok e) i payload
  have htp : s2.tp20 = s.tp20 :=
    inner_same Sim.tp20 (fun _ => rfl)
      (hf2.inner.trans ((ok_inner e s1).trans (hf1.inner.trans hinner0)))
  obtain ⟨s3, hs3, hf3⟩ := tp20Send_framed e i h.sent { s2 with tp20 := h.state } hsent
  refine ⟨s.desynced e, s1, s2, s3, hinner0, hplain0, hf1, hf2, hf3, ?_⟩
  unfold Sim.transmitted
  rw [hs1]
  show ((s1.ok e).indicated e i payload).bind _ = _
  rw [hs2]
  show ((tp20Handle e.tp20Modules e.ecu s2.tp20 i.val payload).bind _) = _
  rw [htp, hh]
  show ((Sim.tp20Send e { s2 with tp20 := h.state } i.val h.sent).bind _) = _
  rw [hs3]
  show (if h.taken = true then some s3 else some (s3.later i (s3.ecuResponse e i payload))) = _
  split <;> rfl

/-- It raises where handling the frame as TP2.0 does. -/
theorem transmitted_none {e : Setup} {s : Sim} {i : Fin 10} (c : Channel) {payload : Bytes}
    (hh : tp20Handle e.tp20Modules e.ecu s.tp20 i.val payload = none) :
    s.transmitted e i c payload = none := by
  have hdesync : (s.desynced e).inner = s.inner := by
    unfold Sim.desynced
    split <;> rfl
  obtain ⟨s1, hs1, hf1⟩ := echoed_framed e (s.desynced e) i c payload
  obtain ⟨s2, hs2, hf2⟩ := indicated_framed e (s1.ok e) i payload
  have htp : s2.tp20 = s.tp20 :=
    inner_same Sim.tp20 (fun _ => rfl)
      (hf2.inner.trans ((ok_inner e s1).trans (hf1.inner.trans hdesync)))
  unfold Sim.transmitted
  rw [hs1]
  show ((s1.ok e).indicated e i payload).bind _ = _
  rw [hs2]
  show ((tp20Handle e.tp20Modules e.ecu s2.tp20 i.val payload).bind _) = _
  rw [htp, hh]
  rfl

/-- A step is one move, or raises in `_tp20_reply`. -/
def Ends (e : Setup) (s : Sim) (o : Option Sim) : Prop :=
  (o = none ∧ ∃ req, req.length ≤ 0xffff ∧ tp20Reply e.ecu s.tp20.txSeq req = none) ∨
    ∃ s', o = some s' ∧ Moves s s'

theorem Moves.ends {s s' : Sim} (e : Setup) (h : Moves s s') : Ends e s (some s') :=
  Or.inr ⟨s', rfl, h⟩

theorem Ends.ite {e : Setup} {s : Sim} {p : Prop} [Decidable p] {a b : Option Sim} (ha : Ends e s a)
    (hb : Ends e s b) : Ends e s (if p then a else b) := by
  by_cases h : p
  · rw [if_pos h]
    exact ha
  · rw [if_neg h]
    exact hb

/-- A response on its way changes none of what `Moves` speaks of. -/
theorem later_moves {s s' : Sim} (h : Moves s s') (i : Fin 10) (resp : Option Bytes) :
    Moves s (s'.later i resp) := by
  cases resp with
  | none => exact h
  | some resp => exact ⟨h.change, h.repeated, h.counted, h.tp20, h.pins⟩

theorem transmitted_ends {e : Setup} {s : Sim} (i : Fin 10) (c : Channel) (payload : Bytes)
    (ht : s.tp20.Sound) : Ends e s (s.transmitted e i c payload) := by
  have hspec : (tp20Handle e.tp20Modules e.ecu s.tp20 i.val payload = none ∧ _) ∨ _ :=
    tp20Handle_spec ht i.val payload
  rcases hspec with
    ⟨hnone, hr⟩ | ⟨h, hh, hsound, hsent⟩
  · exact Or.inl ⟨transmitted_none c hnone, hr⟩
  obtain ⟨s0, s1, s2, s3, h0, -, h1, h2, h3, heq⟩ := transmitted_steps e s i c payload hh hsent
  have hin : s2.inner = s.inner :=
    h2.inner.trans ((ok_inner e s1).trans (h1.inner.trans h0))
  have hm2 : Moves s { s2 with tp20 := h.state } := by
    have hm := Moves.of_inner hin
    exact ⟨hm.change, hm.repeated, hm.counted, fun _ => hsound, hm.pins⟩
  have hm3 : Moves s s3 := hm2.inner h3.inner
  rw [heq]
  refine Moves.ends e ?_
  split
  · exact hm3
  · exact later_moves hm3 i _

/-- The log of a transmit of the host's own. -/
theorem logged_moves {s s' : Sim} (ch : Nat) (payload : Bytes)
    (h : Moves { s with txCount := s.txCount + 1
                        txLog := s.txLog ++ [Transmit.mk ch payload false] } s') : Moves s s' := by
  refine ⟨h.change, ?_, ?_, h.tp20, h.pins⟩
  · rw [h.repeated]
    unfold Sim.repeated
    rw [List.filter_append]
    exact List.append_nil _
  · intro hn
    refine h.counted ?_
    show s.txCount + 1 = (s.txLog ++ [_]).length
    rw [List.length_append, hn]
    rfl

theorem cmdTransmit_ends {e : Setup} {s : Sim} (ht : s.tp20.Sound) (rest payload : Bytes) :
    Ends e s (s.cmdTransmit e rest payload) := by
  unfold Sim.cmdTransmit
  generalize splitCh rest = r
  obtain ⟨ch, args⟩ := r
  cases ch with
  | none => exact (moves_err e s _).ends e
  | some ch =>
      cases args with
      | nil => exact (moves_err e s _).ends e
      | cons a0 more =>
          simp only
          cases s.find (some ch) with
          | none =>
              obtain ⟨s1, h1, hin⟩ := txIndication_some e s ch payload
              simp only [h1]
              exact ((Moves.of_inner hin).ok e).ends e
          | some ic =>
              refine Ends.ite ((moves_err e s _).ends e) (Ends.ite ?_ (Ends.ite ?_ ?_))
              · exact (logged_moves ch payload ((Moves.refl _).ok e)).ends e
              · exact (logged_moves ch payload (moves_err e _ _)).ends e
              · rcases transmitted_ends (e := e) (s := { s with
                    txCount := s.txCount + 1
                    txLog := s.txLog ++ [Transmit.mk ch payload false] }) ic.1 ic.2 payload ht with
                  hr | ⟨s', hs, hm⟩
                · exact Or.inl hr
                · exact Or.inr ⟨s', hs, logged_moves ch payload hm⟩

/-! ## 3. The other commands -/

theorem cmdInit_moves (e : Setup) (s : Sim) (rest payload : Bytes) (fiveBaud : Bool) :
    Moves s (s.cmdInit e rest payload fiveBaud) := by
  unfold Sim.cmdInit
  split
  · exact moves_err e s _
  · simp only
    split
    · exact .of_inner (reply_inner e s _)
    · exact .of_inner (reply_inner e s _)
    · exact later_moves (.of_inner (ok_inner e s)) _ _

theorem cmdPinVerbP_moves (e : Setup) (s : Sim) (rest : Bytes) :
    Moves s (s.cmdPinVerbP e rest) := by
  unfold Sim.cmdPinVerbP
  split
  · split
    · exact moves_err e s _
    · exact moves_err e s _
  · exact moves_err e s _

theorem closeAll_moves (s : Sim) : Moves s s.closeAll :=
  ⟨.cleared, rfl, id, id, fun h => (h.jackSet (Or.inl rfl)).supplySet (by decide)⟩

/-- **A command of any line is one move, or raises in `_tp20_reply`.** -/
theorem command_ends {e : Setup} {s : Sim} (ht : s.tp20.Sound) (verb : UInt8)
    (rest payload : Bytes) : Ends e s (s.command e verb rest payload) := by
  refine .ite ?reset (.ite ?info (.ite ?opening (.ite ?close (.ite ?pin (.ite ?voltage (.ite ?get
    (.ite ?set (.ite ?filter (.ite ?stopFilter (.ite ?clear (.ite ?transmit (.ite ?fast
      (.ite ?five (.ite ?pinVerb (.ite ?periodic (.ite ?stop (.ite ?unknown ?silent)))))))))))))))))
  case reset => exact ((closeAll_moves s).ok e).ends e
  case info => exact (Moves.of_inner (reply_inner e s _)).ends e
  case opening => exact (cmdOpen_moves e s rest).ends e
  case close => exact (cmdClose_moves e s rest).ends e
  case pin => exact (cmdReadPin_moves e s rest).ends e
  case voltage => exact (cmdVoltage_moves e s rest).ends e
  case get => exact (cmdGetConfig_moves e s rest).ends e
  case set => exact (cmdSetConfig_moves e s rest).ends e
  case filter => exact (cmdFilter_moves e s rest payload).ends e
  case stopFilter => exact (cmdStopFilter_moves e s rest).ends e
  case clear => exact (cmdClearPeriodic_moves e s rest).ends e
  case transmit => exact cmdTransmit_ends ht rest payload
  case fast => exact (cmdInit_moves e s rest payload false).ends e
  case five => exact (cmdInit_moves e s rest payload true).ends e
  case pinVerb => exact (cmdPinVerbP_moves e s rest).ends e
  case periodic => exact (cmdPeriodicVendor_moves e s rest payload).ends e
  case stop => exact (cmdPeriodicStop_moves e s rest).ends e
  case unknown => exact ((Moves.refl s).ok e).ends e
  case silent => exact (Moves.refl s).ends e

theorem handle_ends {e : Setup} {s : Sim} (ht : s.tp20.Sound) (line payload : Bytes) :
    Ends e s (handle e s line payload) := by
  have hcount : Sim.inner { s with cmdCount := s.cmdCount + 1 } = s.inner := rfl
  unfold handle
  simp only
  refine .ite (Or.inr ⟨_, rfl, .gone, rfl, id, id, id⟩) ?_
  split
  · rename_i verb rest _
    rcases command_ends (e := e) (s := { s with
        cmdCount := s.cmdCount + 1, seq := trailingSeq verb rest }) ht verb rest payload with
      hr | ⟨s', hs, hm⟩
    · exact Or.inl hr
    · exact Or.inr ⟨s', hs, hm.change, hm.repeated, hm.counted, hm.tp20, hm.pins⟩
  · exact (Moves.of_inner hcount).ends e

/-! ## 4. Timers and threads -/

theorem fire_moves (e : Setup) (s : Sim) (k : Nat) : ∃ s', s.fire e k = some s' ∧ Moves s s' := by
  unfold Sim.fire
  split
  · exact ⟨s, rfl, .refl s⟩
  · rename_i i resp _
    obtain ⟨s', hs, hf⟩ := sendMessage_framed e { s with timers := s.timers.eraseIdx k } i resp false
    have hm : Moves s { s with timers := s.timers.eraseIdx k } := ⟨.same, rfl, id, id, id⟩
    exact ⟨s', hs, hm.inner hf.inner⟩

/-- What a thread that woke sends: the message whose entry it read before, and the answer. -/
theorem periodicSend_framed (e : Setup) (s : Sim) (th : Engine) (c : Channel) (payload : Bytes) :
    ∃ s', s.periodicSend e th c payload = some s' ∧ Framed e { s with
      txCount := s.txCount + 1, txLog := s.txLog ++ [Transmit.mk th.channel.val payload true] } s' := by
  unfold Sim.periodicSend
  simp only
  generalize hs0 : ({ s with txCount := s.txCount + 1
                             txLog := s.txLog ++ [Transmit.mk th.channel.val payload true] } : Sim) = s0
  obtain ⟨s1, hs1, hf1⟩ := echoed_framed e s0 th.channel c payload
  rw [hs1]
  simp only [Option.bind_eq_bind, Option.bind_some]
  cases s1.ecuResponse e th.channel payload with
  | none => exact ⟨s1, rfl, hf1⟩
  | some resp =>
      obtain ⟨s2, hs2, hf2⟩ := sendMessage_framed e s1 th.channel resp false
      exact ⟨s2, hs2, hf1.trans hf2⟩

/-- **What a turn of a thread can do**: nothing, end, go to sleep on its entry, or send the message
    it slept for, which is still there. -/
inductive Turn (e : Setup) (s : Sim) (k : Nat) : Sim → Prop where
  | idle : s.engines[k]? = none → Turn e s k s
  | ended (th : Engine) : s.engines[k]? = some th →
      s.table.entryOf th = none ∨ s.table.closed = true ∨
        (∃ c p, s.table.entryOf th = some (c, p) ∧ ¬p.Sleeps) →
      Turn e s k { s with engines := s.engines.eraseIdx k }
  | slept (th : Engine) (c : Channel) (p : Periodic) : s.engines[k]? = some th →
      th.asleep = none → s.table.entryOf th = some (c, p) →
      Turn e s k { s with engines := s.engines.set k { th with asleep := some p } }
  | sent (th : Engine) (c : Channel) (q p : Periodic) (s' : Sim) : s.engines[k]? = some th →
      th.asleep = some p → s.table.entryOf th = some (c, q) →
      Framed e { s with engines := s.engines.set k { th with asleep := none }
                        txCount := s.txCount + 1
                        txLog := s.txLog ++ [Transmit.mk th.channel.val p.payload true] } s' →
      Turn e s k s'

theorem turn_cases (e : Setup) (s : Sim) (k : Nat) : ∃ s', s.turn e k = some s' ∧ Turn e s k s' := by
  unfold Sim.turn
  cases hk : s.engines[k]? with
  | none => exact ⟨s, rfl, .idle hk⟩
  | some th =>
      have hentry : s.entryOf th = s.table.entryOf th := rfl
      simp only
      rw [hentry]
      cases he : s.table.entryOf th with
      | none => exact ⟨_, rfl, .ended th hk (Or.inl he)⟩
      | some cp =>
          cases ha : th.asleep with
          | none =>
              simp only
              split
              · rename_i hend
                refine ⟨_, rfl, .ended th hk (Or.inr ?_)⟩
                rcases hend with hc | hneg
                · exact Or.inl hc
                · exact Or.inr ⟨cp.1, cp.2, he, hneg⟩
              · exact ⟨_, rfl, .slept th cp.1 cp.2 hk ha he⟩
          | some p =>
              simp only
              obtain ⟨s', hs, hf⟩ := periodicSend_framed e
                { s with engines := s.engines.set k { th with asleep := none } } th cp.1 p.payload
              exact ⟨s', hs, .sent th cp.1 cp.2 p s' hk ha he hf⟩

theorem Turn.change {e : Setup} {s s' : Sim} {k : Nat} (h : Turn e s k s') :
    Change s.table s'.table := by
  cases h with
  | idle => exact .same
  | ended th hk hend => exact .ended k th hk hend
  | slept th c p hk _ he =>
      refine .turned k th (some p) hk fun q hq => ?_
      exact ⟨c, Option.some.inj hq ▸ he⟩
  | sent th c q p _ hk _ _ hf =>
      rw [inner_same Sim.table (fun _ => rfl) hf.inner]
      exact .turned k th none hk fun q hq => nomatch hq

end Openport.Simulator
