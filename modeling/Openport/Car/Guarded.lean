/-
  File:      Openport/Car/Guarded.lean
  Subject:   The invariant of the capture tool, and its TP2.0 channel.

  `At o m` is the invariant of a run under the options `o`: the log is in order,
  the ids the guard lets through were unlocked in it, and `m` says whether a
  TP2.0 message is going on. It stands the guarded frames, so the sections keep
  it; the channel of TP2.0 is followed here frame by frame. Where `request` is
  left in the middle of a message nothing but the disconnect and the shutdown
  follows.
-/
import Openport.Car.Conduct

namespace Openport.Car

open Lib Lib.Decimal Lib.Raising Lib.Segments Simulator

variable {o : Options} {m m' : Bool} {s : Tool}

/-! ## 1. The invariant -/

/-- The log is in order, and the tool's globals are what the log says. -/
structure At (o : Options) (m : Bool) (s : Tool) : Prop where
  inside : Inside o s.log
  session : s.session = o.session
  extra : ∀ id ∈ s.extraTx, id ∈ unlockedIds s.log
  txId : ∀ id, s.chan.txId = some id → (id : Int) ∈ s.extraTx
  mid : midMessage s.log = m

/-- In order, in a message or not. -/
def Safe (o : Options) (s : Tool) : Prop := ∃ m, At o m s

theorem Keeps.safe {E : Raised → Prop} {α : Type} {x : Act α} (h : ∀ m, Keeps (At o m) E x) :
    Keeps (Safe o) E x := by
  intro s hs
  obtain ⟨m, hm⟩ := hs
  have hx := h m s hm
  revert hx
  rcases x s with ⟨e | a, s'⟩
  · exact fun hx => ⟨⟨m, hx.1⟩, hx.2⟩
  · exact fun hx => ⟨m, hx⟩

theorem At.wrote (h : At o m s) {line payload : Bytes} (hw : WriteOk o s.log line payload)
    (hm : midMessage (s.wrote line payload).log = m') : At o m' (s.wrote line payload) :=
  ⟨⟨hw, h.inside⟩, h.session, h.extra, h.txId, hm⟩

theorem At.chan (h : At o m s) {c : Tp20Channel} (hc : c.txId = s.chan.txId) :
    At o m { s with chan := c } :=
  ⟨h.inside, h.session, h.extra, fun id hid => h.txId id (hc ▸ hid), h.mid⟩

theorem attOn_isAtt {ch : Nat} {line : Bytes} (h : isAtt line = false) : attOn ch line = false := by
  cases hatt : attOn ch line with
  | false => rfl
  | true =>
      have hpre := (List.prefix_append (ascii "att") (decimal ch ++ [0x20])).trans
        (List.isPrefixOf_iff_prefix.mp hatt)
      rw [← List.isPrefixOf_iff_prefix] at hpre
      exact absurd (hpre.symm.trans h) (by decide)

/-- The id in front of a frame. -/
theorem canIdOf_pack {id : Int} (h : Packs id) (data : Bytes) :
    canIdOf (BigEndian.bytes 4 id.toNat ++ data) = id := by
  unfold canIdOf
  rw [List.take_left' (BigEndian.bytes_length 4 _), BigEndian.value_bytes]
  · exact Int.toNat_of_nonneg h.1
  · have := h.2
    omega

theorem drop_pack (id : Int) (data : Bytes) : (BigEndian.bytes 4 id.toNat ++ data).drop 4 = data :=
  List.drop_left' (BigEndian.bytes_length 4 _)

/-- An id the guard lets through is in order. -/
theorem At.idOk (h : At o m s) {id : Int} (ha : Admitted s.extraTx id) : IdOk s.log id := by
  rcases ha with ha | ha
  · exact Or.inr (h.extra id ha)
  · exact Or.inl ha

theorem pack_length (id : Int) (data : Bytes) : 4 ≤ (BigEndian.bytes 4 id.toNat ++ data).length := by
  rw [List.length_append, BigEndian.bytes_length]
  omega

theorem steady_at (o : Options) (m : Bool) {E : Raised → Prop} (hf : E .failed)
    (hi : E .interrupt) : Steady (At o m) E where
  calls := fun s n h => ⟨h.inside, h.session, h.extra, h.txId, h.mid⟩
  plain := by
    intro s line payload h hl
    have h5 : attOn 5 line = false := attOn_isAtt hl
    refine h.wrote ⟨?_, ?_, ?_, ?_⟩ ?_
    · rw [h5, attOn_isAtt hl]
      exact fun e => e.elim (fun e => (nomatch e)) fun e => (nomatch e)
    · rw [attOn_isAtt hl]
      exact fun e => (nomatch e)
    · rw [h5]
      exact fun e => (nomatch e)
    · rw [hl]
      exact fun e => (nomatch e)
    · show (if attOn 5 line then _ else _) = m
      rw [h5, if_neg (by decide)]
      exact h.mid
  failed := fun _ _ _ _ => hf
  interrupt := fun _ _ _ _ => hi

theorem at_can (h : At o m s) {id : Int} {service : Bytes} (n : Nat) (args : List Nat)
    (ha : Admitted s.extraTx id) (hp : Packs id) (hs : ServiceOk s.session service) :
    At o m (s.wrote (lineOf "att" 6 (n :: args)) (BigEndian.bytes 4 id.toNat ++ service)) := by
  have h5 : attOn 5 (lineOf "att" 6 (n :: args)) = false := rfl
  have h6 : attOn 6 (lineOf "att" 6 (n :: args)) = true := rfl
  refine h.wrote ⟨?_, ?_, ?_, ?_⟩ h.mid
  · rw [canIdOf_pack hp]
    exact fun _ => ⟨pack_length _ _, h.idOk ha⟩
  · rw [drop_pack, ← h.session]
    exact fun _ => hs
  · rw [h5]
    exact fun e => (nomatch e)
  · rw [h6]
    exact fun _ _ e => (nomatch e)

/-- **The invariant stands the guarded frames.** -/
theorem conduct_at (o : Options) (m : Bool) : Conduct (At o m) fun _ => True where
  toSteady := steady_at o m trivial trivial
  refusal := trivial
  failure := trivial
  can := fun s id service n args h ha hp hs => at_can h n args ha hp hs
  kline := by
    intro s ch header service n args h hch hlen hs
    have hline : isAtt (lineOf "att" ch (n :: args)) = true ∧
        attOn 5 (lineOf "att" ch (n :: args)) = false ∧
        attOn 6 (lineOf "att" ch (n :: args)) = false := by
      rcases hch with rfl | rfl <;> exact ⟨rfl, rfl, rfl⟩
    refine h.wrote ⟨?_, ?_, ?_, ?_⟩ ?_
    · rw [hline.2.1, hline.2.2]
      exact fun e => e.elim (fun e => (nomatch e)) fun e => (nomatch e)
    · rw [hline.2.2]
      exact fun e => (nomatch e)
    · rw [hline.2.1]
      exact fun e => (nomatch e)
    · rw [← hlen, List.drop_left, ← h.session]
      exact fun _ _ _ => hs
    · show (if attOn 5 (lineOf "att" ch (n :: args)) then _ else _) = m
      rw [hline.2.1, if_neg (by decide)]
      exact h.mid

/-! ## 2. Frames of the raw channel -/

/-- **A raw frame with an admitted id**: the invariant behind it, where a message that starts with
    it begins with a service in order. -/
theorem At.raw (h : At o m s) {id : Int} {data : Bytes} (args : List Nat)
    (ha : Admitted s.extraTx id) (hp : Packs id)
    (hs : starts m (BigEndian.bytes 4 id.toNat ++ data) = true → ServiceOk o.session (data.drop 3)) :
    At o (midAfter m (BigEndian.bytes 4 id.toNat ++ data))
      (s.wrote (lineOf "att" tp20Ch ((BigEndian.bytes 4 id.toNat ++ data).length :: args))
        (BigEndian.bytes 4 id.toNat ++ data)) := by
  generalize (BigEndian.bytes 4 id.toNat ++ data).length = n
  have h5 : attOn 5 (lineOf "att" tp20Ch (n :: args)) = true := rfl
  have h6 : attOn 6 (lineOf "att" tp20Ch (n :: args)) = false := rfl
  refine h.wrote ⟨?_, ?_, ?_, ?_⟩ ?_
  · rw [canIdOf_pack hp]
    exact fun _ => ⟨pack_length _ _, h.idOk ha⟩
  · rw [h6]
    exact fun e => (nomatch e)
  · intro _ hstart
    rw [h.mid] at hstart
    have := hs hstart
    rwa [← drop_pack id data, List.drop_drop] at this
  · rw [h5]
    exact fun _ e => (nomatch e)
  · show (if attOn 5 (lineOf "att" tp20Ch (n :: args)) then midAfter (midMessage s.log) _ else _) = _
    rw [h5, if_pos rfl, h.mid]

/-- A frame that is no data leaves a message as it was. -/
theorem At.control (h : At o m s) {id : Int} {data : Bytes} (args : List Nat)
    (ha : Admitted s.extraTx id) (hp : Packs id) (hop : 3 < opcode data) :
    At o m (s.wrote (lineOf "att" tp20Ch ((BigEndian.bytes 4 id.toNat ++ data).length :: args))
      (BigEndian.bytes 4 id.toNat ++ data)) := by
  have hmid : midAfter m (BigEndian.bytes 4 id.toNat ++ data) = m := by
    unfold midAfter
    rw [drop_pack, if_pos (Or.inl hop)]
  have := h.raw args ha hp fun hstart => by
    unfold starts at hstart
    rw [drop_pack, decide_eq_false (UInt8.not_le.mpr hop), Bool.and_false] at hstart
    cases hstart
  rwa [hmid] at this

/-- Neither does a setup between messages. -/
theorem At.setup (h : At o false s) {data : Bytes} (args : List Nat)
    (ha : Admitted s.extraTx (tp20SetupId : Int)) (hlen : data.length = 7)
    (hc : data.getD 1 0 = 0xc0) :
    At o false (s.wrote (lineOf "att" tp20Ch
      ((BigEndian.bytes 4 (tp20SetupId : Int).toNat ++ data).length :: args))
      (BigEndian.bytes 4 (tp20SetupId : Int).toNat ++ data)) := by
  have hp : Packs (tp20SetupId : Int) := ⟨by decide, by decide⟩
  have hset : isSetup (BigEndian.bytes 4 (tp20SetupId : Int).toNat ++ data) = true := by
    unfold isSetup
    rw [canIdOf_pack hp, drop_pack, hlen, hc]
    rfl
  have hmid : midAfter false (BigEndian.bytes 4 (tp20SetupId : Int).toNat ++ data) = false := by
    unfold midAfter
    rw [if_pos (Or.inr ⟨rfl, hset⟩)]
  have := h.raw args ha hp fun hstart => by
    unfold starts at hstart
    rw [hset, Bool.not_true, Bool.and_false, Bool.false_and] at hstart
    cases hstart
  rwa [hmid] at this

/-! ## 3. The channel on its port -/

theorem setChan_keeps {E : Raised → Prop} {f : Tp20Channel → Tp20Channel}
    (hf : ∀ c, (f c).txId = c.txId) : Keeps (At o m) E (setChan f) :=
  Triple.modify fun s hs => hs.chan (hf s.chan)

/-- What is left where a frame was refused, and where something else was raised: where the guard
    refused, what was known before is known still. -/
def Left (o : Options) (m m' : Bool) (P : Tool → Prop) (id : Int) (e : Raised) (s : Tool) : Prop :=
  (At o m s ∨ At o m' s) ∧ (e = .refused → P s ∧ ¬Admitted s.extraTx id)

theorem tp20Send_spec {P : Tool → Prop} {id : Int} {data : Bytes} (wait : Bool)
    (hw : ∀ s, At o m s → Admitted s.extraTx id → Packs id →
      At o m' (s.wrote (lineOf "att" tp20Ch [(BigEndian.bytes 4 id.toNat ++ data).length, 0])
        (BigEndian.bytes 4 id.toNat ++ data))) :
    Triple (fun s => At o m s ∧ P s) (tp20Send id data wait) (fun _ => At o m')
      (Left o m m' P id) := by
  have hst : Steady (At o m') (· ≠ .refused) := steady_at o m' (by decide) (by decide)
  have hleft : ∀ e s, At o m' s ∧ e ≠ .refused → Left o m m' P id e s :=
    fun e s hs => ⟨Or.inr hs.1, fun he => absurd he hs.2⟩
  refine Triple.bind ((guardTx_spec id).raising
    fun e s hs => ⟨Or.inl hs.1.1, fun _ => ⟨hs.1.2, hs.2.2⟩⟩) fun _ => ?_
  refine Triple.bind (pack_spec id fun _ s hs => ⟨Or.inl hs.1.1, fun he => (nomatch he)⟩) fun b =>
    Triple.fact fun hb => ?_
  rw [hb.1]
  refine Triple.bind ((hst.osWrite_to fun s hs => hw s hs.1.1 hs.2 hb.2).raising hleft) fun _ => ?_
  split
  · refine Triple.bind (hst.drain_keeps.raising hleft) fun d => ?_
    exact Triple.modify fun s hs => hs.chan rfl
  · exact Triple.pure fun s hs => hs

/-- **A frame to the module is never refused.** -/
theorem sendToModule_spec {data : Bytes} (wait : Bool)
    (hw : ∀ s id, At o m s → Admitted s.extraTx id → Packs id →
      At o m' (s.wrote (lineOf "att" tp20Ch [(BigEndian.bytes 4 id.toNat ++ data).length, 0])
        (BigEndian.bytes 4 id.toNat ++ data))) :
    Triple (At o m) (sendToModule data wait) (fun _ => At o m')
      fun e s => (At o m s ∨ At o m' s) ∧ e ≠ .refused := by
  refine Triple.bind (M := fun s s' => At o m s' ∧ s' = s) (Triple.get fun s hs => ⟨hs, rfl⟩)
    fun s => ?_
  split
  · rename_i id hid
    refine (tp20Send_spec (P := fun s => Admitted s.extraTx (id : Int)) wait
      fun s hs => hw s id hs).conseq (fun s' hs => ⟨hs.1, Or.inl (hs.1.txId id ?_)⟩)
      (fun _ _ hs => hs) fun e s' hs => ⟨hs.1, fun he => (hs.2 he).2 (hs.2 he).1⟩
    rw [hs.2]
    exact hid
  · exact Triple.throw fun s' hs => ⟨Or.inl hs.1, by decide⟩

/-- A frame to the module that is no data. -/
theorem sendControl_keeps {data : Bytes} (wait : Bool) (hop : 3 < opcode data) :
    Keeps (At o m) (fun _ => True) (sendToModule data wait) :=
  (sendToModule_spec wait fun _ _ hs ha hp => hs.control [0] ha hp hop).raising
    fun _ _ hs => ⟨hs.1.elim id id, trivial⟩

theorem tp20Pump_keeps : Keeps (At o m) (fun _ => True) tp20Pump := by
  refine Keeps.bind (conduct_at o m).drain_keeps fun d => Keeps.bind Keeps.get fun s => ?_
  exact Keeps.bind (setChan_keeps fun _ => rfl) fun _ => Keeps.pure _

theorem awaitFrame_keeps (rxId : Option Int) (pred : Bytes → Bool) :
    Keeps (At o m) (fun _ => True) (awaitFrame rxId pred) := by
  refine Keeps.bind (conduct_at o m).rounds_keeps fun n => ?_
  induction n with
  | zero => exact Keeps.pure _
  | succ n ih =>
      refine Keeps.bind tp20Pump_keeps fun fs => ?_
      split
      · exact Keeps.pure _
      · exact ih

/-- **The id of a setup reply is unlocked by it.** -/
theorem unlock_reply {d : Bytes} {rxId txId : Nat} (hd : tp20ParseSetup d = some (rxId, txId))
    {f : Tp20Channel → Tp20Channel} (hf : ∀ c, (f c).txId = some txId) (refused : Bool) :
    Keeps (At o m) (fun _ => True) (do
      setChan f
      unlock txId (.setupReply d)
      return refused) := by
  refine Triple.bind (M := fun _ s => ∃ s', At o m s' ∧ s = { s' with chan := f s'.chan })
    (Triple.modify fun s hs => ⟨s, hs, rfl⟩) fun _ => ?_
  refine Triple.bind (M := fun _ => At o m) (Triple.modify ?_) fun _ => Keeps.pure _
  rintro _ ⟨s, hs, rfl⟩
  refine ⟨⟨⟨rxId, txId, hd, rfl⟩, hs.inside⟩, hs.session, ?_, ?_, hs.mid⟩
  · intro id hid
    rcases List.mem_cons.mp hid with rfl | hid
    · exact List.mem_cons_self
    · exact List.mem_cons_of_mem _ (hs.extra id hid)
  · intro id hid
    have : txId = id := Option.some.inj ((hf s.chan).symm.trans hid)
    rw [this]
    exact List.mem_cons_self

/-- A setup form. -/
def SetupForm (setup : Bytes) : Prop := setup.length = 7 ∧ setup.getD 1 0 = 0xc0

theorem setupForms_keep (dest : Int) : ∀ {forms : List Bytes} (refused : Bool),
    (∀ f ∈ forms, SetupForm f) → Keeps (At o false) (fun _ => True) (setupForms dest forms refused)
  | [], _, _ => Keeps.pure _
  | setup :: forms, refused, h => by
      have hs := h setup List.mem_cons_self
      have ih : ∀ r, Keeps (At o false) (fun _ => True) (setupForms dest forms r) := fun r =>
        setupForms_keep dest r fun f hf => h f (List.mem_cons_of_mem _ hf)
      refine Keeps.bind ?_ fun _ => Keeps.bind (awaitFrame_keeps _ _) fun d => ?_
      · exact (tp20Send_spec (P := fun _ => True) false
          fun s hs' ha _ => hs'.setup [0] ha hs.1 hs.2).conseq (fun _ hs => ⟨hs, trivial⟩)
          (fun _ _ hs => hs) fun _ _ hs => ⟨hs.1.elim id id, trivial⟩
      · split
        · exact ih _
        · split
          · exact ih _
          · split
            · exact ih _
            · rename_i d _ _ rxId txId hids
              exact unlock_reply hids (fun _ => rfl) refused

theorem setupAttempts_keep (dest : Int) {forms : List Bytes} (h : ∀ f ∈ forms, SetupForm f) :
    ∀ (waits : List Bool) (refused : Bool),
      Keeps (At o false) (fun _ => True) (setupAttempts dest forms waits refused)
  | [], _ => Keeps.pure _
  | wait :: waits, refused => by
      have hrest : Keeps (At o false) (fun _ => True) (do
          let refused ← setupForms dest forms refused
          let s ← get
          if s.chan.txId.isSome ∨ refused = false then return
          else setupAttempts dest forms waits refused) := by
        refine Keeps.bind (setupForms_keep dest refused h) fun r => Keeps.bind Keeps.get fun s => ?_
        split
        · exact Keeps.pure _
        · exact setupAttempts_keep dest h waits r
      unfold setupAttempts
      cases wait with
      | true => exact Keeps.bind (conduct_at o false).sysCall_keeps fun _ => hrest
      | false => exact hrest

theorem byteOf_keeps (n : Int) : Keeps (At o m) (fun _ => True) (byteOf n) := by
  unfold byteOf
  split
  · exact Keeps.pure _
  · exact Keeps.throw trivial

theorem tp20Open_keeps : Keeps (At o false) (fun _ => True) tp20Open := by
  have hc := conduct_at o false
  refine Keeps.bind hc.resync_keeps fun _ => Keeps.bind (hc.cmd_keeps [] rfl) fun r => ?_
  split
  · exact Keeps.pure _
  · refine Triple.bind (hc.pack_keeps 0) fun mask => Triple.fact fun _ => ?_
    refine Keeps.bind (hc.cmd_keeps _ rfl) fun _ => Keeps.bind Keeps.get fun s => ?_
    refine Keeps.bind (byteOf_keeps _) fun b => ?_
    refine Keeps.bind (setupAttempts_keep _ ?_ _ _) fun _ => Keeps.bind Keeps.get fun s => ?_
    · intro f hf
      rcases List.mem_cons.mp hf with rfl | hf
      · exact ⟨rfl, rfl⟩
      · rw [List.mem_singleton.mp hf]
        exact ⟨rfl, rfl⟩
    · split
      · exact Keeps.pure _
      · refine Keeps.bind (sendControl_keeps false (by decide)) fun _ => ?_
        refine Keeps.bind Keeps.get fun s => Keeps.bind (awaitFrame_keeps _ _) fun d => ?_
        split
        · exact Keeps.pure _
        · exact Keeps.bind (setChan_keeps fun _ => rfl) fun _ => Keeps.pure _

theorem keepalive_keeps : Keeps (At o m) (fun _ => True) keepalive := by
  refine Keeps.bind Keeps.get fun s => ?_
  split
  · refine Keeps.bind (sendControl_keeps false (by decide)) fun _ => ?_
    exact Keeps.bind (awaitFrame_keeps _ _) fun _ => Keeps.pure _
  · exact Keeps.pure _

theorem tp20Close_keeps : Keeps (At o m) (fun _ => True) tp20Close := by
  refine Keeps.bind (Keeps.caught (fun _ => True) ?_ fun e _ => ?_) fun _ => ?_
  · refine Keeps.bind Keeps.get fun s => ?_
    split
    · exact sendControl_keeps true (by decide)
    · exact Keeps.pure _
  · split
    · exact Keeps.throw trivial
    · exact Keeps.pure _
  · refine Keeps.bind ((conduct_at o m).cmd_keeps [] rfl) fun _ => ?_
    exact setChan_keeps fun _ => rfl

/-! ## 4. A request -/

/-- What the receive loop sends is no data. -/
theorem reply_control {d : Bytes} (h : Reply d) : 3 < opcode d := by
  rcases h with rfl | ⟨n, rfl⟩
  · decide
  · show (3 : UInt8) < (0xb0 ||| (n &&& 0x0f)) >>> 4
    rw [ack_shift]
    decide

theorem takeFrames_keep (rxId : Option Nat) : ∀ (fs : List (Nat × Bytes)) (r : Gathered UInt8),
    Keeps (At o m) (fun _ => True) (takeFrames rxId r fs)
  | [], _ => Keeps.pure _
  | f :: fs, r => by
      have hsent : ∀ d ∈ (frameTurn rxId r f).1, 3 < opcode d := by
        unfold frameTurn
        split
        · exact fun d hd => reply_control (receiveFrame_replies _ r f d hd)
        · exact fun d hd => (nomatch hd)
      refine Keeps.bind (Keeps.forM fun d hd => sendControl_keeps false (hsent d hd)) fun _ => ?_
      split
      · exact takeFrames_keep rxId fs _
      · exact Keeps.pure _

theorem requestRounds_keep (rxId : Option Nat) : ∀ (n : Nat) (r : Gathered UInt8),
    Keeps (At o m) (fun _ => True) (requestRounds rxId n r)
  | 0, _ => Keeps.pure _
  | n + 1, r => by
      refine Keeps.bind tp20Pump_keeps fun fs => Keeps.bind (takeFrames_keep rxId fs r) fun t => ?_
      split
      · exact requestRounds_keep rxId n _
      · exact Keeps.bind (setChan_keeps fun _ => rfl) fun _ => Keeps.pure _
      · exact Keeps.pure _

/-- Left on the way through a message, by anything but a refusal. -/
def Broken (o : Options) (e : Raised) (s : Tool) : Prop := Safe o s ∧ e ≠ .refused

/-- The data frame of a chunk, where it does not start a message or starts one in order. -/
theorem sendData_spec {op seq : UInt8} {chunk : Bytes} (hop : op = 0x10 ∨ op = 0x20)
    (hs : m = false → ServiceOk o.session (chunk.drop 2) ∧
      ¬(chunk.length = 6 ∧ chunk.headD 0 = 0xc0)) :
    Triple (At o m) (sendToModule ((op ||| (seq &&& 0x0f)) :: chunk) false)
      (fun _ => At o (op == 0x20)) (Broken o) := by
  have hcode : opcode ((op ||| (seq &&& 0x0f)) :: chunk) = op >>> 4 := (number_split seq hop).1
  have hle : ¬(3 : UInt8) < op >>> 4 := by
    rcases hop with rfl | rfl <;> decide
  refine (sendToModule_spec false fun s id h ha hp => ?_).raising
    fun e s h => ⟨h.1.elim (fun h => ⟨_, h⟩) fun h => ⟨_, h⟩, h.2⟩
  have hset : m = false →
      isSetup (BigEndian.bytes 4 (id : Int).toNat ++ ((op ||| (seq &&& 0x0f)) :: chunk)) = false := by
    intro hm
    unfold isSetup
    rw [drop_pack]
    refine Bool.eq_false_iff.mpr fun h => (hs hm).2 ?_
    obtain ⟨h, hc⟩ := Bool.and_eq_true_iff.mp h
    have hlen := of_decide_eq_true (Bool.and_eq_true_iff.mp h).2
    refine ⟨Nat.succ.inj hlen, ?_⟩
    rw [List.headD_eq_head?_getD, List.head?_eq_getElem?]
    exact eq_of_beq hc
  have hmid : midAfter m (BigEndian.bytes 4 (id : Int).toNat ++ ((op ||| (seq &&& 0x0f)) :: chunk)) =
      (op == 0x20) := by
    unfold midAfter
    rw [drop_pack, hcode, if_neg]
    · rcases hop with rfl | rfl <;> rfl
    · rintro (h | ⟨hm, h⟩)
      · exact hle h
      · rw [hset hm] at h
        cases h
  have hstarts : starts m (BigEndian.bytes 4 (id : Int).toNat ++ ((op ||| (seq &&& 0x0f)) :: chunk)) =
      true → ServiceOk o.session (((op ||| (seq &&& 0x0f)) :: chunk).drop 3) := by
    intro hstart
    unfold starts at hstart
    refine (hs ?_).1
    have := (Bool.and_eq_true_iff.mp (Bool.and_eq_true_iff.mp hstart).1).1
    rwa [Bool.not_eq_true'] at this
  have := h.raw [0] ha hp hstarts
  rwa [hmid] at this

/-- The chunks of a message, the first of which begins with a request in order where none is under
    way: behind the last of them none is. -/
theorem sendChunks_spec : ∀ (cs : List Bytes) (m : Bool), cs ≠ [] →
    (m = false → ServiceOk o.session ((cs.headD []).drop 2) ∧
      ¬((cs.headD []).length = 6 ∧ (cs.headD []).headD 0 = 0xc0)) →
    Triple (At o m) (sendChunks (lastAsks cs)) (fun _ => At o false) (Broken o)
  | [], _, hne, _ => absurd rfl hne
  | [c], m, _, hs => by
      refine Triple.bind (M := fun _ => At o m) (Triple.get fun s h => h) fun s => ?_
      refine Triple.bind (sendData_spec (Or.inl rfl) hs) fun _ => ?_
      refine Triple.bind (M := fun _ => At o false) (Triple.modify fun s h => h.chan rfl) fun _ => ?_
      exact Triple.pure fun s h => h
  | c :: c' :: cs, m, _, hs => by
      refine Triple.bind (M := fun _ => At o m) (Triple.get fun s h => h) fun s => ?_
      refine Triple.bind (sendData_spec (Or.inr rfl) hs) fun _ => ?_
      refine Triple.bind (M := fun _ => At o true) (Triple.modify fun s h => h.chan rfl) fun _ => ?_
      exact sendChunks_spec (c' :: cs) true (List.cons_ne_nil _ _) fun e => (nomatch e)

/-- Only the first two bytes of a request decide. -/
theorem ServiceOk.take {session : Option UInt8} {req : Bytes} {n : Nat} (hn : 2 ≤ n)
    (h : ServiceOk session req) : ServiceOk session (req.take n) := by
  obtain ⟨k, rfl⟩ : ∃ k, n = k + 2 := ⟨n - 2, by omega⟩
  match req with
  | [] => exact h
  | [sid] => exact h
  | sid :: b :: rest => exact h

/-- The first chunk of a request in order. -/
theorem firstChunk {session : Option UInt8} {payload : Bytes} (h : ServiceOk session payload)
    (hlen : payload.length ≤ 0xffff) :
    ∃ c cs, split (BigEndian.bytes 2 payload.length ++ payload) 7 = c :: cs ∧
      ServiceOk session (c.drop 2) ∧ ¬(c.length = 6 ∧ c.headD 0 = 0xc0) := by
  have hbody : BigEndian.bytes 2 payload.length ++ payload =
      UInt8.ofNat (payload.length / 256) :: UInt8.ofNat payload.length :: payload := rfl
  obtain ⟨more, e, -⟩ := split_cons (n := 7) (by decide)
    (show BigEndian.bytes 2 payload.length ++ payload ≠ [] by rw [hbody]; exact List.cons_ne_nil _ _)
  refine ⟨_, more, e, ?_, ?_⟩
  · rw [hbody]
    exact h.take (by decide)
  · -- six bytes are all of it, and then its length is small
    rw [hbody]
    rintro ⟨h6, hc⟩
    have hfour : payload.length = 4 := by
      simp only [List.take_succ_cons, List.length_cons, List.length_take] at h6
      omega
    rw [hfour] at hc
    exact absurd (show UInt8.ofNat (4 / 256) = 0xc0 from hc) (by decide)

/-- What `request` leaves when it raises: a refusal comes before any of its frames. -/
def Unanswered (o : Options) (e : Raised) (s : Tool) : Prop :=
  Safe o s ∧ (e = .refused → At o false s)

/-- **A request keeps to the envelope**, and where it returns or is refused no message is under
    way. -/
theorem tp20Request_spec (payload : Bytes) :
    Triple (At o false) (tp20Request payload) (fun _ => At o false) (Unanswered o) := by
  have hkept : ∀ {β : Type} {x : Act β}, Keeps (At o false) (fun _ => True) x →
      Triple (At o false) x (fun _ => At o false) (Unanswered o) := fun hx =>
    hx.raising fun e s h => ⟨⟨_, h.1⟩, fun _ => h.1⟩
  match payload with
  | [] => exact Triple.bind (Triple.raises fun s h => ⟨⟨_, h⟩, fun _ => h⟩) fun _ _ h => h.elim
  | sid :: rest =>
      refine Triple.bind (M := fun _ s => At o false s ∧ ServiceOk o.session (sid :: rest))
        ((guardService_spec sid (sid :: rest)).exits (fun _ s h => ⟨h.1, ?_⟩)
          fun e s h => ⟨⟨_, h.1⟩, fun _ => h.1⟩) fun _ => Triple.fact fun hok => ?_
      · rcases h.2 with hsafe | ⟨hsid, b, hsess, hb⟩
        · exact Or.inl hsafe
        · refine Or.inr ⟨hsid, b, h.1.session.symm.trans hsess, ?_⟩
          rw [List.head?_eq_getElem?]
          exact hb
      · refine Triple.bind (hkept keepalive_keeps) fun _ => ?_
        cases hsplit : tp20Split (sid :: rest) with
        | none =>
            exact Triple.bind (Triple.raises fun s h => ⟨⟨_, h⟩, fun _ => h⟩) fun _ _ h => h.elim
        | some chunks =>
            unfold tp20Split at hsplit
            split at hsplit
            · cases hsplit
            · rename_i hlen
              obtain ⟨c, cs, hcs, hfirst, hform⟩ := firstChunk hok (Nat.not_lt.mp hlen)
              obtain rfl : lastAsks (c :: cs) = chunks := by
                rw [← hcs]
                exact Option.some.inj hsplit
              refine Triple.bind ((sendChunks_spec (c :: cs) false (List.cons_ne_nil _ _)
                fun _ => ⟨hfirst, hform⟩).raising
                fun e s h => ⟨h.1, fun he => absurd he h.2⟩) fun _ => ?_
              refine Triple.bind (hkept Keeps.get) fun s => ?_
              refine Triple.bind (hkept (conduct_at o false).rounds_keeps) fun n => ?_
              exact hkept (requestRounds_keep _ _ _)

/-! ## 5. The section -/

theorem readAll_spec : ∀ (reqs : List Bytes),
    Triple (At o false) (readAll reqs) (fun _ => At o false) fun _ s => Safe o s
  | [] => Triple.pure fun _ h => h
  | req :: reqs => by
      refine Triple.bind (M := fun _ => At o false)
        (Triple.caught (tp20Request_spec req) fun e => ?_) fun resp => ?_
      · split
        · rename_i he
          exact Triple.pure fun s h => h.2 he
        · exact Triple.throw fun s h => h.1
      · refine Triple.bind (M := fun _ => At o false) (Triple.get fun s h => h) fun s => ?_
        split
        · exact Triple.pure fun _ h => h
        · exact readAll_spec reqs

theorem openFirst_keeps : ∀ (dests : List Int), Keeps (At o false) (fun _ => True) (openFirst dests)
  | [] => Keeps.pure _
  | dest :: dests => by
      have hnew : Keeps (At o false) (fun _ => True) (setChan fun _ => { dest := dest }) :=
        Triple.modify fun s h =>
          ⟨h.inside, h.session, h.extra, fun id hid => (nomatch hid), h.mid⟩
      refine Keeps.bind hnew fun _ => Keeps.bind tp20Open_keeps fun ok => ?_
      cases ok with
      | true => exact Keeps.pure _
      | false => exact Keeps.bind tp20Close_keeps fun _ => openFirst_keeps dests

theorem q12Tp20_spec (dests : List Int) (extra : Option Bytes) :
    Triple (At o false) (q12Tp20 dests extra) (fun _ => At o false) fun _ s => Safe o s := by
  have hkept : ∀ {β : Type} {x : Act β}, Keeps (At o false) (fun _ => True) x →
      Triple (At o false) x (fun _ => At o false) fun _ s => Safe o s := fun hx =>
    hx.raising fun e s h => ⟨_, h.1⟩
  refine Triple.bind (hkept (openFirst_keeps dests)) fun ok => ?_
  cases ok with
  | false => exact Triple.pure fun _ h => h
  | true =>
      refine Triple.lastly (Triple.bind (hkept Keeps.get) fun s => readAll_spec _) ?_ ?_
      · exact fun _ => hkept tp20Close_keeps
      · exact fun _ => (Keeps.safe fun m => tp20Close_keeps).raising fun _ _ h => h.1

end Openport.Car
