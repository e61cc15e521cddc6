/-
  File:      Openport/Car/RoundTrip.lean
  Subject:   TP2.0 messages between the capture tool and the simulated module.

  A request goes out as numbered data frames and the module puts it together;
  its answer comes back as numbered data frames, between frames that carry no
  data, and the tester's loop puts that together. Both ends read the length off
  the first frame, the tester without its top bit, so they agree on every
  message below 2 ^ 15 bytes. What one frame does to either end is said once
  (`tp20Handle_data`, `receiveFrame_data`); a message is the induction over its
  chunks, a dialogue the one over its requests.
-/
import Openport.Car.Tp20

namespace Openport.Car

open Lib Lib.Segments Simulator

/-! ## 1. A dialogue -/

/-- A frame on the tester's id that is no data and does not close the channel: an acknowledgement, a
    channel-parameter reply or a channel test; or a frame on another id. -/
def Beside (rxId : Nat) (f : Nat × Bytes) : Prop :=
  f.1 ≠ rxId ∨ ∃ d0 part, f.2 = d0 :: part ∧
    (d0 >>> 4 = 0xb ∨ d0 >>> 4 = 0x9 ∨ (d0 >>> 4 = 0xa ∧ d0 ≠ 0xa8))

/-- The tester's end of an open channel. -/
structure Tester where
  rxId : Nat
  txId : Nat
  txSeq : UInt8 := 0
  deriving DecidableEq, Repr

/-- A request, what the module knows to answer, and how the module's frames come to the tester's
    pumps. -/
structure Exchange where
  request : Bytes
  ecu : Bytes → Option Bytes
  deliver : List (Nat × Bytes) → List (List (Nat × Bytes))

/-- The module's frames come in order and none is lost; others may come between them. -/
def Exchange.InOrder (x : Exchange) (rxId : Nat) : Prop :=
  ∀ sent, Woven (Beside rxId) sent (x.deliver sent).flatten

/-- What passed in an exchange: the frames of the request, what the module sent for them and the
    requests it put together, what the receive loop sent and how it ended. -/
structure Passed where
  asked : List Bytes
  sent : List (Nat × Bytes)
  answered : List Bytes
  replies : List Bytes
  result : Turn
  deriving DecidableEq, Repr

/-- The frames of a channel, one after the other. -/
def feed (modules : List UInt8) (ecu : Bytes → Option Bytes) (txId : Nat) (t : Tp20State) :
    List Bytes → Option Handled
  | [] => some { taken := true, state := t }
  | d :: ds =>
    match tp20Handle modules ecu t 5 (BigEndian.bytes 4 txId ++ d) with
    | none => none
    | some h =>
      match feed modules ecu txId h.state ds with
      | none => none
      | some more => some { more with sent := h.sent ++ more.sent
                                      answered := h.answered ++ more.answered }

/-- One request on the open channel: its frames, the receive loop on what comes back, and the frames
    the loop sent. -/
def exchange (modules : List UInt8) (c : Tester) (t : Tp20State) (x : Exchange) :
    Option (Passed × Tester × Tp20State) :=
  match tp20Split x.request with
  | none => none
  | some chunks =>
    let asked := numbered c.txSeq chunks
    match feed modules x.ecu c.txId t asked.1 with
    | none => none
    | some h =>
      let r := receivePumps c.rxId {} (x.deliver h.sent)
      match feed modules x.ecu c.txId h.state r.1 with
      | none => none
      | some after =>
        some (⟨asked.1, h.sent, h.answered ++ after.answered, r.1, r.2⟩,
          { c with txSeq := asked.2 }, after.state)

/-- The requests of a channel, one after the other. -/
def dialogue (modules : List UInt8) (c : Tester) (t : Tp20State) : List Exchange →
    Option (List Passed)
  | [] => some []
  | x :: xs =>
    match exchange modules c t x with
    | none => none
    | some (p, c, t) => (dialogue modules c t xs).map (p :: ·)

/-- The channel is open, and no message is under way: both ends have the ids of the setup reply. -/
structure Open (c : Tester) (t : Tp20State) : Prop where
  rxId : t.rxId = some c.rxId
  txId : t.txId = some c.txId
  setup : c.txId ≠ tp20SetupId ∧ c.txId < 2 ^ 32
  pending : t.pending = []
  want : t.want = none

/-- The acknowledgements among frames. -/
def acks (ds : List Bytes) : List Bytes := ds.filter fun d => d.headD 0 >>> 4 == 0xb

/-- The acknowledgement of a data frame: the number that follows its own. -/
def ackOf (d : Bytes) : Bytes := [0xb0 ||| (((d.headD 0 &&& 0x0f) + 1) &&& 0x0f)]

/-- The module put together the request and nothing else, the loop returned its response, and each
    end acknowledged the other's last frame once. -/
structure RoundTrip (x : Exchange) (p : Passed) : Prop where
  answered : p.answered = [x.request]
  result : ∃ resp, ecuAnswer x.ecu x.request = some resp ∧ p.result = .answer resp
  asked : acks (p.sent.map (·.2)) = [ackOf (p.asked.getLastD [])]
  replied : acks p.replies = [ackOf (p.sent.getLastD (0, [])).2]

/-- The module's data frames, behind its acknowledgement. -/
def Passed.data (p : Passed) : List Bytes := p.sent.tail.map (·.2)

/-- Numbers that follow one another modulo 16. -/
def Counted (seq : Nat) (ds : List Bytes) : Prop :=
  ∀ i d, ds[i]? = some d → (d.headD 0 &&& 0x0f).toNat = (seq + i) % 16

/-! ## 2. A message and its chunks -/

/-- The length in front of a request, as the module reads it. -/
def plainLength (b0 b1 : UInt8) : Nat := b0.toNat * 256 + b1.toNat

/-- The chunks of a message. -/
def messageChunks (message : Bytes) : List Bytes :=
  split (BigEndian.bytes 2 message.length ++ message) 7

theorem messageChunks_parts (message : Bytes) :
    messageChunks message ≠ [] ∧ Parts ({} : Gathered UInt8) (messageChunks message) ∧
      (messageChunks message).flatten = BigEndian.bytes 2 message.length ++ message := by
  have hne : BigEndian.bytes 2 message.length ++ message ≠ [] := by
    intro e
    have := congrArg List.length e
    rw [List.length_append, BigEndian.bytes_length] at this
    exact absurd this (by simp)
  obtain ⟨more, e, hall⟩ := split_cons (n := 7) (by decide) hne
  have hflat := split_flatten (n := 7) (by decide) (BigEndian.bytes 2 message.length ++ message)
  refine ⟨?_, ⟨?_, ?_⟩, hflat⟩
  · unfold messageChunks
    rw [e]
    exact List.cons_ne_nil _ _
  · unfold messageChunks
    rw [e]
    exact hall
  · unfold messageChunks
    rw [e]
    intro _ p hp
    obtain rfl : _ = p := Option.some.inj hp
    rw [List.length_take, List.length_append, BigEndian.bytes_length]
    omega

/-- The two bytes of a length. -/
theorem length_bytes (n : Nat) : BigEndian.bytes 2 n = [UInt8.ofNat (n / 256), UInt8.ofNat n] := rfl

theorem plainLength_bytes {n : Nat} (h : n < 65536) :
    plainLength (UInt8.ofNat (n / 256)) (UInt8.ofNat n) = n := by
  unfold plainLength
  rw [UInt8.toNat_ofNat', UInt8.toNat_ofNat']
  omega

theorem seven_bits : ∀ k < 128, (UInt8.ofNat k &&& 0x7f).toNat = k := by decide

/-- **Below 2 ^ 15 the masked length is the length.** -/
theorem maskedLength_bytes {n : Nat} (h : n < 32768) :
    maskedLength (UInt8.ofNat (n / 256)) (UInt8.ofNat n) = n := by
  unfold maskedLength
  rw [seven_bits _ (by omega), UInt8.toNat_ofNat']
  omega

theorem messageChunks_holds {message : Bytes} {lenOf : UInt8 → UInt8 → Nat}
    (h : lenOf (UInt8.ofNat (message.length / 256)) (UInt8.ofNat message.length) = message.length) :
    Segments.Holds lenOf message {} (messageChunks message).flatten := by
  rw [(messageChunks_parts _).2.2, length_bytes]
  exact .start _ _ h

/-! ## 3. Numbered frames -/

/-- The last frame of a message is that of its last chunk. -/
theorem numbered_last (d : Bytes) (seq : UInt8) (c : Bytes) (cs : List Bytes) :
    (d :: (numbered seq (lastAsks (c :: cs))).1).getLastD [] =
      (numbered seq (lastAsks (c :: cs))).1.getLastD [] := by
  cases cs with
  | nil => rfl
  | cons c' cs =>
      rw [lastAsks_cons, numbered_next]
      rfl

theorem Counted.cons {seq : Nat} {d : Bytes} {ds : List Bytes}
    (h : (d.headD 0 &&& 0x0f).toNat = seq % 16) (hs : Counted (seq + 1) ds) :
    Counted seq (d :: ds) := by
  intro i e he
  cases i with
  | zero =>
      obtain rfl : d = e := Option.some.inj he
      exact h
  | succ i =>
      have := hs i e he
      rw [this]
      congr 1
      omega

theorem Counted.mod {seq seq' : Nat} {ds : List Bytes} (h : Counted seq ds)
    (e : seq % 16 = seq' % 16) : Counted seq' ds := by
  intro i d hd
  rw [h i d hd, Nat.add_mod, e, ← Nat.add_mod]

theorem Counted.append {seq : Nat} {ds es : List Bytes} (h : Counted seq ds)
    (h' : Counted (seq + ds.length) es) : Counted seq (ds ++ es) := by
  intro i d hd
  by_cases hi : i < ds.length
  · rw [List.getElem?_append_left hi] at hd
    exact h i d hd
  · rw [List.getElem?_append_right (Nat.not_lt.mp hi)] at hd
    rw [h' _ d hd]
    congr 1
    omega

/-- **The frames of a message carry the numbers from the counter on**, and the counter moves on by
    as
    many. -/
theorem numbered_counted : ∀ (cs : List Bytes) (seq : UInt8),
    Counted seq.toNat (numbered seq (lastAsks cs)).1 ∧
      (numbered seq (lastAsks cs)).2.toNat % 16 = (seq.toNat + cs.length) % 16 ∧
      (numbered seq (lastAsks cs)).1.length = cs.length
  | [], seq => ⟨fun i d h => (nomatch h), rfl, rfl⟩
  | [c], seq => by
      have hn := (number_split seq (Or.inl (Eq.refl (0x10 : UInt8)))).2
      refine ⟨Counted.cons ?_ fun i d h => (nomatch h), ?_, rfl⟩
      · show ((0x10 ||| (seq &&& 0x0f)) &&& 0x0f).toNat = _
        rw [hn, low_nibble]
      · show ((seq + 1) &&& 0x0f).toNat % 16 = (seq.toNat + 1) % 16
        rw [next_number]
        omega
  | c :: c' :: cs, seq => by
      obtain ⟨h1, h2, h3⟩ := numbered_counted (c' :: cs) ((seq + 1) &&& 0x0f)
      have hn := (number_split seq (Or.inr (Eq.refl (0x20 : UInt8)))).2
      rw [lastAsks_cons, numbered_next]
      refine ⟨Counted.cons ?_ ?_, ?_, ?_⟩
      · show ((0x20 ||| (seq &&& 0x0f)) &&& 0x0f).toNat = _
        rw [hn, low_nibble]
      · intro i d h
        rw [h1 i d h, next_number]
        omega
      · show (numbered _ _).2.toNat % 16 = _
        rw [h2, next_number, List.length_cons, List.length_cons]
        simp only [List.length_cons]
        omega
      · show (numbered _ _).1.length + 1 = _
        rw [h3]
        rfl

/-! ## 4. The module on one frame -/

section Module

variable {modules : List UInt8} {ecu : Bytes → Option Bytes} {c : Tester} {t : Tp20State}

/-- A frame on the channel's id is read behind its id. -/
theorem tp20Handle_channel (hr : t.rxId = some c.rxId) (ht : t.txId = some c.txId)
    (hs : c.txId ≠ tp20SetupId ∧ c.txId < 2 ^ 32) (d0 : UInt8) (part : Bytes) :
    tp20Handle modules ecu t 5 (BigEndian.bytes 4 c.txId ++ d0 :: part) =
      if d0 = 0xa0 ∨ d0 = 0xa3 then
        some { taken := true, state := t
               sent := [(c.rxId, [0xa1, 0x0f, 0x8a, 0xff, 0x4a, 0xff])] }
      else if d0 = 0xa8 then
        some { taken := true, state := { t with txId := none, rxId := none }
               sent := [(c.rxId, [0xa8])] }
      else if d0 >>> 4 = 0xb ∨ d0 >>> 4 = 0x9 then some { taken := true, state := t }
      else if (3 : UInt8) < d0 >>> 4 then some { taken := true, state := t }
      else tp20Data ecu t c.rxId (d0 >>> 4) (d0 &&& 0x0f) part := by
  have hlen : ¬(5 ≠ 5 ∨ (BigEndian.bytes 4 c.txId ++ d0 :: part).length < 5) := by
    rw [List.length_append, BigEndian.bytes_length, List.length_cons]
    omega
  have htake : (BigEndian.bytes 4 c.txId ++ d0 :: part).take 4 = BigEndian.bytes 4 c.txId :=
    List.take_left' (BigEndian.bytes_length 4 c.txId)
  have hdrop : (BigEndian.bytes 4 c.txId ++ d0 :: part).drop 4 = d0 :: part :=
    List.drop_left' (BigEndian.bytes_length 4 c.txId)
  unfold tp20Handle
  rw [if_neg hlen, htake, hdrop, BigEndian.value_bytes hs.2, hr, ht]
  simp only
  rw [if_neg fun e => hs.1 e.1, if_neg (not_not_intro rfl)]

/-- **A data frame adds its chunk to the request**, and completes it or not. -/
theorem tp20Handle_data (hr : t.rxId = some c.rxId) (ht : t.txId = some c.txId)
    (hs : c.txId ≠ tp20SetupId ∧ c.txId < 2 ^ 32) (hp : t.want = none → t.pending = [])
    {op : UInt8} (hop : op = 0x10 ∨ op = 0x20) (seq : UInt8) {part : Bytes}
    (hf : Fits ⟨t.want, t.pending⟩ part) :
    tp20Handle modules ecu t 5 (BigEndian.bytes 4 c.txId ++ (op ||| (seq &&& 0x0f)) :: part) =
      let g := Gathered.add plainLength ⟨t.want, t.pending⟩ part
      let ack := if op = 0x10 then [(c.rxId, [0xb0 ||| (((seq &&& 0x0f) + 1) &&& 0x0f)])] else []
      match g.full with
      | none =>
        some { taken := true, state := { t with pending := g.acc, want := g.want }, sent := ack }
      | some req =>
        match tp20Reply ecu t.txSeq req with
        | none => none
        | some reply =>
          some { taken := true
                 state := { t with pending := [], want := none, txSeq := reply.2 }
                 sent := ack ++ reply.1.map fun d => (c.rxId, d)
                 answered := [req] } := by
  obtain ⟨hshift, hnum⟩ := number_split seq hop
  rw [tp20Handle_channel hr ht hs]
  have hneq : ∀ b : UInt8, (b >>> 4 ≠ 1 ∧ b >>> 4 ≠ 2) → op ||| (seq &&& 0x0f) ≠ b := by
    rintro b ⟨h1, h2⟩ rfl
    rw [hshift] at h1 h2
    rcases hop with rfl | rfl
    · exact h1 rfl
    · exact h2 rfl
  rw [if_neg (not_or_intro (hneq _ (by decide)) (hneq _ (by decide))), if_neg (hneq _ (by decide)),
    hshift, hnum]
  rw [if_neg (by rcases hop with rfl | rfl <;> decide),
    if_neg (by rcases hop with rfl | rfl <;> decide)]
  have hack : (op >>> 4 = 0 ∨ op >>> 4 = 1) ↔ op = 0x10 := by
    rcases hop with rfl | rfl <;> decide
  unfold tp20Data
  simp only [hack]
  cases hw : t.want with
  | some want =>
      show (if want ≤ (t.pending ++ part).length then _ else _) = _
      unfold Gathered.add Gathered.full
      simp only
      cases Nat.decLe want (t.pending ++ part).length with
      | isTrue hfull => rfl
      | isFalse hfull => rfl
  | none =>
      rw [hp hw, List.nil_append]
      obtain ⟨b0, b1, rest, rfl⟩ := hf.first hw
      unfold Gathered.add Gathered.full plainLength
      simp only [List.nil_append]
      cases Nat.decLe (b0.toNat * 256 + b1.toNat) rest.length with
      | isTrue hfull => rfl
      | isFalse hfull => rfl

end Module

/-! ## 5. The tester on one frame -/

/-- A frame beside the answer leaves what was gathered, and at most a channel test is answered. -/
theorem receiveFrame_beside {rxId : Nat} {f : Nat × Bytes} (h : Beside rxId f)
    (r : Gathered UInt8) : receiveFrame rxId r f = ([], .listen r) ∨
      receiveFrame rxId r f = ([tp20ParamsResp], .listen r) := by
  obtain ⟨cid, d⟩ := f
  cases d with
  | nil => exact Or.inl rfl
  | cons d0 part =>
      unfold receiveFrame
      simp only
      by_cases hid : cid = rxId
      · rw [if_neg (not_not_intro hid)]
        rcases h with h | ⟨_, _, e, h⟩
        · exact absurd hid h
        · obtain ⟨rfl, rfl⟩ := List.cons.inj e
          rcases h with hb | h9 | ⟨ha, hne⟩
          · rw [hb, if_neg (by decide), if_pos (Or.inl rfl)]
            exact Or.inl rfl
          · rw [h9, if_neg (by decide), if_pos (Or.inr rfl)]
            exact Or.inl rfl
          · rw [if_pos ha, if_neg hne]
            split
            · exact Or.inr rfl
            · exact Or.inl rfl
      · rw [if_pos hid]
        exact Or.inl rfl

/-- **A data frame adds its chunk to the answer**, and completes it or not. -/
theorem receiveFrame_data (rxId : Nat) {r : Gathered UInt8} {op : UInt8}
    (hop : op = 0x10 ∨ op = 0x20) (seq : UInt8) {part : Bytes} (hf : Fits r part) :
    receiveFrame rxId r (rxId, (op ||| (seq &&& 0x0f)) :: part) =
      let r := r.add maskedLength part
      let ack := if op = 0x10 then [[0xb0 ||| (((seq &&& 0x0f) + 1) &&& 0x0f)]] else []
      match r.full with
      | none => (ack, .listen r)
      | some msg => if responsePending msg then (ack, .listen {}) else (ack, .answer msg) := by
  obtain ⟨hshift, hnum⟩ := number_split seq hop
  unfold receiveFrame
  simp only
  rw [if_neg (not_not_intro rfl), hshift, hnum]
  have hshort : ¬(r.want = none ∧ part.length < 2) := by
    rintro ⟨hw, hlen⟩
    exact absurd (hf.2 hw) (by omega)
  rw [if_neg (by rcases hop with rfl | rfl <;> decide),
    if_neg (by rcases hop with rfl | rfl <;> decide),
    if_neg (by rcases hop with rfl | rfl <;> decide), if_neg hshort]
  rcases hop with rfl | rfl
  · rfl
  · rfl

/-! ## 6. A message -/

/-- The acknowledgement of a data frame, from its number. -/
theorem ackOf_data {op : UInt8} (hop : op = 0x10 ∨ op = 0x20) (seq : UInt8) (part : Bytes) :
    ackOf ((op ||| (seq &&& 0x0f)) :: part) = [0xb0 ||| (((seq &&& 0x0f) + 1) &&& 0x0f)] := by
  show [0xb0 ||| ((((op ||| (seq &&& 0x0f)) &&& 0x0f) + 1) &&& 0x0f)] = _
  rw [(number_split seq hop).2]

theorem acks_ackOf (d : Bytes) (ds : List Bytes) : acks (ackOf d :: ds) = ackOf d :: acks ds := by
  unfold acks
  rw [List.filter_cons, if_pos (by
    show ((0xb0 ||| (((d.headD 0 &&& 0x0f) + 1) &&& 0x0f)) >>> 4 == (0xb : UInt8)) = true
    rw [ack_shift]
    rfl)]

/-- **The frames of a request put it together, with the last of them and not before**; the module
    acknowledges that one and answers. -/
theorem feed_message (modules : List UInt8) (ecu : Bytes → Option Bytes) {c : Tester}
    {msg : Bytes} (hs : c.txId ≠ tp20SetupId ∧ c.txId < 2 ^ 32) : ∀ (cs : List Bytes) (seq : UInt8)
    (t : Tp20State), cs ≠ [] → t.rxId = some c.rxId → t.txId = some c.txId →
    (t.want = none → t.pending = []) → Parts ⟨t.want, t.pending⟩ cs →
    Segments.Holds plainLength msg ⟨t.want, t.pending⟩ cs.flatten →
    ∀ reply, tp20Reply ecu t.txSeq msg = some reply →
    feed modules ecu c.txId t (numbered seq (lastAsks cs)).1 =
      some { taken := true
             state := { t with pending := [], want := none, txSeq := reply.2 }
             sent := (c.rxId, ackOf ((numbered seq (lastAsks cs)).1.getLastD [])) ::
               reply.1.map fun d => (c.rxId, d)
             answered := [msg] }
  | [], _, _, hne, _, _, _, _, _ => absurd rfl hne
  | [p], seq, t, _, hr, ht, hw, hparts, hholds => by
      intro reply hreply
      have hholds' : Segments.Holds plainLength msg ⟨t.want, t.pending⟩ p := by
        rwa [List.flatten_singleton] at hholds
      show feed modules ecu c.txId t [(0x10 ||| (seq &&& 0x0f)) :: p] = _
      unfold feed
      rw [tp20Handle_data hr ht hs hw (Or.inl rfl) seq hparts.head]
      simp only
      rw [add_last hholds' hparts.head]
      simp only
      rw [hreply]
      simp only
      unfold feed
      simp only
      rw [List.append_nil, List.append_nil]
      show _ = some (Handled.mk true _ ((c.rxId, ackOf ((0x10 ||| (seq &&& 0x0f)) :: p)) :: _) _)
      rw [ackOf_data (Or.inl rfl), if_pos trivial]
      rfl
  | p :: p' :: cs, seq, t, _, hr, ht, hw, hparts, hholds => by
      intro reply hreply
      have hrest : (p' :: cs).flatten ≠ [] := by
        intro e
        have hnil := (List.flatten_eq_nil_iff.mp e) p' List.mem_cons_self
        exact hparts.1 p' (List.mem_cons_of_mem _ List.mem_cons_self) hnil
      have hholds' : Segments.Holds plainLength msg ⟨t.want, t.pending⟩ (p ++ (p' :: cs).flatten) :=
        hholds
      obtain ⟨hadd, hopen⟩ := add_part hholds' hparts.head hrest
      have htail := hparts.tail hholds'
      have hknown : (Gathered.add plainLength ⟨t.want, t.pending⟩ p).want = none →
          (Gathered.add plainLength ⟨t.want, t.pending⟩ p).acc = [] := by
        obtain ⟨acc, e, -⟩ := hholds'.add_eq hparts.head
        rw [e]
        exact fun h => (nomatch h)
      have ih := feed_message modules ecu hs (p' :: cs) ((seq + 1) &&& 0x0f)
        { t with
          pending := (Gathered.add plainLength ⟨t.want, t.pending⟩ p).acc
          want := (Gathered.add plainLength ⟨t.want, t.pending⟩ p).want }
        (List.cons_ne_nil _ _) hr ht hknown htail hadd reply hreply
      rw [lastAsks_cons, numbered_next]
      simp only
      unfold feed
      rw [tp20Handle_data hr ht hs hw (Or.inr rfl) seq hparts.head]
      simp only
      rw [hopen]
      simp only
      rw [ih, if_neg (by decide)]
      simp only [List.nil_append]
      rw [numbered_last]

/-- **What the receive loop is given of an answer puts it together**, whatever comes between its
    frames, and the loop acknowledges the last of them once. -/
theorem receive_message {rxId : Nat} {msg : Bytes} (hpend : responsePending msg = false)
    {row all : List (Nat × Bytes)} (hw : Woven (Beside rxId) row all) :
    ∀ (cs : List Bytes) (seq : UInt8) (r : Gathered UInt8), cs ≠ [] →
    row = (numbered seq (lastAsks cs)).1.map (fun d => (rxId, d)) → Parts r cs →
    Segments.Holds maskedLength msg r cs.flatten →
    (receiveFrames rxId r all).2 = .answer msg ∧
      acks (receiveFrames rxId r all).1 = [ackOf ((numbered seq (lastAsks cs)).1.getLastD [])] := by
  induction hw with
  | nil =>
      intro cs seq r hne hrow
      cases cs with
      | nil => exact absurd rfl hne
      | cons c cs =>
          cases cs with
          | nil => cases hrow
          | cons c' cs => cases hrow
  | beside hb _ ih =>
      intro cs seq r hne hrow hparts hholds
      obtain ⟨h1, h2⟩ := ih cs seq r hne hrow hparts hholds
      unfold receiveFrames
      rcases receiveFrame_beside hb r with e | e
      · rw [e]
        exact ⟨h1, h2⟩
      · rw [e]
        exact ⟨h1, h2⟩
  | own f _ ih =>
      intro cs seq r hne hrow hparts hholds
      cases cs with
      | nil => exact absurd rfl hne
      | cons c cs =>
      cases cs with
      | nil =>
          obtain ⟨rfl, -⟩ := List.cons.inj hrow
          have hholds' : Segments.Holds maskedLength msg r c := by
            rwa [List.flatten_singleton] at hholds
          unfold receiveFrames
          rw [receiveFrame_data rxId (Or.inl rfl) seq hparts.head]
          simp only
          rw [add_last hholds' hparts.head]
          simp only
          rw [hpend, if_neg Bool.false_ne_true, if_pos trivial]
          refine ⟨rfl, ?_⟩
          show acks [[0xb0 ||| (((seq &&& 0x0f) + 1) &&& 0x0f)]] =
            [ackOf ((0x10 ||| (seq &&& 0x0f)) :: c)]
          rw [← ackOf_data (Or.inl rfl) seq c, acks_ackOf]
          rfl
      | cons c' cs =>
          obtain ⟨rfl, hrow'⟩ := List.cons.inj hrow
          have hrest : (c' :: cs).flatten ≠ [] := by
            intro e
            have hnil := (List.flatten_eq_nil_iff.mp e) c' List.mem_cons_self
            exact hparts.1 c' (List.mem_cons_of_mem _ List.mem_cons_self) hnil
          have hholds' : Segments.Holds maskedLength msg r (c ++ (c' :: cs).flatten) := hholds
          obtain ⟨hadd, hopen⟩ := add_part hholds' hparts.head hrest
          obtain ⟨h1, h2⟩ := ih (c' :: cs) ((seq + 1) &&& 0x0f) (r.add maskedLength c)
            (List.cons_ne_nil _ _) hrow' (hparts.tail hholds') hadd
          unfold receiveFrames
          rw [receiveFrame_data rxId (Or.inr rfl) seq hparts.head]
          simp only
          rw [hopen]
          simp only
          rw [if_neg (by decide), goOn_listen, lastAsks_cons, numbered_next, numbered_last]
          exact ⟨h1, h2⟩

/-- **The module takes no notice of what the receive loop sends.** -/
theorem feed_replies (modules : List UInt8) (ecu : Bytes → Option Bytes) {c : Tester}
    {t : Tp20State} (hr : t.rxId = some c.rxId) (ht : t.txId = some c.txId)
    (hs : c.txId ≠ tp20SetupId ∧ c.txId < 2 ^ 32) : ∀ {ds : List Bytes}, (∀ d ∈ ds, Reply d) →
    feed modules ecu c.txId t ds = some { taken := true, state := t }
  | [], _ => rfl
  | d :: ds, h => by
      have hone : tp20Handle modules ecu t 5 (BigEndian.bytes 4 c.txId ++ d) =
          some { taken := true, state := t } := by
        rcases h d List.mem_cons_self with rfl | ⟨n, rfl⟩
        · unfold tp20ParamsResp
          rw [tp20Handle_channel hr ht hs]
          rfl
        · have hneq : ∀ b : UInt8, b >>> 4 ≠ 0xb → 0xb0 ||| (n &&& 0x0f) ≠ b := by
            rintro b hb rfl
            exact hb (ack_shift n)
          rw [tp20Handle_channel hr ht hs,
            if_neg (not_or_intro (hneq _ (by decide)) (hneq _ (by decide))),
            if_neg (hneq _ (by decide)), ack_shift, if_pos (Or.inl rfl)]
      unfold feed
      rw [hone]
      simp only
      rw [feed_replies modules ecu hr ht hs fun x hx => h x (List.mem_cons_of_mem _ hx)]
      rfl

/-- No data frame is an acknowledgement. -/
theorem numbered_acks : ∀ (cs : List Bytes) (seq : UInt8),
    acks (numbered seq (lastAsks cs)).1 = []
  | [], _ => rfl
  | [c], seq => by
      show acks [(0x10 ||| (seq &&& 0x0f)) :: c] = []
      unfold acks
      rw [List.filter_cons, if_neg (by
        show ¬((0x10 ||| (seq &&& 0x0f)) >>> 4 == (0xb : UInt8)) = true
        rw [(number_split seq (Or.inl rfl)).1]
        decide)]
      rfl
  | c :: c' :: cs, seq => by
      have ih := numbered_acks (c' :: cs) ((seq + 1) &&& 0x0f)
      rw [lastAsks_cons, numbered_next]
      unfold acks at ih ⊢
      rw [List.filter_cons, if_neg (by
        show ¬((0x20 ||| (seq &&& 0x0f)) >>> 4 == (0xb : UInt8)) = true
        rw [(number_split seq (Or.inr rfl)).1]
        decide)]
      exact ih

/-! ## 7. An exchange and a dialogue -/

/-- A message either end may send: 1 to 32767 bytes. -/
def Sized (message : Bytes) : Prop := 1 ≤ message.length ∧ message.length ≤ 32767

/-- A request and a response that the channel carries. -/
structure Exchange.Fair (x : Exchange) (rxId : Nat) : Prop where
  inOrder : x.InOrder rxId
  request : Sized x.request
  response : ∃ resp, ecuAnswer x.ecu x.request = some resp ∧ Sized resp ∧
    responsePending resp = false

/-- The frames of a message that is sent. -/
theorem tp20Split_sized {message : Bytes} (h : Sized message) :
    tp20Split message = some (lastAsks (messageChunks message)) := by
  unfold tp20Split
  rw [if_neg (by have := h.2; omega)]
  rfl

/-- **What passes in an exchange**: the module acknowledges the request and sends its answer, the
    loop returns it. -/
theorem exchange_eq (modules : List UInt8) {c : Tester} {t : Tp20State} {x : Exchange}
    {asked data : List Bytes × UInt8} {resp : Bytes} (ho : Open c t) (hin : x.InOrder c.rxId)
    (hreq : Sized x.request) (hresp : ecuAnswer x.ecu x.request = some resp) (hsized : Sized resp)
    (hpend : responsePending resp = false)
    (hasked : numbered c.txSeq (lastAsks (messageChunks x.request)) = asked)
    (hdata : numbered t.txSeq (lastAsks (messageChunks resp)) = data) :
    ∃ replies, exchange modules c t x =
      some (⟨asked.1, (c.rxId, ackOf (asked.1.getLastD [])) :: data.1.map fun d => (c.rxId, d),
        [x.request], replies, .answer resp⟩, { c with txSeq := asked.2 },
        { t with txSeq := data.2 }) ∧
      acks replies = [ackOf (data.1.getLastD [])] := by
  obtain ⟨hne, hparts, -⟩ := messageChunks_parts x.request
  obtain ⟨hne', hparts', -⟩ := messageChunks_parts resp
  have hlen := hreq.2
  have hlen' := hsized.2
  have hreply : tp20Reply x.ecu t.txSeq x.request = some data := by
    unfold tp20Reply
    rw [hresp]
    simp only
    rw [if_neg (by omega)]
    exact congrArg some hdata
  have hg : (⟨t.want, t.pending⟩ : Gathered UInt8) = {} := by rw [ho.want, ho.pending]
  have hstate : ({ t with pending := [], want := none, txSeq := data.2 } : Tp20State) =
      { t with txSeq := data.2 } := by rw [← ho.want, ← ho.pending]
  have hfed := feed_message modules x.ecu ho.setup (messageChunks x.request)
    c.txSeq t hne ho.rxId ho.txId (fun _ => ho.pending) (by rw [hg]; exact hparts)
    (by rw [hg]; exact messageChunks_holds (plainLength_bytes (by omega))) data hreply
  rw [hasked, hstate] at hfed
  -- the acknowledgement comes beside the answer
  have hack : Beside c.rxId (c.rxId, ackOf (asked.1.getLastD [])) :=
    Or.inr ⟨_, _, rfl, Or.inl (ack_shift _)⟩
  have hwoven := (hin ((c.rxId, ackOf (asked.1.getLastD [])) ::
    data.1.map fun d => (c.rxId, d))).skip hack
  obtain ⟨hanswer, hacks⟩ := receive_message hpend hwoven (messageChunks resp) t.txSeq {} hne'
    (by rw [hdata]) hparts' (messageChunks_holds (maskedLength_bytes (by omega)))
  rw [hdata] at hacks
  have hdone := feed_replies modules x.ecu (t := { t with txSeq := data.2 }) ho.rxId
    ho.txId ho.setup
    (receiveFrames_replies c.rxId (x.deliver ((c.rxId, ackOf (asked.1.getLastD [])) ::
      data.1.map fun d => (c.rxId, d))).flatten {})
  refine ⟨_, ?_, hacks⟩
  unfold exchange
  rw [tp20Split_sized hreq]
  simp only
  rw [hasked, hfed]
  simp only
  rw [receivePumps_flatten, hdone]
  simp only
  rw [hanswer]
  rfl

/-- **A request and its response pass between the two ends**, which are as open behind them as they
    were; the frames of each carry the numbers that follow. -/
theorem exchange_round_trip (modules : List UInt8) {c : Tester} {t : Tp20State} {x : Exchange}
    (ho : Open c t) (hx : x.Fair c.rxId) :
    ∃ p c' t', exchange modules c t x = some (p, c', t') ∧ RoundTrip x p ∧
      (Open c' t' ∧ c'.rxId = c.rxId) ∧
      (Counted c.txSeq.toNat p.asked ∧
        c'.txSeq.toNat % 16 = (c.txSeq.toNat + p.asked.length) % 16) ∧
      Counted t.txSeq.toNat p.data ∧
        t'.txSeq.toNat % 16 = (t.txSeq.toNat + p.data.length) % 16 := by
  obtain ⟨resp, hresp, hsized, hpend⟩ := hx.response
  obtain ⟨hq1, hq2, hq3⟩ := numbered_counted (messageChunks x.request) c.txSeq
  obtain ⟨hr1, hr2, hr3⟩ := numbered_counted (messageChunks resp) t.txSeq
  generalize hasked : numbered c.txSeq (lastAsks (messageChunks x.request)) = asked
    at hq1 hq2 hq3
  generalize hdata : numbered t.txSeq (lastAsks (messageChunks resp)) = data at hr1 hr2 hr3
  obtain ⟨replies, he, hacks⟩ := exchange_eq modules ho hx.inOrder hx.request hresp hsized hpend
    hasked hdata
  have hlast : data.1 ≠ [] := by
    intro e
    have := (messageChunks_parts resp).1
    rw [e] at hr3
    exact this (List.length_eq_zero_iff.mp hr3.symm)
  have hdatas : (data.1.map fun d => (c.rxId, d)).map (·.2) = data.1 := by
    rw [List.map_map]
    exact List.map_id _
  refine ⟨_, _, _, he, ⟨rfl, ⟨resp, hresp, rfl⟩, ?_, ?_⟩, ⟨⟨ho.rxId, ho.txId, ho.setup, ho.pending,
    ho.want⟩, rfl⟩, ⟨hq1, ?_⟩, ?_, ?_⟩
  · show acks (ackOf (asked.1.getLastD []) :: (data.1.map fun d => (c.rxId, d)).map (·.2)) = _
    rw [hdatas, acks_ackOf, ← hdata, numbered_acks]
  · rw [hacks]
    show _ = [ackOf ((_ :: data.1.map fun d => (c.rxId, d)).getLastD (0, [])).2]
    have hl := List.getLast?_eq_some_getLast hlast
    rw [List.getLastD_cons, List.getLastD_eq_getLast?, List.getLastD_eq_getLast?,
      List.getLast?_map, hl]
    rfl
  · show asked.2.toNat % 16 = (c.txSeq.toNat + asked.1.length) % 16
    rw [hq3]
    exact hq2
  · show Counted t.txSeq.toNat ((data.1.map fun d => (c.rxId, d)).map (·.2))
    rw [hdatas]
    exact hr1
  · show data.2.toNat % 16 =
      (t.txSeq.toNat + ((data.1.map fun d => (c.rxId, d)).map (·.2)).length) % 16
    rw [hdatas, hr3]
    exact hr2

/-- **TP2.0 messages make the round trip.** On an open channel, for every row of requests and
    responses of 1 to 32767 bytes that are not responsePending, whatever comes between the frames:
    the module puts together exactly each request, the receive loop returns exactly each response,
    each last frame is acknowledged once by the number that follows its own, and over the whole
    dialogue the frames of either end carry consecutive numbers modulo 16. -/
theorem dialogue_round_trip (modules : List UInt8) : ∀ (xs : List Exchange) (c : Tester)
    (t : Tp20State), Open c t → (∀ x ∈ xs, x.Fair c.rxId) →
    ∃ ps, dialogue modules c t xs = some ps ∧ List.Forall₂ RoundTrip xs ps ∧
      Counted c.txSeq.toNat (ps.flatMap Passed.asked) ∧
      Counted t.txSeq.toNat (ps.flatMap Passed.data)
  | [], _, _, _, _ => ⟨[], rfl, .nil, fun _ _ h => (nomatch h), fun _ _ h => (nomatch h)⟩
  | x :: xs, c, t, ho, h => by
      obtain ⟨p, c', t', he, hp, ⟨ho', hid⟩, ⟨hq, hq'⟩, hr, hr'⟩ :=
        exchange_round_trip modules ho (h x List.mem_cons_self)
      obtain ⟨ps, hd, hps, hqs, hrs⟩ := dialogue_round_trip modules xs c' t' ho'
        (fun y hy => by
          rw [hid]
          exact h y (List.mem_cons_of_mem _ hy))
      refine ⟨p :: ps, ?_, .cons hp hps, ?_, ?_⟩
      · unfold dialogue
        rw [he]
        simp only
        rw [hd]
        rfl
      · rw [List.flatMap_cons]
        exact hq.append (hqs.mod hq')
      · rw [List.flatMap_cons]
        exact hr.append (hrs.mod hr')

/-- **The setup opens such a channel**: the module names the ids, the tester reads them off its
    reply. -/
theorem setup_open {modules : List UInt8} (ecu : Bytes → Option Bytes) (t : Tp20State)
    {dest : UInt8}
    (h : dest ∈ modules) (form : List UInt8) (hf : form.length = 5) :
    ∃ h t', tp20Handle modules ecu t 5
        (BigEndian.bytes 4 tp20SetupId ++ dest :: 0xc0 :: form) = some h ∧
      h.state = t' ∧ h.sent.map (fun f => (f.1, tp20ParseSetup f.2)) =
        [(tp20SetupId + dest.toNat, some (0x300, 0x740))] ∧
      Open { rxId := 0x300, txId := 0x740 } t' := by
  refine ⟨{ taken := true
            state := { dest := some dest, rxId := some 0x300, txId := some 0x740 }
            sent := [(tp20SetupId + dest.toNat, [0x00, 0xd0, 0x00, 0x03, 0x40, 0x07, 0x01])] },
    _, ?_, rfl, rfl, ⟨rfl, rfl, by decide, rfl, rfl⟩⟩
  have hlen : ¬(5 ≠ 5 ∨ (BigEndian.bytes 4 tp20SetupId ++ dest :: 0xc0 :: form).length < 5) := by
    rw [List.length_append, BigEndian.bytes_length, List.length_cons]
    omega
  have htake : (BigEndian.bytes 4 tp20SetupId ++ dest :: 0xc0 :: form).take 4 =
      BigEndian.bytes 4 tp20SetupId := List.take_left' (BigEndian.bytes_length 4 tp20SetupId)
  have hdrop : (BigEndian.bytes 4 tp20SetupId ++ dest :: 0xc0 :: form).drop 4 =
      dest :: 0xc0 :: form := List.drop_left' (BigEndian.bytes_length 4 tp20SetupId)
  unfold tp20Handle
  rw [if_neg hlen, htake, hdrop, BigEndian.value_bytes (by decide)]
  simp only
  rw [if_pos ⟨trivial, by rw [List.length_cons, List.length_cons, hf], rfl⟩,
    if_neg (not_not_intro (by exact h))]
  rfl

/-- A read of the identification, answered in two frames, and a channel test in front of them. -/
def sampleExchange : Exchange where
  request := [0x1a, 0x9b]
  ecu := fun _ => some [0x5a, 0x9b, 0x30, 0x33, 0x4c, 0x39, 0x30, 0x36]
  deliver := fun sent => [[(0x300, [0xa3])], sent]

theorem dialogue_round_trip_sample : ∃ ps,
    dialogue [1] { rxId := 0x300, txId := 0x740, txSeq := 15 }
      { rxId := some 0x300, txId := some 0x740, txSeq := 14 } [sampleExchange] = some ps ∧
      List.Forall₂ RoundTrip [sampleExchange] ps ∧ Counted 15 (ps.flatMap Passed.asked) ∧
      Counted 14 (ps.flatMap Passed.data) := by
  refine dialogue_round_trip [1] [sampleExchange] _ _ ⟨rfl, rfl, by decide, rfl, rfl⟩ ?_
  intro x hx
  rw [List.mem_singleton.mp hx]
  refine ⟨fun sent => ?_, by unfold Sized; decide, _, rfl, by unfold Sized; decide, rfl⟩
  show Woven _ sent ((0x300, [0xa3]) :: (sent ++ []))
  rw [List.append_nil]
  exact .beside (Or.inr ⟨0xa3, [], rfl, Or.inr (Or.inr ⟨rfl, by decide⟩)⟩) (.refl _ sent)

end Openport.Car
