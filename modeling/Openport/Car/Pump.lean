/-
  File:      Openport/Car/Pump.lean
  Subject:   What `Tp20._pump` hands on of a stream that arrives in pieces.

  The stream is a row of whole frames and reply lines. `parse_frames` takes a
  frame whose length byte is there at once, whatever is there of its body, so
  the pump hands on the channel's frames of the whole stream where no drain ends
  inside a frame behind its length byte. Where one does, the frame is handed on
  short or not at all, and the rest of its body is read as something else.
-/
import Openport.Car.Frames

namespace Openport.Car

open Lib Lib.Decimal Lib.Framing

/-! ## 1. The pieces of a stream -/

/-- A line `parse_frames` would take for a frame. -/
def frameHead : Bytes → Bool
  | 0x61 :: 0x72 :: c :: _ => isDigit c
  | _ => false

/-- A binary frame with its channel and its body, or a reply line without its CR LF. -/
inductive Piece where
  | frame (channel : Fin 10) (body : Bytes)
  | line (text : Bytes)
  deriving DecidableEq, Repr

/-- The length byte is at least 1 and counts the body; a line holds no CR LF and no frame's
    header, whose third byte is a digit where a reply line has its letter. -/
def Piece.WellFormed : Piece → Prop
  | .frame _ body => 1 ≤ body.length ∧ body.length ≤ 255
  | .line text => findCrLf text = none ∧ frameHead text = false

/-- A piece as the cable sends it. -/
def StreamPiece : Type := { p : Piece // p.WellFormed }

def Piece.wire : Piece → Bytes
  | .frame ch body => 0x61 :: 0x72 :: digitByte ch.val :: UInt8.ofNat body.length :: body
  | .line text => text ++ [0x0d, 0x0a]

/-- The entry of a whole piece. -/
def Piece.entry : Piece → Entry
  | .frame ch body => frameEntry (digitByte ch.val) (UInt8.ofNat body.length) body
  | .line text => .line text

/-- The CAN id and the full data of a piece, where it is a frame of the channel with at least four
    data bytes: those behind the status byte and the timestamp. -/
def Piece.pair (ch : Nat) : Piece → Option (Nat × Bytes)
  | .frame c body =>
    if c.val = ch ∧ 9 ≤ body.length then some (BigEndian.value ((body.drop 5).take 4),
      body.drop 9) else none
  | .line _ => none

def wireOf (ps : List StreamPiece) : Bytes := (ps.map fun p => p.val.wire).flatten

def pairsOf (ch : Nat) (ps : List StreamPiece) : List (Nat × Bytes) :=
  ps.filterMap fun p => p.val.pair ch

/-- The bytes end inside a frame behind its length byte. -/
def CutInside (ps : List StreamPiece) (bytes : Bytes) : Prop :=
  ∃ done p todo k, ps = done ++ p :: todo ∧ (∃ ch body, p.val = .frame ch body) ∧ 4 ≤ k ∧
    k < p.val.wire.length ∧ bytes = wireOf done ++ p.val.wire.take k

/-- No drain ends inside a frame behind its length byte; `buf` was kept before the first. -/
def CutClean (ps : List StreamPiece) (buf : Bytes) (ds : List Bytes) : Prop :=
  ∀ n < ds.length, ¬CutInside ps (buf ++ (ds.take (n + 1)).flatten)

/-! ## 2. A piece in the buffer -/

theorem digitByte_isDigit (ch : Fin 10) : isDigit (digitByte ch.val) = true :=
  isDigit_digitByte ch.isLt

theorem ofNat_length {n : Nat} (h : n ≤ 255) : (UInt8.ofNat n).toNat = n := by
  rw [UInt8.toNat_ofNat']
  omega

theorem parseStep_frame (ch : Fin 10) (ln : UInt8) (s : Bytes) :
    parseStep (0x61 :: 0x72 :: digitByte ch.val :: ln :: s) =
      some (frameEntry (digitByte ch.val) ln (s.take ln.toNat), s.drop ln.toNat) := by
  unfold parseStep
  simp only
  rw [if_pos (digitByte_isDigit ch)]

/-- What is no frame's header is a line or waits. -/
theorem parseStep_plain {s : Bytes} (h : frameHead s = false) : parseStep s = lineStep s := by
  unfold parseStep
  split
  · rename_i channel ln rest
    rw [if_neg (by rw [show isDigit channel = false from h]; decide)]
  · rfl

/-- A line's CR LF does not make it a frame's header. -/
theorem frameHead_crlf {text : Bytes} (h : frameHead text = false) (rest : Bytes) :
    frameHead (text ++ 0x0d :: rest) = false := by
  match text with
  | [] => rfl
  | [a] =>
      unfold frameHead
      split
      · rename_i e
        have e2 := (List.cons.inj (List.cons.inj e).2).1
        exact absurd e2 (by decide)
      · rfl
  | [a, b] =>
      unfold frameHead
      split
      · rename_i c _ e
        have e3 := (List.cons.inj (List.cons.inj (List.cons.inj e).2).2).1
        rw [← e3]
        decide
      · rfl
  | a :: b :: c :: t =>
      unfold frameHead at h ⊢
      split
      · rename_i c' r e
        obtain ⟨e1, e'⟩ := List.cons.inj e
        obtain ⟨e2, e''⟩ := List.cons.inj e'
        obtain ⟨e3, -⟩ := List.cons.inj e''
        subst e1 e2 e3
        exact h
      · rfl

/-- **A whole piece is taken off any buffer it begins.** -/
theorem Piece.taken {p : Piece} (h : p.WellFormed) (rest : Bytes) :
    parseStep (p.wire ++ rest) = some (p.entry, rest) := by
  cases p with
  | frame ch body =>
      show parseStep (0x61 :: 0x72 :: digitByte ch.val :: UInt8.ofNat body.length ::
        (body ++ rest)) = _
      rw [parseStep_frame, ofNat_length h.2, List.take_left, List.drop_left]
      rfl
  | line text =>
      have hend := findCrLf_end text rest h.1
      have e : (Piece.line text).wire ++ rest = text ++ 0x0d :: 0x0a :: rest := by
        show (text ++ [0x0d, 0x0a]) ++ rest = _
        simp
      rw [e, parseStep_plain (frameHead_crlf h.2 _)]
      unfold lineStep
      rw [hend]
      simp only
      rw [List.take_left]
      have hdrop : (text ++ 0x0d :: 0x0a :: rest).drop (text.length + 2) = rest := by
        rw [← List.drop_drop, List.drop_left]
        rfl
      rw [hdrop]
      rfl

theorem frameHead_prefix {p s : Bytes} (hp : p <+: s) (h : frameHead s = false) :
    frameHead p = false := by
  obtain ⟨r, rfl⟩ := hp
  unfold frameHead at h ⊢
  split
  · exact h
  · rfl

/-- **A turn waits on a piece that is cut**, except on a frame cut behind its length byte. -/
theorem Piece.waits {p : Piece} (h : p.WellFormed) {s : Bytes} (hs : s <+: p.wire)
    (hne : s ≠ p.wire) (hclean : (∃ ch body, p = .frame ch body) → s.length < 4) :
    parseStep s = none := by
  cases p with
  | frame ch body =>
      have hlen := hclean ⟨ch, body, rfl⟩
      have hstep : parseStep s = lineStep s := by
        unfold parseStep
        split
        · simp only [List.length_cons] at hlen
          omega
        · rfl
      rw [hstep]
      unfold lineStep
      have hno : findCrLf s = none := by
        have hhead : s <+: [0x61, 0x72, digitByte ch.val] := by
          have hwire : [0x61, 0x72, digitByte ch.val] <+: (Piece.frame ch body).wire :=
            ⟨UInt8.ofNat body.length :: body, rfl⟩
          refine List.prefix_of_prefix_length_le hs hwire ?_
          show s.length ≤ 3
          omega
        refine findCrLf_prefix s _ hhead (findCrLf_noCr ?_)
        intro c hc
        simp only [List.mem_cons, List.not_mem_nil, or_false] at hc
        rcases hc with rfl | rfl | rfl
        · decide
        · decide
        · intro e
          have := digitByte_isDigit ch
          rw [e] at this
          exact absurd this (by decide)
      rw [hno]
  | line text =>
      have hpre : frameHead s = false := frameHead_prefix hs (frameHead_crlf h.2 [0x0a])
      rw [parseStep_plain hpre]
      unfold lineStep
      rw [findCrLf_waits h.1 hs hne]

/-- The pair of a whole piece is its entry's. -/
theorem Piece.entry_pair (ch : Nat) (p : Piece) : p.entry.pair ch = p.pair ch := by
  cases p with
  | line text => rfl
  | frame c body =>
      have hch : [digitByte c.val] = decimal ch ↔ c.val = ch := by
        have hone : decimal c.val = [digitByte c.val] := by
          revert c
          decide
        rw [← hone]
        exact ⟨fun e => by rw [← value_decimal c.val, e, value_decimal], fun e => by rw [e]⟩
      cases body with
      | nil =>
          show none = if c.val = ch ∧ 9 ≤ 0 then _ else none
          rw [if_neg fun e => absurd e.2 (by decide)]
      | cons sts raw =>
          unfold Piece.entry frameEntry Piece.pair
          simp only [List.length_cons]
          by_cases h5 : 5 ≤ raw.length + 1
          · rw [if_pos h5]
            unfold Entry.pair
            simp only [hch, List.length_drop, List.drop_succ_cons, List.drop_drop]
            have hiff : (c.val = ch ∧ 4 ≤ raw.length - 4) ↔ (c.val = ch ∧ 9 ≤ raw.length + 1) := by
              omega
            simp only [hiff]
          · rw [if_neg h5, if_neg (by omega)]
            show (if [digitByte c.val] = decimal ch ∧ 4 ≤ 0 then _ else none) = none
            rw [if_neg fun e => absurd e.2 (by decide)]

/-! ## 3. A pump -/

/-- The pieces as the words of the decoder. -/
def pieceWords (ps : List StreamPiece) : List (Bytes × Entry) :=
  ps.map fun p => (p.val.wire, p.val.entry)

theorem pieceWords_wire (ps : List StreamPiece) :
    ((pieceWords ps).map (·.1)).flatten = wireOf ps := by
  unfold pieceWords wireOf
  rw [List.map_map]
  rfl

theorem wireOf_append (ps qs : List StreamPiece) : wireOf (ps ++ qs) = wireOf ps ++ wireOf qs := by
  unfold wireOf
  rw [List.map_append, List.flatten_append]

theorem pairsOf_append (ch : Nat) (ps qs : List StreamPiece) :
    pairsOf ch (ps ++ qs) = pairsOf ch ps ++ pairsOf ch qs := List.filterMap_append

theorem pieceWords_pairs (ch : Nat) (ps : List StreamPiece) :
    ((pieceWords ps).map (·.2)).filterMap (Entry.pair ch) = pairsOf ch ps := by
  unfold pieceWords pairsOf
  rw [List.map_map, List.filterMap_map]
  congr 1
  funext p
  exact Piece.entry_pair ch p.val

/-- **Whole pieces in front of a buffer give their pairs**, and what is behind them is left. -/
theorem pump_pieces (ch : Nat) {buf drained s : Bytes} (ps : List StreamPiece)
    (h : buf ++ drained = wireOf ps ++ s) : pump ch buf drained =
      (pairsOf ch ps ++ ((Framing.drain parseStep s).1.filterMap (Entry.pair ch)),
        (Framing.drain parseStep s).2) := by
  have hall : ∀ w ∈ pieceWords ps, ∀ rest, parseStep (w.1 ++ rest) = some (w.2, rest) := by
    intro w hw rest
    obtain ⟨p, -, rfl⟩ := List.mem_map.mp hw
    exact Piece.taken p.property rest
  rw [pump_eq, h, ← pieceWords_wire, drain_words parseStep_drops hall s,
    List.filterMap_append, pieceWords_pairs]

/-- **Where a drain ends**: behind whole pieces, at a cut the turn waits on, or inside a frame
    behind its length byte. -/
theorem drain_ends (ps : List StreamPiece) (p q : Bytes) (h : p ++ q = wireOf ps) :
    ∃ done todo rest, ps = done ++ todo ∧ p = wireOf done ++ rest ∧ rest ++ q = wireOf todo ∧
      (parseStep rest = none ∨ CutInside ps p) := by
  rw [← pieceWords_wire] at h
  obtain ⟨doneW, todoW, rest, hw, hp, hq, hin⟩ := words_cut (pieceWords ps) p q h
  obtain ⟨done, todo, rfl, rfl, rfl⟩ := List.map_eq_append_iff.mp hw
  have hp' : p = wireOf done ++ rest := by
    rw [hp]
    exact congrArg (· ++ rest) (pieceWords_wire done)
  have hq' : rest ++ q = wireOf todo := hq.trans (pieceWords_wire todo)
  refine ⟨done, todo, rest, rfl, hp', hq', ?_⟩
  rcases hin with rfl | ⟨w, more, hw, hpre, hne⟩
  · exact Or.inl (next_nil parseStep_drops)
  · obtain ⟨x, xs, rfl, rfl, rfl⟩ := List.map_eq_cons_iff.mp hw
    by_cases hlong : (∃ ch body, x.val = .frame ch body) ∧ 4 ≤ rest.length
    · refine Or.inr ⟨done, x, xs, rest.length, rfl, hlong.1, hlong.2, ?_, ?_⟩
      · have hle := hpre.length_le
        have hne' : rest.length ≠ x.val.wire.length := fun e => hne (hpre.eq_of_length e)
        have hle' : rest.length ≤ x.val.wire.length := hle
        omega
      · rw [hp', List.prefix_iff_eq_take.mp hpre]
        simp
    · refine Or.inl (Piece.waits x.property hpre hne fun hf => ?_)
      have : ¬4 ≤ rest.length := fun h4 => hlong ⟨hf, h4⟩
      omega

/-! ## 4. A run of pumps -/

theorem CutInside.behind {done todo : List StreamPiece} {bytes : Bytes} (h : CutInside todo bytes) :
    CutInside (done ++ todo) (wireOf done ++ bytes) := by
  obtain ⟨more, p, rest, k, rfl, hf, h4, hk, rfl⟩ := h
  exact ⟨done ++ more, p, rest, k, (List.append_assoc done more (p :: rest)).symm, hf, h4, hk, by
    rw [wireOf_append, List.append_assoc]⟩

/-- A cut behind whole pieces is one inside what follows them. -/
theorem CutInside.ahead {done todo : List StreamPiece} {bytes : Bytes}
    (h : CutInside (done ++ todo) (wireOf done ++ bytes)) : CutInside todo bytes := by
  obtain ⟨more, p, rest, k, e, hf, h4, hk, hb⟩ := h
  have hahead : ∀ mid, more = done ++ mid → todo = mid ++ p :: rest → CutInside todo bytes := by
    rintro mid rfl rfl
    rw [wireOf_append, List.append_assoc] at hb
    exact ⟨mid, p, rest, k, rfl, hf, h4, hk, List.append_cancel_left hb⟩
  rcases List.append_eq_append_iff.mp e with ⟨mid, e1, e2⟩ | ⟨mid, e1, e2⟩
  · exact hahead mid e1 e2
  · cases mid with
    | nil => exact hahead [] (by rw [e1, List.append_nil, List.append_nil]) e2.symm
    | cons q mid =>
        -- the piece is one of those in front, which are there as a whole
        obtain ⟨rfl, -⟩ := List.cons.inj e2
        have hlen := congrArg List.length hb
        rw [e1, wireOf_append] at hlen
        have hpiece : wireOf (p :: mid) = p.val.wire ++ wireOf mid := rfl
        simp only [hpiece, List.length_append, List.length_take] at hlen
        omega

/-- What the drains behind the first end in. -/
theorem drains_behind {done : List StreamPiece} {buf rest d : Bytes} (ds : List Bytes) (n : Nat)
    (hd : buf ++ d = wireOf done ++ rest) : buf ++ ((d :: ds).take (n + 1 + 1)).flatten =
      wireOf done ++ (rest ++ (ds.take (n + 1)).flatten) := by
  rw [List.take_succ_cons, List.flatten_cons, ← List.append_assoc, hd, List.append_assoc]

/-- Cleanness goes on behind a drain. -/
theorem CutClean.tail {done todo : List StreamPiece} {buf rest d : Bytes} {ds : List Bytes}
    (h : CutClean (done ++ todo) buf (d :: ds)) (hd : buf ++ d = wireOf done ++ rest) :
    CutClean todo rest ds := by
  intro n hn hc
  refine h (n + 1) (Nat.succ_lt_succ hn) ?_
  rw [drains_behind ds n hd]
  exact hc.behind

/-- One drain without a cut inside a frame: the pairs of the whole pieces in it, and the rest kept
    for the next. -/
theorem pump_clean (ch : Nat) {ps : List StreamPiece} {buf d q : Bytes}
    (h : (buf ++ d) ++ q = wireOf ps) (hc : ¬CutInside ps (buf ++ d)) :
    ∃ done todo rest, ps = done ++ todo ∧ buf ++ d = wireOf done ++ rest ∧ rest ++ q = wireOf todo ∧
      pump ch buf d = (pairsOf ch done, rest) := by
  obtain ⟨done, todo, rest, e1, e2, e3, hw⟩ := drain_ends ps (buf ++ d) q h
  refine ⟨done, todo, rest, e1, e2, e3, ?_⟩
  rw [pump_pieces ch done e2, drain_wait parseStep_drops (hw.resolve_right hc)]
  simp

theorem pumps_clean (ch : Nat) : ∀ (ds : List Bytes) (ps : List StreamPiece) (buf : Bytes),
    buf ++ ds.flatten = wireOf ps → parseStep buf = none → CutClean ps buf ds →
    pumps ch buf ds = pairsOf ch ps
  | [], ps, buf, h, hw, _ => by
      rw [List.flatten_nil, List.append_nil] at h
      have e : buf ++ [] = wireOf ps ++ [] := by rw [List.append_nil, List.append_nil, h]
      have hp := pump_pieces ch ps e
      rw [pump_eq, List.append_nil, drain_wait parseStep_drops hw, drain_nil parseStep_drops] at hp
      have hnil := (Prod.mk.inj hp).1
      simp only [List.filterMap_nil, List.append_nil] at hnil
      exact hnil
  | d :: ds, ps, buf, h, _, hc => by
      have h' : (buf ++ d) ++ ds.flatten = wireOf ps := by
        rw [List.append_assoc]
        exact h
      have hone : ¬CutInside ps (buf ++ d) := by
        have := hc 0 (Nat.succ_pos _)
        rwa [List.take_succ_cons, List.take_zero, List.flatten_singleton] at this
      obtain ⟨done, todo, rest, rfl, e2, e3, hp⟩ := pump_clean ch h' hone
      have hwait : parseStep rest = none := by
        have hr := drain_rest parseStep_drops (buf ++ d)
        have hp2 := (Prod.mk.inj ((pump_eq ch buf d).symm.trans hp)).2
        rwa [hp2] at hr
      have ih := pumps_clean ch ds todo rest e3 hwait (hc.tail e2)
      show (pump ch buf d).1 ++ pumps ch (pump ch buf d).2 ds = _
      rw [hp, pairsOf_append, ih]

/-- A stream that arrives in one drain gives every frame its full data. -/
theorem pumps_whole (ch : Nat) (ps : List StreamPiece) :
    pumps ch [] [wireOf ps] = pairsOf ch ps := by
  have e : [] ++ wireOf ps = wireOf ps ++ [] := (List.append_nil _).symm
  have hp := pump_pieces ch ps e
  show (pump ch [] (wireOf ps)).1 ++ [] = _
  rw [hp, drain_nil parseStep_drops]
  simp

/-! ## 5. A drain that ends inside a frame -/

/-- The pair of a frame's entry does not hang on its length byte. -/
theorem frameEntry_pair (ch : Nat) (channel ln ln' : UInt8) (body : Bytes) :
    (frameEntry channel ln body).pair ch = (frameEntry channel ln' body).pair ch := by
  unfold frameEntry
  split
  · rfl
  · split <;> rfl

/-- **A frame cut behind its length byte is taken for a whole one**: what was there of its body is
    handed on as a shorter frame's, and nothing is kept. -/
theorem pump_cut (ch : Nat) {done : List StreamPiece} {c : Fin 10} {body buf d : Bytes} {k : Nat}
    (hw : (Piece.frame c body).WellFormed) (h4 : 4 ≤ k) (hk : k < body.length + 4)
    (h : buf ++ d = wireOf done ++ (Piece.frame c body).wire.take k) :
    pump ch buf d =
      (pairsOf ch done ++ ((Piece.frame c (body.take (k - 4))).pair ch).toList, []) := by
  obtain ⟨j, rfl⟩ : ∃ j, k = j + 4 := ⟨k - 4, by omega⟩
  have hstep : parseStep ((Piece.frame c body).wire.take (j + 4)) =
      some (frameEntry (digitByte c.val) (UInt8.ofNat body.length) (body.take j), []) := by
    show parseStep (0x61 :: 0x72 :: digitByte c.val :: UInt8.ofNat body.length :: body.take j) = _
    rw [parseStep_frame, ofNat_length hw.2, List.take_take, List.drop_eq_nil_of_le (by
      rw [List.length_take]
      omega)]
    rw [show min body.length j = j by omega]
  rw [pump_pieces ch done h, drain_item parseStep_drops hstep, drain_nil parseStep_drops,
    Nat.add_sub_cancel, ← Piece.entry_pair]
  simp only [List.filterMap_cons, List.filterMap_nil]
  rw [frameEntry_pair ch _ _ (UInt8.ofNat (body.take j).length)]
  unfold Piece.entry
  simp only
  cases (frameEntry (digitByte c.val) (UInt8.ofNat (body.take j).length) (body.take j)).pair ch <;>
    rfl

/-- The bytes a pair takes at least: header, status, timestamp and id behind its data. -/
def pairBytes (pairs : List (Nat × Bytes)) : Nat := (pairs.map fun p => 13 + p.2.length).sum

theorem pairBytes_append (ps qs : List (Nat × Bytes)) :
    pairBytes (ps ++ qs) = pairBytes ps + pairBytes qs := by
  unfold pairBytes
  rw [List.map_append, List.sum_append]

theorem parseStep_bytes (ch : Nat) {s rest : Bytes} {e : Entry}
    (h : parseStep s = some (e, rest)) :
    pairBytes (e.pair ch).toList + rest.length ≤ s.length := by
  rcases parseStep_cases h with ⟨channel, ln, body, -, -, rfl, rfl⟩ | ⟨j, -, rfl, rfl⟩
  · simp only [List.length_cons, List.length_append]
    unfold frameEntry
    split
    · simp [Entry.pair, pairBytes]
      omega
    · rename_i sts raw
      simp only [List.length_cons]
      split
      · unfold Entry.pair
        simp only
        split
        · rename_i hd
          have := hd.2
          simp only [Option.toList_some, pairBytes, List.map_cons, List.map_nil, List.sum_cons,
            List.sum_nil, List.length_drop] at this ⊢
          omega
        · simp [pairBytes]
          omega
      · have hnone : ¬([channel] = decimal ch ∧ 4 ≤ ([] : Bytes).length) :=
          fun hd => absurd hd.2 (by decide)
        unfold Entry.pair
        simp only
        rw [if_neg hnone]
        simp [pairBytes]
        omega
  · simp [Entry.pair, pairBytes]

/-- No pair is made of nothing: what is handed on and kept was in the buffer. -/
theorem drain_bytes (ch : Nat) (s : Bytes) :
    pairBytes ((Framing.drain parseStep s).1.filterMap (Entry.pair ch)) +
      (Framing.drain parseStep s).2.length ≤
      s.length := by
  induction hn : s.length using Nat.strongRecOn generalizing s with
  | ind n ih =>
      cases h : parseStep s with
      | none =>
          rw [drain_wait parseStep_drops h]
          simp [pairBytes, hn]
      | some r =>
          have hone := parseStep_bytes ch h
          have hrest := ih r.2.length (hn ▸ parseStep_drops s r.1 r.2 h) r.2 rfl
          rw [drain_item parseStep_drops h]
          have e : (r.1 :: (Framing.drain parseStep r.2).1).filterMap (Entry.pair ch) =
              (r.1.pair ch).toList ++ (Framing.drain parseStep r.2).1.filterMap
                (Entry.pair ch) := by
            rw [List.filterMap_cons]
            cases r.1.pair ch <;> rfl
          rw [e, pairBytes_append]
          show _ + (Framing.drain parseStep r.2).2.length ≤ n
          omega

theorem pumps_bytes (ch : Nat) : ∀ (ds : List Bytes) (buf : Bytes),
    pairBytes (pumps ch buf ds) ≤ buf.length + ds.flatten.length
  | [], _ => Nat.zero_le _
  | d :: ds, buf => by
      have hone := drain_bytes ch (buf ++ d)
      have ih := pumps_bytes ch ds (Framing.drain parseStep (buf ++ d)).2
      show pairBytes ((pump ch buf d).1 ++ pumps ch (pump ch buf d).2 ds) ≤ _
      rw [pairBytes_append, pump_eq, List.flatten_cons, List.length_append]
      rw [List.length_append] at hone
      simp only
      omega

/-- A frame of the channel with an id takes exactly the bytes of its pair. -/
theorem own_bytes {ch : Nat} : ∀ {ps : List StreamPiece}, (∀ p ∈ ps, (p.val.pair ch).isSome) →
    pairBytes (pairsOf ch ps) = (wireOf ps).length
  | [], _ => rfl
  | p :: ps, h => by
      have ih := own_bytes fun q hq => h q (List.mem_cons_of_mem _ hq)
      obtain ⟨pr, hpr⟩ := Option.isSome_iff_exists.mp (h p List.mem_cons_self)
      have hone : 13 + pr.2.length = p.val.wire.length := by
        obtain ⟨p, hp⟩ := p
        cases p with
        | line text => cases hpr
        | frame c body =>
            unfold Piece.pair at hpr
            simp only at hpr
            split at hpr
            · rename_i hc
              cases hpr
              show 13 + (body.drop 9).length = (0x61 :: 0x72 :: _ :: _ :: body).length
              simp only [List.length_drop, List.length_cons]
              omega
            · cases hpr
      have e : pairsOf ch (p :: ps) = pr :: pairsOf ch ps := by
        unfold pairsOf
        rw [List.filterMap_cons, hpr]
      have ew : wireOf (p :: ps) = p.val.wire ++ wireOf ps := rfl
      rw [e, ew, List.length_append, ← ih, ← hone]
      rfl

/-- **A drain that ends inside one of the channel's own frames loses it**: its data is cut short
    where its id was there, and where not there are too few bytes left for it. -/
theorem pumps_cut_ne {ch : Nat} {ps : List StreamPiece} (hown : ∀ p ∈ ps, (p.val.pair ch).isSome)
    {buf d : Bytes} {ds : List Bytes} (h : buf ++ (d :: ds).flatten = wireOf ps)
    (hc : CutInside ps (buf ++ d)) : pumps ch buf (d :: ds) ≠ pairsOf ch ps := by
  obtain ⟨done, p, todo, k, rfl, ⟨c, body, hf⟩, h4, hk, hbd⟩ := hc
  have hw := p.property
  have hp := hown p (List.mem_append_right _ List.mem_cons_self)
  have hrest : ds.flatten = p.val.wire.drop k ++ wireOf todo := by
    rw [List.flatten_cons, ← List.append_assoc, hbd, wireOf_append, List.append_assoc] at h
    have h' := List.append_cancel_left h
    have e : wireOf (p :: todo) = p.val.wire.take k ++ (p.val.wire.drop k ++ wireOf todo) := by
      rw [← List.append_assoc, List.take_append_drop]
      rfl
    rw [e] at h'
    exact List.append_cancel_left h'
  have hpairs : pairsOf ch (p :: todo) = (p.val.pair ch).toList ++ pairsOf ch todo := by
    unfold pairsOf
    rw [List.filterMap_cons]
    cases p.val.pair ch <;> rfl
  have htodo := own_bytes fun q hq => hown q (List.mem_append_right _ (List.mem_cons_of_mem _ hq))
  have hbytes := pumps_bytes ch ds []
  rw [hf] at hw hk hbd hrest hp hpairs
  have hk' : k < body.length + 4 := hk
  intro e
  rw [pairsOf_append, hpairs] at e
  change (pump ch buf d).1 ++ pumps ch (pump ch buf d).2 ds = _ at e
  have hcutp := pump_cut ch hw h4 hk' hbd
  have hkept : (pump ch buf d).2 = [] := congrArg Prod.snd hcutp
  rw [hkept, hcutp, List.append_assoc] at e
  have e' := List.append_cancel_left e
  have hwire : (Piece.frame c body).wire.length = body.length + 4 := rfl
  rw [hrest, List.length_append, List.length_drop, hwire] at hbytes
  have hcb : c.val = ch ∧ 9 ≤ body.length := by
    unfold Piece.pair at hp
    simp only at hp
    split at hp
    · assumption
    · cases hp
  have hfull : (Piece.frame c body).pair ch =
    some (BigEndian.value ((body.drop 5).take 4), body.drop 9) :=
    if_pos hcb
  have hnil : ([] : Bytes).length = 0 := rfl
  rw [hfull] at e'
  by_cases h13 : 9 ≤ (body.take (k - 4)).length
  · have hcut : (Piece.frame c (body.take (k - 4))).pair ch =
        some (BigEndian.value (((body.take (k - 4)).drop 5).take 4), (body.take (k - 4)).drop 9) :=
      if_pos ⟨hcb.1, h13⟩
    rw [hcut] at e'
    have hdata := congrArg (fun l => l.2.length) (List.cons.inj e').1
    simp only [List.length_drop, List.length_take] at hdata h13
    omega
  · have hcut : (Piece.frame c (body.take (k - 4))).pair ch = none :=
      if_neg fun hx => h13 hx.2
    rw [hcut] at e'
    have hsum := congrArg pairBytes e'
    rw [Option.toList_none, List.nil_append, pairBytes_append, htodo] at hsum
    have hone : pairBytes [(BigEndian.value ((body.drop 5).take 4), body.drop 9)] =
      body.length + 4 := by
      simp only [pairBytes, List.map_cons, List.map_nil, List.sum_cons, List.sum_nil,
        List.length_drop]
      omega
    rw [Option.toList_some, hone] at hsum
    omega

/-- On a stream of the channel's own frames the pairs are the frames' only where no drain ends
    inside one. -/
theorem pumps_own {ch : Nat} : ∀ (ds : List Bytes) (ps : List StreamPiece) (buf : Bytes),
    (∀ p ∈ ps, (p.val.pair ch).isSome) → buf ++ ds.flatten = wireOf ps →
    pumps ch buf ds = pairsOf ch ps → CutClean ps buf ds
  | [], _, _, _, _, _ => fun n hn => absurd hn (Nat.not_lt_zero n)
  | d :: ds, ps, buf, hown, h, e => by
      have hone : ¬CutInside ps (buf ++ d) := fun hc => pumps_cut_ne hown h hc e
      have h' : (buf ++ d) ++ ds.flatten = wireOf ps := by
        rw [List.append_assoc]
        exact h
      obtain ⟨done, todo, rest, rfl, e2, e3, hp⟩ := pump_clean ch h' hone
      have hrest : pumps ch rest ds = pairsOf ch todo := by
        change (pump ch buf d).1 ++ pumps ch (pump ch buf d).2 ds = _ at e
        rw [hp, pairsOf_append] at e
        exact List.append_cancel_left e
      have ih := pumps_own ds todo rest
        (fun p hp => hown p (List.mem_append_right _ hp)) e3 hrest
      intro n hn hc
      cases n with
      | zero =>
          rw [List.take_succ_cons, List.take_zero, List.flatten_singleton] at hc
          exact hone hc
      | succ n =>
          rw [drains_behind ds n e2] at hc
          exact ih n (Nat.lt_of_succ_lt_succ hn) hc.ahead

/-! ## 6. The pump over a whole run -/

/-- **The pump over the pieces of a stream.** In one drain every frame of the channel with four data
    bytes or more comes with its full data. Cut into drains none of which ends inside a frame
    behind its length byte the pairs are the same; and where all the stream's pieces are such
    frames, they are the same only then. -/
theorem pumps_cuts (ch : Nat) (ps : List StreamPiece) (ds : List Bytes)
    (h : ds.flatten = wireOf ps) :
    pumps ch [] [wireOf ps] = pairsOf ch ps ∧
      (CutClean ps [] ds → pumps ch [] ds = pumps ch [] [wireOf ps]) ∧
      ((∀ p ∈ ps, (p.val.pair ch).isSome) →
        (pumps ch [] ds = pumps ch [] [wireOf ps] ↔ CutClean ps [] ds)) := by
  have hwhole := pumps_whole ch ps
  have hclean : CutClean ps [] ds → pumps ch [] ds = pumps ch [] [wireOf ps] := fun hc => by
    rw [hwhole]
    exact pumps_clean ch ds ps [] h (next_nil parseStep_drops) hc
  refine ⟨hwhole, hclean, ?_⟩
  intro hown
  refine ⟨?_, hclean⟩
  intro e
  exact pumps_own ds ps [] hown h (e.trans hwhole)

/-- A frame of channel 5: CAN id 0x300 and two bytes. -/
def sampleFrame : StreamPiece :=
  ⟨.frame 5 [0x00, 0x00, 0x00, 0x10, 0x00, 0x00, 0x00, 0x03, 0x00, 0xa1,
    0x0f], by decide, by decide⟩

/-- Its header in one drain, the rest in the next. -/
def sampleDrains : List Bytes :=
  [[0x61, 0x72, 0x35, 0x0b], [0x00, 0x00, 0x00, 0x10, 0x00, 0x00, 0x00, 0x03, 0x00, 0xa1, 0x0f]]

/-- Two such frames: the first drain ends inside the first one's header, the second with its last
    byte, the third behind two bytes of the second. -/
def cleanDrains : List Bytes :=
  [[0x61, 0x72, 0x35],
    [0x0b, 0x00, 0x00, 0x00, 0x10, 0x00, 0x00, 0x00, 0x03, 0x00, 0xa1, 0x0f], [0x61, 0x72],
    [0x35, 0x0b, 0x00, 0x00, 0x00, 0x10, 0x00, 0x00, 0x00, 0x03, 0x00, 0xa1, 0x0f]]

/-- Cut within the header both frames come whole, and the cut is clean; cut behind the length byte
    it is not. -/
theorem pumps_cuts_sample : (CutClean [sampleFrame, sampleFrame] [] cleanDrains ∧
    pumps 5 [] cleanDrains = [(0x300, [0xa1, 0x0f]), (0x300, [0xa1, 0x0f])]) ∧
    (sampleDrains.flatten = wireOf [sampleFrame] ∧ ¬CutClean [sampleFrame] [] sampleDrains) := by
  have hclean := pumps_cuts 5 [sampleFrame, sampleFrame] cleanDrains (by decide)
  have hcut := pumps_cuts 5 [sampleFrame] sampleDrains (by decide)
  refine ⟨⟨(hclean.2.2 (by decide)).mp (by decide), by decide⟩, by decide, ?_⟩
  intro hc
  exact absurd ((hcut.2.2 (by decide)).mpr hc) (by decide)

/-- **A frame cut behind its header is lost.** -/
theorem pumps_cut_lost : sampleDrains.flatten = wireOf [sampleFrame] ∧
    pumps 5 [] [wireOf [sampleFrame]] = [(0x300, [0xa1, 0x0f])] ∧ pumps 5 [] sampleDrains = [] := by
  decide

end Openport.Car
