/-
  File:      Openport/Device/Late.lean
  Subject:   A reader that has lost the beginning of a record never catches up.

  Once bytes of a record are skipped, the loop reads on inside it. It may hand
  on whatever it finds there, but never a record that ends where that one ends
  (`not_inside`): what is decoded from inside a record is shorter than it, and
  a shorter spelling of the same reply would have to begin where the record has
  other bytes. So the loop stays behind the stream (`drain_late`), and what it
  has handed on at the end is not the list that was sent (`late_reads`).
-/
import Openport.Device.Residue
import Openport.Device.Stream

namespace Openport

open Lib.Decimal Lib.Framing

/-! ## 1. What a decided buffer begins with -/

/-- What a turn of the loop hands on, and how much it takes. -/
theorem consumeStep_inv {buf rest : Bytes} {h : Handed} (hs : consumeStep buf = some (h, rest)) :
    ∃ n, n ≠ 0 ∧ rest = buf.drop n ∧ ((∃ k, h = .desync k) ∨
      ((opParse buf).1 = n ∧ (opParse buf).2.kind ≠ .junk ∧
        (h = .frame (opParse buf).2 ∧ (opParse buf).2.kind = .frame ∨
          h = .reply (opParse buf).2 ∧ (opParse buf).2.kind ≠ .frame))) := by
  unfold consumeStep at hs
  simp only at hs
  by_cases h0 : (opParse buf).1 = 0
  · rw [if_pos h0] at hs
    cases hs
  rw [if_neg h0] at hs
  cases hk : (opParse buf).2.kind with
  | frame =>
      rw [hk] at hs
      cases hs
      exact ⟨_, h0, rfl, Or.inr ⟨rfl, fun e => (nomatch e), Or.inl ⟨rfl, rfl⟩⟩⟩
  | junk =>
      rw [hk] at hs
      cases hs
      exact ⟨_, by split <;> omega, rfl, Or.inl ⟨_, rfl⟩⟩
  | incomplete | ok | error | info | pin | filter | config | init | periodic =>
      rw [hk] at hs
      cases hs
      exact ⟨_, h0, rfl, Or.inr ⟨rfl, fun e => (nomatch e), Or.inr ⟨rfl, fun e => (nomatch e)⟩⟩⟩

theorem opParseFrame_inv {ch n : Nat} {t : Bytes} {r : OpReply} (h : opParseFrame ch t = (n, r))
    (h0 : n ≠ 0) (hj : r.kind ≠ .junk) : ∃ len status body, len :: status :: body <+: t ∧
      n = 5 + body.length ∧ len.toNat = 1 + body.length ∧ r = frameReply ch status body := by
  cases t with
  | nil =>
      cases h
      exact absurd rfl h0
  | cons len s =>
      unfold opParseFrame at h
      simp only at h
      by_cases hw : s.length < len.toNat
      · rw [if_pos hw] at h
        cases h
        exact absurd rfl h0
      rw [if_neg hw] at h
      cases htake : s.take len.toNat with
      | nil =>
          rw [htake] at h
          cases h
          exact absurd rfl hj
      | cons status body =>
          rw [htake] at h
          cases h
          have hlen := congrArg List.length htake
          rw [List.length_take, List.length_cons] at hlen
          refine ⟨len, status, body, ?_, by omega, by omega, rfl⟩
          rw [← htake]
          exact List.cons_prefix_cons.mpr ⟨rfl, List.take_prefix _ _⟩

/-- A line's reply holds no bytes of its own. -/
theorem parseAscii_data (body : Bytes) : (parseAscii body).data = none := by
  unfold parseAscii
  split
  · rfl
  split <;> (repeat' split) <;> rfl

/-- A decided line: what its reply is made of, and how long it is with its raw bytes. -/
theorem opParseLine_inv {s : Bytes} {n : Nat} {r : OpReply} (h : opParseLine s = (n, r))
    (h0 : n ≠ 0) (hj : r.kind ≠ .junk) : ∃ k, findCrLf s = some k ∧ n ≤ s.length + 2 ∧
      n = k + 4 + (r.data.getD []).length ∧ r.kind = (parseAscii (s.take k)).kind ∧
      r.text = (parseAscii (s.take k)).text := by
  unfold opParseLine at h
  cases hf : findCrLf s with
  | none =>
      rw [hf] at h
      simp only at h
      by_cases hg : s.length + 2 > opCmdMax * 4
      · rw [if_pos hg] at h
        cases h
        exact absurd rfl hj
      · rw [if_neg hg] at h
        cases h
        exact absurd rfl h0
  | some k =>
      rw [hf] at h
      simp only at h
      have hk := findCrLf_lt hf
      by_cases hy : (parseAscii (s.take k)).kind = .init ∧ s.head? = some 0x79
      · rw [if_pos hy] at h
        by_cases hw : s.length < k + 2 + (parseAscii (s.take k)).a.toNat
        · rw [if_pos hw] at h
          cases h
          exact absurd rfl h0
        · rw [if_neg hw] at h
          cases h
          refine ⟨k, rfl, by omega, ?_, rfl, rfl⟩
          show _ = k + 4 + ((s.drop (k + 2)).take (parseAscii (s.take k)).a.toNat).length
          rw [List.length_take, List.length_drop]
          omega
      · rw [if_neg hy] at h
        cases h
        exact ⟨k, rfl, by omega, by rw [parseAscii_data]; rfl, rfl, rfl⟩

/-- An `ari` reply's text is what follows its verb and spaces. -/
theorem parseAscii_info {body : Bytes} (h : (parseAscii body).kind = .info) :
    ∃ s, body = 0x69 :: s ∧ (parseAscii body).text = some (skipSpaces s) := by
  cases body with
  | nil => cases h
  | cons verb s =>
      by_cases hv : verb = 0x69
      · subst hv
        exact ⟨s, rfl, rfl⟩
      · exfalso
        revert h
        unfold parseAscii
        split
        · exact fun h => (nomatch h)
        rename_i heq
        cases heq
        split
        all_goals first
          | exact absurd rfl hv
          | ((repeat' split) <;> exact fun h => (nomatch h))

/-! ## 2. Where an 'a' stands in a record -/

/-- Fields are digits and spaces. -/
theorem fields_noA (vs : List UInt32) : (0x61 : UInt8) ∉ fields vs := by
  induction vs with
  | nil => exact List.not_mem_nil
  | cons v vs ih =>
      intro hc
      rcases List.mem_cons.mp hc with h | hc
      · exact absurd h (by decide)
      rcases List.mem_append.mp hc with hd | hr
      · exact absurd (decimal_isDigit _ _ hd) (by decide)
      · exact ih hr

theorem channelFields_noA (n : Nat) (vs : List UInt32) :
    (0x61 : UInt8) ∉ decimal n ++ fields vs := by
  intro hc
  rcases List.mem_append.mp hc with hd | hr
  · exact absurd (decimal_isDigit _ _ hd) (by decide)
  · exact fields_noA vs hr

/-- No reply line but `ari` has an 'a' behind its first byte. -/
theorem Record.body_noA {r : Record} (hf : ∀ ch status body, r ≠ .frame ch status body)
    (hi : ∀ spaces text, r ≠ .info spaces text) : (0x61 : UInt8) ∉ r.body := by
  cases r with
  | frame ch status body => exact absurd rfl (hf ch status body)
  | info spaces text => exact absurd rfl (hi spaces text)
  | ok tail | error code tail | pin p mv tail =>
      intro hc
      rcases List.mem_cons.mp hc with h | hc
      · exact absurd h (by decide)
      · exact fields_noA _ hc
  | filter ch id tail | config ch param value tail | periodic ch id tail
  | fastInit ch tail raw | fiveBaud ch tail =>
      intro hc
      rcases List.mem_cons.mp hc with h | hc
      · exact absurd h (by decide)
      · exact channelFields_noA _ _ hc

/-- A line's raw bytes are its reply's data. -/
theorem Record.reply_data {r : Record} (hf : ∀ ch status body, r ≠ .frame ch status body) :
    r.reply.data.getD [] = r.raw := by
  cases r with
  | frame ch status body => exact absurd rfl (hf ch status body)
  | ok | error | info | pin | filter | config | periodic | fastInit | fiveBaud => rfl

theorem Record.wire_length {r : Record} (hf : ∀ ch status body, r ≠ .frame ch status body) :
    r.wire.length = r.body.length + 4 + r.raw.length := by
  rw [r.wire_line hf]
  simp only [List.length_cons, List.length_append]
  omega

/-- Behind the first byte and before its end a reply line has no 'a', or it has one in the text
    of an `ari`. -/
theorem Record.line_noA {r : Record} (hf : ∀ ch status body, r ≠ .frame ch status body)
    (hi : ∀ spaces text, r ≠ .info spaces text) {x : Nat} (h0 : 0 < x) (hx : x ≤ r.body.length) :
    r.wire[x]? ≠ some 0x61 := by
  intro h
  rw [r.wire_line hf] at h
  rcases x with _ | _ | x
  · exact Nat.lt_irrefl 0 h0
  · exact absurd h (by simp)
  · have hlt : x < r.body.length := by omega
    rw [List.getElem?_cons_succ, List.getElem?_cons_succ, List.getElem?_append_left hlt] at h
    exact r.body_noA hf hi (List.mem_of_getElem? h)

theorem Record.info_noA {spaces x : Nat} {text : Bytes} (h0 : 0 < x) (hx : x ≤ spaces + 2) :
    (Record.info spaces text).wire[x]? ≠ some 0x61 := by
  intro h
  change (0x61 :: 0x72 :: 0x69 ::
    ((List.replicate spaces 0x20 ++ text) ++ 0x0d :: 0x0a :: []))[x]? =
    some 0x61 at h
  rcases x with _ | _ | _ | x
  · exact Nat.lt_irrefl 0 h0
  · exact absurd h (by simp)
  · exact absurd h (by simp)
  · have hlt : x < (List.replicate spaces (0x20 : UInt8)).length := by
      rw [List.length_replicate]
      omega
    rw [List.getElem?_cons_succ, List.getElem?_cons_succ, List.getElem?_cons_succ,
      List.append_assoc,
      List.getElem?_append_left hlt] at h
    exact absurd (List.eq_of_mem_replicate (List.mem_of_getElem? h)) (by decide)

/-! ## 3. A record is not handed on from inside itself -/

/-- A timestamp of 0 begins with a zero byte. -/
theorem opRdBe32_zero {b0 b1 b2 b3 : UInt8} (h : opRdBe32 b0 b1 b2 b3 = 0) : b0 ≠ 0x72 := by
  rintro rfl
  unfold opRdBe32 at h
  have h0 := (UInt32.or_eq_zero_iff.mp
    (UInt32.or_eq_zero_iff.mp (UInt32.or_eq_zero_iff.mp h).1).1).1
  exact absurd h0 (by decide)

/-- Two frames with one reply: the shorter has no timestamp, and the longer has a 0 there. -/
theorem frameReply_shorter {ch ch' : Nat} {status status' : UInt8} {body body' : Bytes}
    (h : frameReply ch status body = frameReply ch' status' body')
    (hlt : body'.length < body.length) : body.length = body'.length + 4 ∧
      opFrameHasTimestamp ch status body.length = true ∧
      opFrameHasTimestamp ch status body'.length = false ∧ body.head? ≠ some 0x72 := by
  rcases frameReply_cases ch status body with ⟨b0, b1, b2, b3, d, ht, hb, e⟩ | ⟨ht, e⟩ <;>
    rcases frameReply_cases ch' status' body' with ⟨c0, c1, c2, c3, d', ht', hb', e'⟩ | ⟨ht', e'⟩
  · have hd : d = d' := by
      have := congrArg OpReply.data ((e.symm.trans h).trans e')
      exact Option.some.inj this
    rw [hb, hb', hd] at hlt
    exact absurd hlt (Nat.lt_irrefl _)
  · have heq := (e.symm.trans h).trans e'
    have hd : d = body' := Option.some.inj (congrArg OpReply.data heq)
    have hts : opRdBe32 b0 b1 b2 b3 = 0 := congrArg OpReply.timestampUs heq
    have hch : ch = ch' := congrArg OpReply.channel heq
    have hst : status = status' := congrArg OpReply.status heq
    refine ⟨by rw [hb, hd]; rfl, ht, by rw [hch, hst]; exact ht', ?_⟩
    rw [hb]
    exact fun hh => opRdBe32_zero hts (Option.some.inj hh)
  · have hd : body = d' := Option.some.inj (congrArg OpReply.data ((e.symm.trans h).trans e'))
    rw [hd, hb'] at hlt
    simp only [List.length_cons] at hlt
    omega
  · have hd : body = body' := Option.some.inj (congrArg OpReply.data ((e.symm.trans h).trans e'))
    rw [hd] at hlt
    exact absurd hlt (Nat.lt_irrefl _)

/-- A frame's reply is not decoded from inside the frame. -/
theorem not_inside_frame {ch : Fin 10} {status : UInt8} {body : Bytes} (hb : body.length ≤ 254)
    {x ch' : Nat} {status' : UInt8} {body' : Bytes} (h0 : 0 < x)
    (hx : x + (5 + body'.length) ≤ (Record.frame ch status body).wire.length)
    (ha : (Record.frame ch status body).wire[x]? = some 0x61)
    (hr : (Record.frame ch status body).wire[x + 1]? = some 0x72) :
    frameReply ch.val status body ≠ frameReply ch' status' body' := by
  intro h
  change x + (5 + body'.length) ≤
    (0x61 :: 0x72 :: digitByte ch.val :: UInt8.ofNat (1 + body.length) :: status :: body).length
      at hx
  change (0x61 :: 0x72 :: digitByte ch.val :: UInt8.ofNat (1 + body.length) :: status :: body)[x]? =
    some 0x61 at ha
  change (0x61 :: 0x72 :: digitByte ch.val :: UInt8.ofNat
    (1 + body.length) :: status :: body)[x + 1]? =
    some 0x72 at hr
  simp only [List.length_cons] at hx
  obtain ⟨hl, ht, ht', hhead⟩ := frameReply_shorter h (by omega)
  rcases x with _ | _ | _ | _ | _ | x
  · exact Nat.lt_irrefl 0 h0
  · exact absurd ha (by simp)
  · -- the channel digit is no 'a'
    have hd : digitByte ch.val = 0x61 := Option.some.inj ha
    have := isDigit_digitByte ch.isLt
    rw [hd] at this
    exact absurd this (by decide)
  · -- a length byte 'a' is a frame of 97 bytes, and both lengths would have a timestamp, or neither
    have hd : UInt8.ofNat (1 + body.length) = 0x61 := Option.some.inj ha
    have hlen := frameLen hb
    rw [hd] at hlen
    have h97 : (0x61 : UInt8).toNat = 97 := rfl
    have e : body.length = 96 := by omega
    have e' : body'.length = 92 := by omega
    rw [e] at ht
    rw [e'] at ht'
    unfold opFrameHasTimestamp at ht ht'
    by_cases hch : ch.val = 5 ∨ ch.val = 6
    · rw [if_pos hch] at ht'
      exact absurd ht' (by decide)
    · rw [if_neg hch] at ht
      simp at ht
  · -- behind a status byte 'a' the timestamp would begin with an 'r'
    cases body with
    | nil => exact absurd hr (by simp)
    | cons b0 body =>
        have hb0 : b0 = 0x72 := Option.some.inj hr
        exact hhead (by rw [hb0]; rfl)
  · omega

/-- A line's reply is not decoded from inside the line. -/
theorem not_inside_line {r : Record} (hf : ∀ ch status body, r ≠ .frame ch status body) {s : Bytes}
    {n x : Nat} (h0 : 0 < x) (hp : opParseLine s = (n, r.reply)) (hn : n ≠ 0)
    (hx : x + n ≤ r.wire.length) : r.wire[x]? ≠ some 0x61 := by
  obtain ⟨k, hk, -, hlen, hkind, htext⟩ := opParseLine_inv hp hn (r.reply_kind hf).2.1
  rw [r.reply_data hf] at hlen
  by_cases hi : ∃ spaces text, r = .info spaces text
  · obtain ⟨spaces, text, rfl⟩ := hi
    obtain ⟨s', hs', ht⟩ := parseAscii_info hkind.symm
    have hraw : (Record.info spaces text).raw.length = 0 := rfl
    have htxt : text = skipSpaces s' := Option.some.inj (htext.trans ht)
    have hle : text.length ≤ s'.length := by
      rw [htxt]
      exact (List.dropWhile_suffix _).length_le
    have hk' : s'.length + 1 ≤ k := by
      have := congrArg List.length hs'
      rw [List.length_take, List.length_cons] at this
      omega
    have hw : (Record.info spaces text).wire.length = spaces + text.length + 5 := by
      show (0x61 :: 0x72 :: (0x69 :: (List.replicate spaces (0x20 : UInt8) ++ text) ++
        [0x0d, 0x0a])).length = _
      simp only [List.length_cons, List.length_append, List.length_replicate, List.length_nil]
    exact Record.info_noA h0 (by omega)
  · rw [r.wire_length hf] at hx
    exact r.line_noA hf (fun spaces text e => hi ⟨spaces, text, e⟩) h0 (by omega)

/-! ## 4. Staying behind -/

/-- What the loop hands on, desyncs apart. -/
def Handed.isReply : Handed → Bool
  | .desync _ => false
  | _ => true

def handedReplies (hs : List Handed) : List Handed := hs.filter Handed.isReply

theorem handedReplies_append (hs hs' : List Handed) :
    handedReplies (hs ++ hs') = handedReplies hs ++ handedReplies hs' := List.filter_append _ _

theorem Record.handed_isReply (r : Record) : r.handed.isReply = true := by
  cases r <;> rfl

/-- Records are no desyncs. -/
theorem handedReplies_handedOn (rs : List WireRecord) : handedReplies (handedOn rs) =
    handedOn rs := by
  refine List.filter_eq_self.mpr ?_
  intro h hh
  obtain ⟨r, -, rfl⟩ := List.mem_map.mp hh
  exact r.val.handed_isReply

/-- No reply line is a frame. -/
theorem parseAscii_kind (body : Bytes) : (parseAscii body).kind ≠ .frame := by
  unfold parseAscii
  split
  · exact fun h => (nomatch h)
  split <;> (repeat' split) <;> exact fun h => (nomatch h)

/-- A record handed on from behind the beginning of another like it ends behind that one. -/
theorem not_inside {r : Record} (hr : r.WellFormed) {x buf u later rest : Bytes} (hx : x ≠ [])
    (he : x ++ (buf ++ u) = r.wire ++ later) (hs : consumeStep buf = some (r.handed, rest)) :
    ∃ n, rest = buf.drop n ∧ n ≤ buf.length ∧ r.wire.length < x.length + n := by
  obtain ⟨n, hn, hrest, hk⟩ := consumeStep_inv hs
  have hx0 : 0 < x.length := List.length_pos_iff.mpr hx
  -- inside the record, the record's bytes are the buffer's
  have hat : ∀ i, i < buf.length → x.length + i < r.wire.length →
    r.wire[x.length + i]? = buf[i]? := by
    intro i hi hlt
    have h1 : (r.wire ++ later)[x.length + i]? = r.wire[x.length + i]? :=
      List.getElem?_append_left hlt
    rw [← h1, ← he, List.getElem?_append_right (Nat.le_add_right _ _), Nat.add_sub_cancel_left,
      List.getElem?_append_left hi]
  rcases hk with ⟨k, hd⟩ | ⟨hp1, hj, hh⟩
  · have := r.handed_isReply
    rw [hd] at this
    cases this
  have hpair : opParse buf = (n, (opParse buf).2) := by rw [← hp1]
  refine ⟨n, hrest, ?_⟩
  obtain ⟨c, t, rfl, ⟨-, hp⟩ | ⟨-, hp⟩⟩ := opParse_inv (by rw [hp1]; exact hn) hj
  · -- a frame
    obtain ⟨len, status, body, hpre, hlen, -, hrep⟩ := opParseFrame_inv (hp.symm.trans hpair) hn hj
    have hle := hpre.length_le
    simp only [List.length_cons] at hle
    have hbuf : n ≤ (0x61 :: 0x72 :: c :: t).length := by
      simp only [List.length_cons]
      omega
    refine ⟨hbuf, Nat.lt_of_not_le ?_⟩
    intro hin
    have hframe : r.handed = .frame (opParse (0x61 :: 0x72 :: c :: t)).2 := by
      rcases hh with hh | hh
      · exact hh.1
      · exact absurd (by rw [hrep]; exact frameReply_kind _ _ _) hh.2
    cases r with
    | frame ch status' body' =>
        have e : frameReply ch.val status' body' = frameReply (digitVal c) status body := by
          rw [← hrep]
          exact Handed.frame.inj hframe
        exact not_inside_frame (hr.frameBody ch status' body' rfl) hx0 (by omega)
          (hat 0 (by simp) (by omega)) (hat 1 (by simp) (by omega)) e
    | ok | error | info | pin | filter | config | periodic | fastInit | fiveBaud => cases hframe
  · -- a line
    obtain ⟨k, -, hbuf, -, hkind, -⟩ := opParseLine_inv (hp.symm.trans hpair) hn hj
    simp only [List.length_cons] at hbuf
    refine ⟨by simp only [List.length_cons]; omega, Nat.lt_of_not_le ?_⟩
    intro hin
    have hnf : (opParse (0x61 :: 0x72 :: c :: t)).2.kind ≠ .frame := by
      rw [hkind]
      exact parseAscii_kind _
    have hreply : r.handed = .reply (opParse (0x61 :: 0x72 :: c :: t)).2 := by
      rcases hh with hh | hh
      · exact absurd hh.2 hnf
      · exact hh.1
    have hf : ∀ ch status body, r ≠ .frame ch status body := by
      rintro ch status body rfl
      cases hreply
    have e : (opParse (0x61 :: 0x72 :: c :: t)).2 = r.reply := by
      rw [(r.reply_kind hf).2.2] at hreply
      exact (Handed.reply.inj hreply).symm
    rw [e] at hpair
    exact not_inside_line hf hx0 (hp.symm.trans hpair) hn hin (hat 0 (by simp) (by omega))

/-- **Behind the stream, handing on the next record leaves the loop behind the one after it.** -/
theorem late_step {r : Record} (hr : r.WellFormed) {x buf u later rest : Bytes} (hx : x ≠ [])
    (he : x ++ (buf ++ u) = r.wire ++ later) (hs : consumeStep buf = some (r.handed, rest)) :
    ∃ x', x' ≠ [] ∧ x' ++ (rest ++ u) = later := by
  obtain ⟨n, rfl, hn, hlt⟩ := not_inside hr hx he hs
  have he' : (x ++ buf.take n) ++ (buf.drop n ++ u) = r.wire ++ later := by
    rw [← he, List.append_assoc, ← List.append_assoc (buf.take n), List.take_append_drop]
  have hlen : (x ++ buf.take n).length = x.length + n := by
    rw [List.length_append, List.length_take, Nat.min_eq_left hn]
  rcases List.append_eq_append_iff.mp he' with ⟨a, ha, -⟩ | ⟨a, ha, hl⟩
  · have := congrArg List.length ha
    rw [List.length_append, hlen] at this
    omega
  · refine ⟨a, ?_, hl.symm⟩
    rintro rfl
    rw [List.append_nil] at ha
    rw [ha] at hlen
    omega

theorem handedOn_cons (r : WireRecord) (rs : List WireRecord) :
    handedOn (r :: rs) = r.val.handed :: handedOn rs := rfl

theorem stream_cons (r : WireRecord) (rs : List WireRecord) :
    stream (r :: rs) = r.val.wire ++ stream rs := rfl

/-- Behind the stream, draining a buffer stays behind it, as long as only the records that are
    due are handed on. -/
theorem drain_late (buf : Bytes) : ∀ (rs : List WireRecord) (x u : Bytes) (more : List Handed),
    x ≠ [] → x ++ (buf ++ u) = stream rs →
    handedReplies (drain consumeStep buf).1 ++ more = handedOn rs →
    ∃ todo x', x' ≠ [] ∧ more = handedOn todo ∧
      x' ++ ((drain consumeStep buf).2 ++ u) = stream todo := by
  induction hn : buf.length using Nat.strongRecOn generalizing buf with
  | ind n ih =>
      intro rs x u more hx he hd
      cases hs : consumeStep buf with
      | none =>
          rw [drain_wait consumeStep_shrinks hs] at hd ⊢
          exact ⟨rs, x, hx, hd, he⟩
      | some p =>
          obtain ⟨h, rest⟩ := p
          have hlt := consumeStep_shrinks buf h rest hs
          rw [drain_item consumeStep_shrinks hs] at hd ⊢
          cases hrep : h.isReply with
          | false =>
              -- skipped bytes put the loop further behind
              obtain ⟨c, rfl⟩ := consumeStep_suffix buf h rest hs
              refine ih rest.length (hn ▸ hlt) rest rfl rs (x ++ c) u more (by simp [hx]) ?_ ?_
              · rw [← he]
                simp only [List.append_assoc]
              · rw [← hd]
                unfold handedReplies
                rw [List.filter_cons_of_neg (by rw [hrep]; decide)]
          | true =>
              have hd' : h :: (handedReplies (drain consumeStep rest).1 ++ more) = handedOn rs := by
                rw [← hd]
                unfold handedReplies
                rw [List.filter_cons_of_pos hrep]
                rfl
              cases rs with
              | nil => cases hd'
              | cons r rs =>
                  rw [handedOn_cons] at hd'
                  obtain ⟨rfl, hd''⟩ := List.cons.inj hd'
                  rw [stream_cons] at he
                  obtain ⟨x', hx', he'⟩ := late_step r.property hx he hs
                  exact ih rest.length (hn ▸ hlt) rest rfl rs x' u more hx' he' hd''

/-- **Behind the stream, the reads do not hand on what was sent.** -/
theorem late_reads : ∀ (reads : List Bytes) (accum x : Bytes) (rs : List WireRecord),
    Short accum → (∀ tmp ∈ reads, tmp.length ≤ 1024) → x ≠ [] →
    x ++ (accum ++ reads.flatten) = stream rs →
    handedReplies (readerReads accum reads).1 ≠ handedOn rs
  | [], accum, x, rs, _, _, hx, he => by
      intro h
      cases rs with
      | nil => exact hx (List.append_eq_nil_iff.mp he).1
      | cons r rs => cases h
  | tmp :: reads, accum, x, rs, ha, hl, hx, he => by
      intro h
      obtain ⟨hread, hshort⟩ := readerRead_short ha (hl tmp List.mem_cons_self)
      have h' : handedReplies (drain consumeStep (accum ++ tmp)).1 ++
          handedReplies (readerReads (readerRead accum tmp).2 reads).1 = handedOn rs := by
        rw [← hread, ← handedReplies_append]
        exact h
      have he' : x ++ ((accum ++ tmp) ++ reads.flatten) = stream rs := by
        rw [← he, List.flatten_cons, List.append_assoc]
      obtain ⟨todo, x', hx', hmore, he''⟩ := drain_late (accum ++ tmp) rs x _ _ hx he' h'
      rw [← hread] at he''
      exact late_reads reads _ x' todo hshort (fun t ht => hl t (List.mem_cons_of_mem _ ht))
        hx' he'' hmore

end Openport
