/-
  File:      Openport/Device/LastToken.lean
  Subject:   The echoed number of a reply: the last of its trailing tokens, as
             `op_parse` reports it and `stash_reply` takes it.

  `op_reply.tail` has eight slots, and `parse_tail` drops the tokens that do not
  fit, so of a longer line the eighth token stands for the last.
  `lastToken_exact` says for which lines that makes no difference.
-/
import Openport.Device.Stash
import Openport.Proto.Tokens

namespace Openport

/-! ## 1. What a reply with tokens may answer -/

/-- The waiting command is a K-line init, `aty` or `atw`. -/
def InitWaits (d : OpDevice) : Prop := d.cmdVerb = 0x79 ∨ d.cmdVerb = 0x77

/-- **What a numbered command accepts**: a reply that echoes its number; an init command also an
    init reply without raw bytes whose last token is a byte, which is no number. -/
theorem accepts_echoed {d : OpDevice} {r : OpReply} {u : UInt32} (hw : d.cmdWaiting = true)
    (hs : d.seqPending ≠ 0) (hk : r.kind ≠ .info) (he : r.echoed = some u) :
    accepts d r = true ↔ (r.kind = .init → InitWaits d) ∧
      (u = d.seqPending ∨ (r.kind = .init ∧ r.bytes = [] ∧ u ≤ 0xFF)) := by
  have htail : r.tail ≠ [] := by
    intro e
    unfold OpReply.echoed at he
    rw [e] at he
    cases he
  have hle : ¬0xFF < u ↔ u ≤ 0xFF := UInt32.not_lt
  rw [accepts_eq]
  by_cases hi : r.kind = .init
  · have hclaims : claims d r = true ↔ InitWaits d := by
      unfold claims InitWaits
      rw [hw, hi]
      by_cases hy : d.cmdVerb = 0x79 <;> by_cases hz : d.cmdVerb = 0x77 <;> simp [hy, hz]
    have hstale : stale d r = false ↔ u = d.seqPending ∨ (r.bytes = [] ∧ u ≤ 0xFF) := by
      unfold stale
      rw [hi, he, ← hle]
      by_cases hu : u = d.seqPending
      · simp [hu]
      · by_cases hb : r.bytes = []
        · simp [hs, htail, hu, hb]
        · simp [hs, htail, hu, hb]
    rw [Bool.and_eq_true, hclaims, Bool.not_eq_true', hstale]
    exact ⟨fun ⟨h1, h2⟩ => ⟨fun _ => h1, h2.imp_right fun h => ⟨hi, h⟩⟩,
      fun ⟨h1, h2⟩ => ⟨h1 hi, h2.imp_right fun h => h.2⟩⟩
  · have hstale : stale d r = false := by
      unfold stale
      simp [hi]
    have hclaims : claims d r = true ↔ u = d.seqPending := by
      unfold claims
      rw [hw, he]
      simp [hi, hk, hs]
    rw [hstale, Bool.not_false, Bool.and_true, hclaims]
    exact ⟨fun h => ⟨fun e => absurd e hi, .inl h⟩,
      fun ⟨_, h⟩ => h.resolve_right fun hx => hi hx.1⟩

/-! ## 2. The last token of a line -/

/-- What a line promises about its last token: it is the echoed number `op_parse` reports, and by
    it alone a numbered command accepts or discards the reply. An init reply answers only an init,
    and without raw bytes it carries no number when its last token is a byte. -/
structure LastTokenRules (f : Fixed) (last : Token) (r : OpReply) : Prop where
  reported : ∃ u, r.echoed = some u ∧ u.toNat = last.number
  matched : ∀ d : OpDevice, d.cmdWaiting = true → d.seqPending ≠ 0 →
    (accepts d r = true ↔ (r.kind = .init → InitWaits d) ∧
      (last.number = d.seqPending.toNat ∨
        (r.kind = .init ∧ f.raw = [] ∧ last.number ≤ 255)))
  /-- an `arw` numbered for another command gives the waiting one no key bytes -/
  foreign : ∀ (d : OpDevice) (ch : Digits), f = .fiveBaud ch → d.cmdWaiting = true →
    d.seqPending ≠ 0 → 255 < last.number → last.number ≠ d.seqPending.toNat → accepts d r = false

/-- The last of the first eight tokens, held at 2^32 - 1, is the number of the last one. -/
def LastKept (ts : List Token) (last : Token) : Prop :=
  ∃ t, ((ts ++ [last]).take 8).getLast? = some t ∧ min t.number 0xFFFFFFFF = last.number

theorem Fixed.reply_bytes (f : Fixed) (tail : List UInt32) : (f.reply tail).bytes = f.raw := by
  cases f with
  | ok | error | pin | filter | config | periodic | fastInit | fiveBaud => rfl

theorem Fixed.reply_tail (f : Fixed) (tail : List UInt32) : (f.reply tail).tail = tail := by
  cases f with
  | ok | error | pin | filter | config | periodic | fastInit | fiveBaud => rfl

theorem Fixed.reply_kind (f : Fixed) (tail : List UInt32) : (f.reply tail).kind ≠ .info := by
  cases f with
  | ok | error | pin | filter | config | periodic | fastInit | fiveBaud =>
    exact fun e => (nomatch e)

theorem keptTokens_getLast? (ts : List Token) :
    (keptTokens ts).getLast? = ((ts.take 8).getLast?).map Token.held := by
  unfold keptTokens tailMax
  rw [← List.map_take, List.getLast?_map]

/-- **When a line's last token is the one that counts**: exactly when it is among the first eight,
    or the eighth is the same number, and below 2^32. -/
theorem lastToken_exact {f : Fixed} (hf : f.Valid) (ts : List Token) (last : Token)
    (rest : Bytes) :
    LastTokenRules f last (opParse (tokenLine f (ts ++ [last]) ++ rest)).2 ↔
      LastKept ts last := by
  rw [opParse_tokenLine hf]
  have hecho : (f.reply (keptTokens (ts ++ [last]))).echoed =
      (((ts ++ [last]).take 8).getLast?).map Token.held := by
    unfold OpReply.echoed
    rw [f.reply_tail, keptTokens_getLast?]
  refine ⟨?_, ?_⟩
  · intro h
    obtain ⟨u, hu, hn⟩ := h.reported
    rw [hecho] at hu
    obtain ⟨t, ht, rfl⟩ := Option.map_eq_some_iff.mp hu
    exact ⟨t, ht, t.run.held_toNat.symm.trans hn⟩
  · rintro ⟨t, ht, hn⟩
    have hu : (f.reply (keptTokens (ts ++ [last]))).echoed = some t.held := by
      rw [hecho, ht]
      rfl
    have hnum : t.held.toNat = last.number := t.run.held_toNat.trans hn
    have hbyte : t.held ≤ 0xFF ↔ last.number ≤ 255 := by
      rw [UInt32.le_iff_toNat_le, hnum]
      rfl
    have hmine : ∀ d : OpDevice, t.held = d.seqPending ↔ last.number = d.seqPending.toNat :=
      fun d => by rw [← hnum, UInt32.toNat_inj]
    have hmatch : ∀ d : OpDevice, d.cmdWaiting = true → d.seqPending ≠ 0 →
        (accepts d (f.reply (keptTokens (ts ++ [last]))) = true ↔
          ((f.reply (keptTokens (ts ++ [last]))).kind = .init → InitWaits d) ∧
            (last.number = d.seqPending.toNat ∨
              ((f.reply (keptTokens (ts ++ [last]))).kind = .init ∧ f.raw = [] ∧
                last.number ≤ 255))) := fun d hw hs => by
      rw [accepts_echoed hw hs (f.reply_kind _) hu, f.reply_bytes, hbyte, hmine]
    refine ⟨⟨t.held, hu, hnum⟩, hmatch, ?_⟩
    intro d ch _ hw hs hbig hne
    refine Bool.eq_false_iff.mpr ?_
    intro ha
    rcases ((hmatch d hw hs).mp ha).2 with h | h
    · exact hne h
    · omega

/-- Two key bytes and the number. -/
theorem lastToken_exact_two : LastTokenRules (.fiveBaud (.ofNat 3)) (.ofNat 300)
    (opParse (tokenLine (.fiveBaud (.ofNat 3)) ([.ofNat 0x55, .ofNat 0xEF] ++ [.ofNat 300]) ++
      [])).2 := by
  refine (lastToken_exact (f := .fiveBaud (.ofNat 3)) trivial [.ofNat 0x55, .ofNat 0xEF]
    (.ofNat 300) []).mpr ⟨.ofNat 300, rfl, ?_⟩
  have hn : (Token.ofNat 300).number = 300 := Digits.ofNat_number 300
  rw [hn]
  rfl

/-- Eight key bytes, and the number of the command before. -/
def kLongTail : List Token :=
  [.ofNat 1, .ofNat 2, .ofNat 3, .ofNat 4, .ofNat 5, .ofNat 6, .ofNat 7, .ofNat 8]

/-- An `atw` numbered 300 waits. -/
def kAtwWaiting : OpDevice :=
  { opened := true, cmdWaiting := true, seqPending := 300, cmdVerb := 0x77 }

/-- **The number behind eight tokens is dropped**: the reply to the command numbered 299 is
    accepted as the key bytes of the one numbered 300. -/
theorem lastToken_dropped :
    ¬LastTokenRules (.fiveBaud (.ofNat 3)) (.ofNat 299)
      (opParse (tokenLine (.fiveBaud (.ofNat 3)) (kLongTail ++ [.ofNat 299]) ++ [])).2 ∧
    accepts kAtwWaiting
      (opParse (tokenLine (.fiveBaud (.ofNat 3)) (kLongTail ++ [.ofNat 299]) ++ [])).2 = true ∧
    (stashReply kAtwWaiting
      (opParse (tokenLine (.fiveBaud (.ofNat 3)) (kLongTail ++ [.ofNat 299]) ++ [])).2).reply.data =
      some [1, 2, 3, 4, 5, 6, 7, 8] := by
  refine ⟨?_, by decide, by decide⟩
  intro h
  obtain ⟨u, hu, hn⟩ := h.reported
  have he : (opParse (tokenLine (.fiveBaud (.ofNat 3)) (kLongTail ++ [.ofNat 299]) ++
      [])).2.echoed = some 8 := by decide
  rw [he] at hu
  rw [← Option.some.inj hu, show (Token.ofNat 299).number = 299 from Digits.ofNat_number 299] at hn
  exact absurd hn (by decide)

end Openport
