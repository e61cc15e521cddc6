/-
  File:      Openport/Proto/Tokens.lean
  Subject:   Reply lines with any number of trailing tokens: what `op_parse` keeps
             of them.

  A `Token` is one or more spaces and a run of decimal digits of any length; a
  `Fixed` is what stands before the tokens of `aro`, `are`, `arr`, `arf`, `arg`,
  `arm`, `ary` or `arw`. `op_parse` holds every token at 2^32 - 1 and keeps the
  first eight (`opParse_tokenLine`).
-/
import Openport.Proto.Record

namespace Openport

open Lib.Decimal

/-! ## 1. Digits and tokens -/

/-- A run of decimal digits, leading zeros and any length allowed. -/
structure Digits where
  bytes : Bytes
  some_digit : bytes ≠ []
  digits : ∀ c ∈ bytes, isDigit c = true

/-- The number a run of digits writes. -/
def Digits.number (ds : Digits) : Nat := value ds.bytes

/-- What `parse_u32` makes of it: the number, held at 2^32 - 1. -/
def Digits.held (ds : Digits) : UInt32 := UInt32.ofNat (min ds.number 0xFFFFFFFF)

/-- A token of a line: the spaces before it, at least one, and its digits. -/
structure Token where
  more : Nat
  run : Digits

def Token.bytes (t : Token) : Bytes := List.replicate (t.more + 1) 0x20 ++ t.run.bytes

def Token.number (t : Token) : Nat := t.run.number

def Token.held (t : Token) : UInt32 := t.run.held

/-- The tokens of a line, one behind the other. -/
def tokenBytes : List Token → Bytes
  | [] => []
  | t :: ts => t.bytes ++ tokenBytes ts

/-- The numeral of a number, as the device prints it. -/
def Digits.ofNat (n : Nat) : Digits := ⟨decimal n, decimal_ne_nil n, decimal_isDigit n⟩

/-- A token as the device prints it, after one space. -/
def Token.ofNat (n : Nat) : Token := ⟨0, Digits.ofNat n⟩

theorem Digits.ofNat_number (n : Nat) : (Digits.ofNat n).number = n := value_decimal n

theorem Digits.held_toNat (ds : Digits) : ds.held.toNat = min ds.number 0xFFFFFFFF := by
  unfold Digits.held
  rw [UInt32.toNat_ofNat']
  omega

/-- **`parse_u32` reads a run of digits, held at 2^32 - 1.** -/
theorem parseU32_digits (ds : Digits) {rest : Bytes} (hr : NoDigit rest) :
    parseU32 (ds.bytes ++ rest) = some (ds.held, rest) := by
  have hrun := parseU32Loop_run ds.bytes rest 0 ds.digits hr
  have hsat : satValue 0xFFFFFFFF 0 ds.bytes = min ds.number 0xFFFFFFFF := by
    have e := satValue_eq 0xFFFFFFFF ds.bytes 0
    rwa [Nat.zero_min] at e
  rw [hsat] at hrun
  cases hd : ds.bytes with
  | nil => exact absurd hd ds.some_digit
  | cons c cs =>
      have hc : isDigit c = true := ds.digits c (by rw [hd]; exact List.mem_cons_self)
      rw [hd] at hrun
      show parseU32 (c :: (cs ++ rest)) = _
      unfold parseU32
      simp only [hc, if_true]
      rw [show c :: (cs ++ rest) = c :: cs ++ rest from rfl, hrun]
      rfl

theorem Digits.head_ne_space (ds : Digits) (rest : Bytes) :
    (ds.bytes ++ rest).head? ≠ some 0x20 := by
  cases hd : ds.bytes with
  | nil => exact absurd hd ds.some_digit
  | cons c cs =>
      have hc : isDigit c = true := ds.digits c (by rw [hd]; exact List.mem_cons_self)
      intro e
      rw [Option.some.inj e] at hc
      exact absurd hc (by decide)

theorem noDigit_tokenBytes (ts : List Token) : NoDigit (tokenBytes ts) := by
  cases ts with
  | nil => exact noDigit_nil
  | cons t ts =>
      show NoDigit (0x20 :: (List.replicate t.more 0x20 ++ t.run.bytes) ++ tokenBytes ts)
      exact noDigit_cons (by decide)

/-- A token is read off the line, and the next one follows. -/
theorem parseU32_token (t : Token) (ts : List Token) :
    parseU32 (skipSpaces (tokenBytes (t :: ts))) = some (t.held, tokenBytes ts) := by
  have hskip : skipSpaces (tokenBytes (t :: ts)) = t.run.bytes ++ tokenBytes ts := by
    show skipSpaces (List.replicate (t.more + 1) 0x20 ++ t.run.bytes ++ tokenBytes ts) = _
    rw [List.append_assoc]
    exact skipSpaces_replicate _ (t.run.head_ne_space _)
  rw [hskip]
  exact parseU32_digits t.run (noDigit_tokenBytes ts)

/-- The tokens `parse_tail` keeps: the first eight, each held at 2^32 - 1. -/
def keptTokens (ts : List Token) : List UInt32 := (ts.map Token.held).take tailMax

theorem tokenBytes_length_le (ts : List Token) : ts.length ≤ (tokenBytes ts).length := by
  induction ts with
  | nil => exact Nat.le_refl 0
  | cons t ts ih =>
      have hone : 1 ≤ t.bytes.length := by
        unfold Token.bytes
        rw [List.length_append, List.length_replicate]
        omega
      show ts.length + 1 ≤ (t.bytes ++ tokenBytes ts).length
      rw [List.length_append]
      omega

theorem parseTailLoop_tokens (ts : List Token) (fuel : Nat) (acc : List UInt32)
    (hf : ts.length ≤ fuel) (ha : acc.length ≤ tailMax) :
    parseTailLoop fuel (tokenBytes ts) acc = (acc ++ ts.map Token.held).take tailMax := by
  induction ts generalizing fuel acc with
  | nil =>
      have hacc : (acc ++ ([] : List Token).map Token.held).take tailMax = acc := by
        rw [List.map_nil, List.append_nil, List.take_of_length_le ha]
      rw [hacc]
      cases fuel with
      | zero => rfl
      | succ fuel => rfl
  | cons t ts ih =>
      obtain ⟨f, rfl⟩ : ∃ f, fuel = f + 1 := ⟨fuel - 1, by simp at hf; omega⟩
      unfold parseTailLoop
      rw [parseU32_token]
      have hf' : ts.length ≤ f := Nat.le_of_succ_le_succ hf
      by_cases hlt : acc.length < tailMax
      · simp only [hlt, if_true]
        rw [ih f _ hf' (by rw [List.length_append, List.length_singleton]; omega)]
        rw [List.append_assoc]
        rfl
      · -- the eight slots are taken: the token is read and dropped
        have hfull : acc.length = tailMax := by omega
        simp only [hlt, if_false]
        rw [ih f acc hf' ha, List.take_left' hfull, List.take_left' hfull]

/-- **`parse_tail` keeps the first eight tokens.** -/
theorem parseTail_tokens (ts : List Token) : parseTail (tokenBytes ts) = keptTokens ts := by
  unfold parseTail
  rw [parseTailLoop_tokens ts _ [] (tokenBytes_length_le ts) (Nat.zero_le _)]
  rfl

/-! ## 2. Lines -/

/-- The fixed fields of a reply that may carry tokens, and the raw bytes after its line. -/
inductive Fixed where
  | ok
  | error (code : Token)
  | pin (pin mv : Token)
  | filter (channel : Digits) (id : Token)
  | config (channel : Digits) (param value : Token)
  | periodic (channel : Digits) (id : Token)
  | fastInit (channel : Digits) (count : Token) (raw : Bytes)
  | fiveBaud (channel : Digits)

/-- The verb letter and the fixed fields on the line. -/
def Fixed.head : Fixed → Bytes
  | .ok => [0x6f]
  | .error code => 0x65 :: code.bytes
  | .pin p mv => 0x72 :: (p.bytes ++ mv.bytes)
  | .filter ch id => 0x66 :: (ch.bytes ++ id.bytes)
  | .config ch param value => 0x67 :: (ch.bytes ++ (param.bytes ++ value.bytes))
  | .periodic ch id => 0x6d :: (ch.bytes ++ id.bytes)
  | .fastInit ch count _ => 0x79 :: (ch.bytes ++ count.bytes)
  | .fiveBaud ch => 0x77 :: ch.bytes

/-- The raw bytes behind the line. -/
def Fixed.raw : Fixed → Bytes
  | .fastInit _ _ raw => raw
  | _ => []

/-- The count of an `ary` is the number of its raw bytes, at most 255. -/
def Fixed.Valid : Fixed → Prop
  | .fastInit _ count raw => count.number = raw.length ∧ raw.length ≤ 255
  | _ => True

/-- The reply's line with its tokens, and the raw bytes behind it. -/
def tokenLine (f : Fixed) (ts : List Token) : Bytes :=
  0x61 :: 0x72 :: (f.head ++ tokenBytes ts ++ 0x0d :: 0x0a :: f.raw)

/-- What `op_parse` reports of the fixed fields, with the tokens it keeps. -/
def Fixed.reply (f : Fixed) (tail : List UInt32) : OpReply :=
  match f with
  | .ok => { kind := .ok, tail := tail }
  | .error code =>
    { kind := .error, errorCode := code.held, tail := tail,
      hasDetail := decide (1 ≤ tail.length), detail := tail.headD 0 }
  | .pin p mv => { kind := .pin, a := p.held, b := mv.held, tail := tail }
  | .filter ch id => { kind := .filter, channel := ch.held.toNat, a := id.held, tail := tail }
  | .config ch param value =>
    { kind := .config, channel := ch.held.toNat, a := param.held, b := value.held, tail := tail }
  | .periodic ch id => { kind := .periodic, channel := ch.held.toNat, a := id.held, tail := tail }
  | .fastInit ch count raw =>
    { kind := .init, channel := ch.held.toNat, a := count.held, tail := tail, data := some raw }
  | .fiveBaud ch => { kind := .init, channel := ch.held.toNat, tail := tail }

theorem Token.bytes_append (t : Token) (ts : List Token) :
    t.bytes ++ tokenBytes ts = tokenBytes (t :: ts) := rfl

/-- **`parse_ascii` of a line**: the fixed fields, and the first eight tokens. -/
theorem parseAscii_tokenLine {f : Fixed} (hf : f.Valid) (ts : List Token) :
    parseAscii (f.head ++ tokenBytes ts) = { f.reply (keptTokens ts) with data := none } := by
  have channel : ∀ (ch : Digits) (us : List Token),
      parseU32 (ch.bytes ++ tokenBytes us) = some (ch.held, tokenBytes us) :=
    fun ch us => parseU32_digits ch (noDigit_tokenBytes us)
  cases f with
  | ok => simp [Fixed.head, parseAscii, Fixed.reply, parseTail_tokens]
  | error code =>
      simp [Fixed.head, parseAscii, Fixed.reply, Token.bytes_append, parseU32_token,
        parseTail_tokens]
  | pin p mv =>
      simp [Fixed.head, parseAscii, Fixed.reply, Token.bytes_append, parseU32_token,
        parseTail_tokens]
  | filter ch id =>
      simp [Fixed.head, parseAscii, Fixed.reply, Token.bytes_append, channel, parseU32_token,
        parseTail_tokens]
  | config ch param value =>
      simp [Fixed.head, parseAscii, Fixed.reply, Token.bytes_append, channel, parseU32_token,
        parseTail_tokens]
  | periodic ch id =>
      simp [Fixed.head, parseAscii, Fixed.reply, Token.bytes_append, channel, parseU32_token,
        parseTail_tokens]
  | fastInit ch count raw =>
      have hcount : ¬255 < count.held := by
        obtain ⟨hn, hl⟩ := hf
        have hheld : count.held.toNat = min count.number 0xFFFFFFFF := count.run.held_toNat
        rw [UInt32.lt_iff_toNat_lt, hheld, hn]
        simp only [UInt32.reduceToNat]
        omega
      simp [Fixed.head, parseAscii, Fixed.reply, Token.bytes_append, channel, parseU32_token,
        parseTail_tokens, hcount]
  | fiveBaud ch =>
      simp [Fixed.head, parseAscii, Fixed.reply, channel, parseTail_tokens]

/-! ## 3. `op_parse` of a line -/

/-- No byte of a text is a carriage return. -/
def NoCr (s : Bytes) : Prop := ∀ c ∈ s, c ≠ 0x0d

theorem noCr_cons {c : UInt8} {s : Bytes} (hc : c ≠ 0x0d) (h : NoCr s) : NoCr (c :: s) :=
  List.forall_mem_cons.mpr ⟨hc, h⟩

theorem noCr_append {s t : Bytes} (hs : NoCr s) (ht : NoCr t) : NoCr (s ++ t) := by
  intro c hc
  rcases List.mem_append.mp hc with h | h
  · exact hs c h
  · exact ht c h

theorem Digits.noCr (ds : Digits) : NoCr ds.bytes := by
  rintro c hc rfl
  exact absurd (ds.digits _ hc) (by decide)

theorem Token.noCr (t : Token) : NoCr t.bytes := by
  refine noCr_append (?_) t.run.noCr
  intro c hc
  rw [List.eq_of_mem_replicate hc]
  decide

theorem tokenBytes_noCr (ts : List Token) : NoCr (tokenBytes ts) := by
  induction ts with
  | nil => exact fun c hc => absurd hc List.not_mem_nil
  | cons t ts ih => exact noCr_append t.noCr ih

theorem Fixed.head_noCr (f : Fixed) : NoCr f.head := by
  cases f with
  | ok => exact noCr_cons (by decide) fun c hc => absurd hc List.not_mem_nil
  | error code => exact noCr_cons (by decide) code.noCr
  | pin p mv => exact noCr_cons (by decide) (noCr_append p.noCr mv.noCr)
  | filter ch id => exact noCr_cons (by decide) (noCr_append ch.noCr id.noCr)
  | config ch param value =>
      exact noCr_cons (by decide) (noCr_append ch.noCr (noCr_append param.noCr value.noCr))
  | periodic ch id => exact noCr_cons (by decide) (noCr_append ch.noCr id.noCr)
  | fastInit ch count raw => exact noCr_cons (by decide) (noCr_append ch.noCr count.noCr)
  | fiveBaud ch => exact noCr_cons (by decide) ch.noCr

/-- A line begins with its verb, a letter. -/
theorem Fixed.head_verb (f : Fixed) : ∃ verb s, f.head = verb :: s ∧ isDigit verb = false := by
  cases f with
  | ok | error | pin | filter | config | periodic | fastInit | fiveBaud =>
      exact ⟨_, _, rfl, by decide⟩

/-- Only `ary` is an init reply beginning with 'y'. -/
theorem Fixed.reply_raw {f : Fixed} {tail : List UInt32} {line : Bytes}
    (h : ({ f.reply tail with data := none } : OpReply).kind = .init ∧
      (f.head ++ line).head? = some 0x79) : ∃ ch count raw, f = .fastInit ch count raw := by
  cases f with
  | fastInit ch count raw => exact ⟨ch, count, raw, rfl⟩
  | fiveBaud ch => exact absurd h.2 (by simp [Fixed.head])
  | ok | error | pin | filter | config | periodic => cases h.1

/-- **`op_parse` takes the line off any buffer it begins**, with its raw bytes, and reports the
    first eight tokens. -/
theorem opParse_tokenLine {f : Fixed} (hf : f.Valid) (ts : List Token) (rest : Bytes) :
    opParse (tokenLine f ts ++ rest) = ((tokenLine f ts).length, f.reply (keptTokens ts)) := by
  obtain ⟨verb, s, hb, hv⟩ := f.head_verb
  have hp := parseAscii_tokenLine hf ts
  have hc : findCrLf (f.head ++ tokenBytes ts) = none :=
    findCrLf_noCr (noCr_append f.head_noCr (tokenBytes_noCr ts))
  have hne : f.head ++ tokenBytes ts ≠ [] := by
    rw [hb]
    exact List.cons_ne_nil _ _
  have hw : tokenLine f ts ++ rest =
      0x61 :: 0x72 :: (f.head ++ tokenBytes ts ++ 0x0d :: 0x0a :: (f.raw ++ rest)) := by
    unfold tokenLine
    simp
  have hl : (tokenLine f ts).length = (f.head ++ tokenBytes ts).length + 4 + f.raw.length := by
    unfold tokenLine
    simp only [List.length_cons, List.length_append]
    omega
  have hverb : opParse (0x61 :: 0x72 ::
      (f.head ++ tokenBytes ts ++ 0x0d :: 0x0a :: (f.raw ++ rest))) =
      opParseLine (f.head ++ tokenBytes ts ++ 0x0d :: 0x0a :: (f.raw ++ rest)) := by
    rw [hb]
    exact opParse_verb hv
  rw [hw, hverb, hl]
  by_cases hy : ({ f.reply (keptTokens ts) with data := none } : OpReply).kind = .init ∧
      (f.head ++ tokenBytes ts).head? = some 0x79
  · rw [opParseLine_raw hc (by rw [hp]; exact hy) hne, hp]
    obtain ⟨ch, count, raw, rfl⟩ := Fixed.reply_raw hy
    obtain ⟨hn, hlen⟩ := hf
    have hheld : count.held.toNat = raw.length := by
      have h : count.held.toNat = min count.number 0xFFFFFFFF := count.run.held_toNat
      rw [h, hn]
      omega
    have hroom : ¬(raw ++ rest).length < raw.length := by
      rw [List.length_append]
      omega
    simp only [Fixed.reply, Fixed.raw, hheld, hroom, if_false, List.take_left]
  · rw [opParseLine_plain hc (by rw [hp]; exact hy) hne, hp]
    cases f with
    | fastInit ch count raw => exact absurd ⟨rfl, rfl⟩ hy
    | ok | error | pin | filter | config | periodic | fiveBaud => rfl

end Openport
