/-
  File:      Openport/Lib/Text.lean
  Subject:   Text records: words with one space between them, numbers and
             hexadecimal bytes, and lines read through a bounded buffer.

  A library file: nothing here knows a particular program. The readers are those a
  program written in C would use (`strtok_r`, `strtoul`, `sscanf`, `fgets`); for
  each there is one lemma that says what it makes of what a printer wrote.
-/
import Openport.Lib.Decimal

namespace Lib.Text

open Lib.Decimal

/-! ## 1. Words -/

/-- Line feed. -/
def lf : UInt8 := 0x0a

/-- The next word and what is behind the separator that ends it: `strtok_r`. -/
def next (sep : UInt8 → Bool) (s : List UInt8) : Option (List UInt8 × List UInt8) :=
  let s := s.dropWhile sep
  if s = [] then none
  else some (s.takeWhile fun c => !sep c, (s.dropWhile fun c => !sep c).drop 1)

section Next

variable {sep : UInt8 → Bool} {w rest : List UInt8}

end Next

section Joined

variable {w : List UInt8} {ws : List (List UInt8)} {e : List UInt8}

end Joined

/-! ## 2. Numbers -/

/-- White space as `isspace` has it. -/
def isWhite (c : UInt8) : Bool := c == 0x20 || (0x09 ≤ c && c ≤ 0x0d)

/-- The number a run of digits denotes, held at `max` or wrapped around by a minus sign, and what
    is behind the run. -/
def digitRun (max : Nat) (neg : Bool) (s : List UInt8) : Option (Nat × List UInt8) :=
  let v := value (s.takeWhile isDigit)
  if s.takeWhile isDigit = [] then none
  else some (if max < v then max else if neg then (max + 1 - v) % (max + 1) else v,
    s.dropWhile isDigit)

/-- The number a text begins with, behind white space and a sign: `strtoul` in base 10, and
    `%lu`. -/
def number (max : Nat) (s : List UInt8) : Option (Nat × List UInt8) :=
  let s := s.dropWhile isWhite
  if s.head? = some 0x2d then digitRun max true (s.drop 1)
  else if s.head? = some 0x2b then digitRun max false (s.drop 1)
  else digitRun max false s

/-- At most `n` numbers with white space between them: `sscanf` with `n` conversions `%lu`. -/
def numbers (max : Nat) : Nat → List UInt8 → List Nat
  | 0, _ => []
  | n + 1, s =>
    match number max s with
    | none => []
    | some (v, s) => v :: numbers max n s

/-- A lower-case hexadecimal digit. -/
def hexDigit (d : Nat) : UInt8 := UInt8.ofNat (if d < 10 then 48 + d else 87 + d)

/-- `%02x`. -/
def hexByte (b : UInt8) : List UInt8 := [hexDigit (b.toNat / 16), hexDigit (b.toNat % 16)]

/-- A file as reads of at most `cap` bytes that end behind a line feed: `fgets` until the end.
    `acc` is what the read under way has so far. -/
def reads (cap : Nat) : List UInt8 → List UInt8 → List (List UInt8)
  | acc, [] => if acc = [] then [] else [acc]
  | acc, c :: s =>
    if c = lf ∨ acc.length + 1 = cap then (acc ++ [c]) :: reads cap [] s
    else reads cap (acc ++ [c]) s

end Lib.Text
