/-
  File:      Openport/Proto/Splitter.lean
  Subject:   How the device side takes the command stream apart: `serve`,
             `_declared_payload` and `_split_ch` of `tests/sim/openport_sim.py`,
             and that they read back what the encoders printed.

  `serve` goes byte by byte, so how the stream was cut into writes and reads does
  not matter to it. What is not ASCII, a sign other than one minus, blanks other
  than the space, and a length below 0 are left out: no encoder prints them.
-/
import Openport.Proto.Command

namespace Openport

open Lib.Decimal

/-! ## 1. Reading a line -/

/-- `s.strip().split()`. -/
def splitArgs (s : Bytes) : List Bytes := (s.splitOn 0x20).filter (· ≠ [])

/-- `_split_ch`: the channel fused to the verb, and the arguments. -/
def splitCh (rest : Bytes) : Option Nat × List Bytes :=
  let digits := rest.takeWhile isDigit
  (if digits = [] then none else some (value digits), splitArgs (rest.dropWhile isDigit))

/-- `int(s)` of a run of digits. -/
def readNat (s : Bytes) : Option Nat := if s ≠ [] ∧ s.all isDigit then some (value s) else none

/-- `int(s)`, `none` for a `ValueError`. -/
def readInt (s : Bytes) : Option Int :=
  match s with
  | 0x2d :: ds => (readNat ds).map fun n => -(n : Int)
  | ds => (readNat ds).map fun n => (n : Int)

/-- A line as the command it is, `none` where it is none. -/
def parseCommand (line : Bytes) : Option Command :=
  match line with
  | 0x61 :: 0x74 :: verb :: rest =>
    let r := splitCh rest
    (r.2.mapM readInt).map fun args => { verb := verb, channel := r.1, args := args }
  | _ => none

/-- How many messages a filter of this type appends. -/
def filterParts (type : Int) : Int := if type = 1 ∨ type = 2 then 2 else if type = 3 then 3 else 0

/-- `_declared_payload`: how many bytes follow a line, none where an argument is missing or no
    number. -/
def declaredPayload (line : Bytes) : Nat :=
  match skipSpaces line with
  | 0x61 :: 0x74 :: verb :: rest =>
    let args := (splitCh rest).2
    let len : Option Int :=
      if verb = 0x74 ∨ verb = 0x79 ∨ verb = 0x70 then readInt (args.getD 0 [])
      else if verb = 0x6d then readInt (args.getD 3 [])
      else if verb = 0x66 then
        (readInt (args.getD 0 [])).bind fun type =>
          (readInt (args.getD 2 [])).map fun each => filterParts type * each
      else some 0
    (len.getD 0).toNat
  | _ => 0

/-! ## 2. The stream -/

/-- A command as the device handles it. -/
structure Heard where
  line : Bytes
  payload : Bytes
  deriving DecidableEq, Repr

/-- The variables of `serve`, and what it has handled so far. -/
structure Splitter where
  line : Bytes := []
  pend : Bytes := []
  want : Nat := 0
  handled : List Heard := []
  deriving DecidableEq, Repr

/-- One byte in `serve`. -/
def serveByte (s : Splitter) (b : UInt8) : Splitter :=
  if s.want ≠ 0 then
    let pend := s.pend ++ [b]
    if s.want - 1 = 0 then { handled := s.handled ++ [⟨s.line, pend⟩] }
    else { s with pend := pend, want := s.want - 1 }
  else if b = 0x0a then
    let want := declaredPayload s.line
    if want = 0 then { s with handled := s.handled ++ [⟨s.line, []⟩], line := [] }
    else { s with pend := [], want := want }
  else if b ≠ 0x0d then { s with line := s.line ++ [b] }
  else s

/-- `serve`, from where it stands on. -/
def serve (s : Splitter) (data : Bytes) : Splitter := data.foldl serveByte s

/-! ## 3. What a printed number reads as -/

theorem readNat_decimal (n : Nat) : readNat (decimal n) = some n := by
  unfold readNat
  rw [if_pos ⟨decimal_ne_nil n, List.all_eq_true.mpr (decimal_isDigit n)⟩, value_decimal]

/-- No numeral begins with a minus. -/
theorem decimal_head {n : Nat} {ds : Bytes} (h : decimal n = 0x2d :: ds) : False := by
  have := decimal_isDigit n 0x2d (by rw [h]; exact List.mem_cons_self)
  cases this

theorem readInt_printInt (v : Int) : readInt (printInt v) = some v := by
  cases v with
  | ofNat n =>
      show readInt (decimal n) = some (Int.ofNat n)
      unfold readInt
      split
      · rename_i ds e
        exact (decimal_head e).elim
      · rw [readNat_decimal]
        rfl
  | negSucc n =>
      show readInt (0x2d :: decimal (n + 1)) = some (Int.negSucc n)
      unfold readInt
      simp only [readNat_decimal]
      rfl

/-- A byte of a printed number is a digit or a minus. -/
theorem printInt_byte {v : Int} {c : UInt8} (h : c ∈ printInt v) : isDigit c = true ∨ c = 0x2d := by
  cases v with
  | ofNat n => exact Or.inl (decimal_isDigit n c h)
  | negSucc n =>
      rcases List.mem_cons.mp h with e | h
      · exact Or.inr e
      · exact Or.inl (decimal_isDigit _ c h)

theorem printInt_ne_nil (v : Int) : printInt v ≠ [] := by
  cases v with
  | ofNat n => exact decimal_ne_nil n
  | negSucc n => exact List.cons_ne_nil _ _

/-- Printable ASCII. -/
def isPrintable (c : UInt8) : Bool := decide (0x20 ≤ c.toNat ∧ c.toNat < 0x7f)

theorem isPrintable_of_digit {c : UInt8} (h : isDigit c = true) : isPrintable c = true := by
  have := (isDigit_iff c).mp h
  exact decide_eq_true (by omega)

theorem printInt_no_space (v : Int) : (0x20 : UInt8) ∉ printInt v := by
  intro h
  rcases printInt_byte h with e | e <;> cases e

/-! ## 4. What a printed line reads as -/

/-- The arguments print as their numerals between single spaces. -/
theorem splitOn_printArgs (pre : Bytes) (hpre : (0x20 : UInt8) ∉ pre) : ∀ args : List Int,
    (pre ++ printArgs args).splitOn 0x20 = pre :: args.map printInt
  | [] => by
      rw [printArgs, List.append_nil]
      exact List.splitOn_eq_singleton hpre
  | v :: vs => by
      rw [printArgs, List.splitOn_append_cons_self_of_not_mem hpre,
        splitOn_printArgs (printInt v) (printInt_no_space v) vs]
      rfl

theorem splitArgs_printArgs (args : List Int) : splitArgs (printArgs args) = args.map printInt := by
  unfold splitArgs
  have h := splitOn_printArgs [] (List.not_mem_nil) args
  rw [List.nil_append] at h
  rw [h, List.filter_cons_of_neg (by simp)]
  refine List.filter_eq_self.mpr ?_
  intro s hs
  obtain ⟨v, -, rfl⟩ := List.mem_map.mp hs
  exact decide_eq_true (printInt_ne_nil v)

/-- What follows the channel begins with a space, or is nothing. -/
theorem printArgs_head (args : List Int) :
    (printArgs args).takeWhile isDigit = [] ∧ (printArgs args).dropWhile isDigit =
      printArgs args := by
  cases args with
  | nil => exact ⟨rfl, rfl⟩
  | cons v vs => exact ⟨rfl, rfl⟩

theorem splitCh_print (channel : Option Nat) (args : List Int) :
    splitCh (printChannel channel ++ printArgs args) = (channel, args.map printInt) := by
  obtain ⟨h1, h2⟩ := printArgs_head args
  unfold splitCh
  cases channel with
  | none =>
      show (if (printArgs args).takeWhile isDigit = [] then none else _,
        splitArgs ((printArgs args).dropWhile isDigit)) = _
      rw [h1, h2, splitArgs_printArgs]
      rfl
  | some ch =>
      have hd := decimal_isDigit ch
      show (if (decimal ch ++ printArgs args).takeWhile isDigit = [] then none
          else some (value ((decimal ch ++ printArgs args).takeWhile isDigit)),
        splitArgs ((decimal ch ++ printArgs args).dropWhile isDigit)) = _
      rw [List.takeWhile_append_of_pos hd, List.dropWhile_append_of_pos hd, h1, h2,
        List.append_nil, splitArgs_printArgs, if_neg (decimal_ne_nil ch), value_decimal]

theorem mapM_readInt (args : List Int) : (args.map printInt).mapM readInt = some args := by
  induction args with
  | nil => rfl
  | cons v vs ih =>
      rw [List.map_cons, List.mapM_cons, readInt_printInt, ih]
      rfl

/-- **A printed line reads back as the command it was printed from.** -/
theorem parseCommand_text (c : Command) : parseCommand c.text = some c := by
  show ((splitCh (printChannel c.channel ++ printArgs c.args)).2.mapM readInt).map _ = _
  rw [splitCh_print, mapM_readInt]
  rfl

/-- The bytes a command says follow its line. -/
def Command.declares (c : Command) : Nat :=
  if c.verb = 0x74 ∨ c.verb = 0x79 ∨ c.verb = 0x70 then (c.args.getD 0 0).toNat
  else if c.verb = 0x6d then (c.args.getD 3 0).toNat
  else if c.verb = 0x66 then (filterParts (c.args.getD 0 0) * c.args.getD 2 0).toNat
  else 0

/-- An argument is read as it was printed; a missing one reads as none. -/
theorem readInt_getD (args : List Int) (i : Nat) :
    (readInt ((args.map printInt).getD i [])).getD 0 = args.getD i 0 := by
  rw [List.getD_eq_getElem?_getD, List.getD_eq_getElem?_getD, List.getElem?_map]
  cases args[i]? with
  | none => rfl
  | some v => exact congrArg (·.getD 0) (readInt_printInt v)

theorem declaredPayload_text (c : Command) : declaredPayload c.text = c.declares := by
  have hskip : skipSpaces c.text = c.text := rfl
  unfold declaredPayload Command.declares
  rw [hskip]
  simp only [Command.text, splitCh_print]
  split
  · rw [readInt_getD]
  split
  · rw [readInt_getD]
  split
  · rw [← readInt_getD c.args 0, ← readInt_getD c.args 2]
    cases readInt ((c.args.map printInt).getD 0 []) with
    | none => 
        simp [filterParts]
    | some type =>
        cases readInt ((c.args.map printInt).getD 2 []) with
        | none => simp
        | some each => rfl
  · rfl

/-! ## 5. A command on the stream -/

theorem printArgs_byte {args : List Int} {c : UInt8} (h : c ∈ printArgs args) :
    isPrintable c = true := by
  induction args with
  | nil => cases h
  | cons v vs ih =>
      rcases List.mem_cons.mp h with e | h
      · rw [e]
        decide
      rcases List.mem_append.mp h with h | h
      · rcases printInt_byte h with e | e
        · exact isPrintable_of_digit e
        · rw [e]
          decide
      · exact ih h

/-- Every byte of a line before its CR LF is printable, if the verb is. -/
theorem Command.text_byte {c : Command} (hv : isPrintable c.verb = true) {b : UInt8}
    (h : b ∈ c.text) : isPrintable b = true := by
  rcases List.mem_cons.mp h with e | h
  · rw [e]
    decide
  rcases List.mem_cons.mp h with e | h
  · rw [e]
    decide
  rcases List.mem_cons.mp h with e | h
  · rw [e]
    exact hv
  rcases List.mem_append.mp h with h | h
  · cases hc : c.channel with
    | none =>
        rw [hc] at h
        cases h
    | some ch =>
        rw [hc] at h
        exact isPrintable_of_digit (decimal_isDigit ch b h)
  · exact printArgs_byte h

/-- Bytes of a line are collected. -/
theorem serve_line {s : Splitter} (hw : s.want = 0) :
    ∀ bs : Bytes, (∀ b ∈ bs, isPrintable b = true) → serve s bs =
      { s with line := s.line ++ bs } := by
  intro bs
  induction bs generalizing s with
  | nil =>
      intro _
      show s = { s with line := s.line ++ [] }
      rw [List.append_nil]
  | cons b bs ih =>
      intro h
      have hb := h b List.mem_cons_self
      have h1 : b ≠ 0x0a := by
        rintro rfl
        cases hb
      have h2 : b ≠ 0x0d := by
        rintro rfl
        cases hb
      have hstep : serveByte s b = { s with line := s.line ++ [b] } := by
        unfold serveByte
        rw [if_neg (not_not_intro hw), if_neg h1, if_pos h2]
      show serve (serveByte s b) bs = _
      rw [hstep, ih (s := { s with line := s.line ++ [b] }) hw fun c hc => h c
        (List.mem_cons_of_mem _ hc)]
      simp only [List.append_assoc, List.singleton_append]

/-- Bytes of a payload are collected until the last. -/
theorem serve_payload (line : Bytes) (handled : List Heard) :
    ∀ (bs : Bytes) (pend : Bytes), bs ≠ [] →
    serve { line := line, pend := pend, want := bs.length, handled := handled } bs =
      { handled := handled ++ [⟨line, pend ++ bs⟩] }
  | [], _, h => absurd rfl h
  | [b], pend, _ => rfl
  | b :: c :: bs, pend, _ => by
      have ih := serve_payload line handled (c :: bs) (pend ++ [b]) (List.cons_ne_nil _ _)
      rw [List.append_assoc, List.singleton_append] at ih
      exact ih

/-- **A command and the payload it declares go through the splitter as one command**, and leave it
    where the next line begins. -/
theorem serve_command {c : Command} (hv : isPrintable c.verb = true) {payload : Bytes}
    (hp : payload.length = c.declares) (handled : List Heard) :
    serve { handled := handled } (c.line ++ payload) =
      { handled := handled ++ [⟨c.text, payload⟩] } := by
  have hsplit : c.line ++ payload = c.text ++ (0x0d :: 0x0a :: payload) := by
    unfold Command.line
    rw [List.append_assoc]
    rfl
  have hline : serve { handled := handled } c.text = { line := c.text, handled := handled } :=
    serve_line rfl c.text fun b hb => Command.text_byte hv hb
  unfold serve at hline ⊢
  rw [hsplit, List.foldl_append, hline]
  by_cases h0 : payload = []
  · subst h0
    have hd : declaredPayload c.text = 0 := by
      rw [declaredPayload_text, ← hp]
      rfl
    show serveByte { line := c.text, handled := handled } 0x0a = _
    unfold serveByte
    simp [hd]
  · have hlen : declaredPayload c.text = payload.length := by rw [declaredPayload_text, hp]
    have hne : payload.length ≠ 0 := fun e => h0 (List.length_eq_zero_iff.mp e)
    have hlf : serveByte { line := c.text, handled := handled } 0x0a =
        { line := c.text, want := payload.length, handled := handled } := by
      unfold serveByte
      simp [hlen, hne]
    show List.foldl serveByte (serveByte { line := c.text, handled := handled } 0x0a) payload = _
    rw [hlf]
    exact serve_payload c.text handled payload [] h0

/-- A transmit with a payload that looks like a command, and a plain command behind it. -/
example : (serve {} ((Command.line { verb := 0x74, channel := some 5, args := [6, 0, 0, 300] }) ++
      [0x0d, 0x0a, 0x61, 0x74, 0x7a, 0x0a] ++
        Command.line { verb := 0x7a, args := [301] })).handled =
    [⟨[0x61, 0x74, 0x74, 0x35, 0x20, 0x36, 0x20, 0x30, 0x20, 0x30, 0x20, 0x33, 0x30, 0x30],
      [0x0d, 0x0a, 0x61, 0x74, 0x7a, 0x0a]⟩, ⟨[0x61, 0x74, 0x7a, 0x20, 0x33, 0x30, 0x31], []⟩] := by
  decide

/-! ## 6. A numbered command -/

/-- The command with its number behind its arguments. -/
def Command.numbered (c : Command) (seq : UInt32) : Command :=
  { c with args := c.args ++ [(seq.toNat : Int)] }

/-- A command as it goes out: `ati` takes no number. -/
def Command.issued (c : Command) (seq : UInt32) : Command :=
  if c.verb = 0x69 then c else c.numbered seq

@[simp] theorem Command.issued_verb (c : Command) (seq : UInt32) :
    (c.issued seq).verb = c.verb := by
  unfold Command.issued
  split <;> rfl

theorem printArgs_append (vs ws : List Int) : printArgs (vs ++ ws) = printArgs vs ++
    printArgs ws := by
  induction vs with
  | nil => rfl
  | cons v vs ih =>
      show 0x20 :: (printInt v ++ printArgs (vs ++ ws)) = _
      rw [ih, ← List.append_assoc]
      rfl

theorem Command.numbered_text (c : Command) (seq : UInt32) :
    (c.numbered seq).text = c.text ++ (0x20 :: decimal seq.toNat) := by
  have h : printArgs [(seq.toNat : Int)] = 0x20 :: decimal seq.toNat := by
    show 0x20 :: (decimal seq.toNat ++ []) = _
    rw [List.append_nil]
  show 0x61 :: 0x74 :: c.verb ::
    (printChannel c.channel ++ printArgs (c.args ++ [(seq.toNat : Int)])) = _
  rw [printArgs_append, h, ← List.append_assoc]
  rfl

/-- **`op_cmd_number` puts the number behind the last argument**, where it fits. -/
theorem opCmdNumber_line (c : Command) {outSz : Nat} {seq : UInt32}
    (h : opCmdNumber c.line outSz seq ≠ []) :
    opCmdNumber c.line outSz seq = (c.numbered seq).line := by
  have hlen : c.line.length - 2 = c.text.length := by
    unfold Command.line
    rw [List.length_append]
    exact Nat.add_sub_cancel _ _
  have htake : c.line.take (c.line.length - 2) = c.text := by
    rw [hlen]
    exact List.take_left
  unfold opCmdNumber at h ⊢
  simp only at h ⊢
  split at h
  · exact absurd rfl h
  · rename_i hfit
    rw [if_neg hfit, htake]
    unfold Command.line
    rw [Command.numbered_text]

end Openport
