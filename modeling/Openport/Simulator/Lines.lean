/-
  File:      Openport/Simulator/Lines.lean
  Subject:   How the simulated cable reads a line the driver printed: `handle` finds the
             verb, the channel, the arguments and the number of the command.
-/
import Openport.Proto.Record
import Openport.Simulator.Commands

namespace Openport.Simulator

open Lib Lib.Decimal

/-! ## 1. Blanks -/

theorem decimal_getLast (n : Nat) : ∃ b, (decimal n).getLast? = some b ∧ b ≠ 0x20 := by
  refine ⟨(decimal n).getLast (decimal_ne_nil n), List.getLast?_eq_some_getLast _, ?_⟩
  intro h
  have hd := decimal_isDigit n _ (List.getLast_mem (decimal_ne_nil n))
  rw [h] at hd
  cases hd

theorem printInt_getLast (v : Int) : ∃ b, (printInt v).getLast? = some b ∧ b ≠ 0x20 := by
  cases v with
  | ofNat n => exact decimal_getLast n
  | negSucc n =>
      obtain ⟨b, hb, hne⟩ := decimal_getLast (n + 1)
      refine ⟨b, ?_, hne⟩
      show (0x2d :: decimal (n + 1)).getLast? = some b
      rw [List.getLast?_cons, hb]
      rfl

/-- Arguments end in a numeral. -/
theorem printArgs_getLast : ∀ {args : List Int}, args ≠ [] →
    ∃ b, (printArgs args).getLast? = some b ∧ b ≠ 0x20
  | [], h => absurd rfl h
  | [v], _ => by
      obtain ⟨b, hb, hne⟩ := printInt_getLast v
      refine ⟨b, ?_, hne⟩
      show (0x20 :: (printInt v ++ [])).getLast? = some b
      rw [List.append_nil, List.getLast?_cons, hb]
      rfl
  | v :: w :: vs, _ => by
      obtain ⟨b, hb, hne⟩ := printArgs_getLast (List.cons_ne_nil w vs)
      refine ⟨b, ?_, hne⟩
      show (0x20 :: (printInt v ++ printArgs (w :: vs))).getLast? = some b
      rw [List.getLast?_cons, List.getLast?_append, hb]
      rfl

/-- No line the driver prints ends in a blank. -/
theorem text_getLast {c : Command} (hv : c.verb ≠ 0x20) : c.text.getLast? ≠ some 0x20 := by
  intro h
  have htail : ∃ b, (c.verb :: (printChannel c.channel ++ printArgs c.args)).getLast? = some b ∧
      b ≠ 0x20 := by
    by_cases ha : c.args = []
    · rw [ha]
      cases hc : c.channel with
      | none => exact ⟨c.verb, rfl, hv⟩
      | some ch =>
          obtain ⟨b, hb, hne⟩ := decimal_getLast ch
          refine ⟨b, ?_, hne⟩
          show (c.verb :: (decimal ch ++ [])).getLast? = some b
          rw [List.append_nil, List.getLast?_cons, hb]
          rfl
    · obtain ⟨b, hb, hne⟩ := printArgs_getLast ha
      refine ⟨b, ?_, hne⟩
      rw [List.getLast?_cons, List.getLast?_append, hb]
      rfl
  obtain ⟨b, hb, hne⟩ := htail
  have e : c.text.getLast? = some b := by
    show (0x61 :: 0x74 :: c.verb :: (printChannel c.channel ++ printArgs c.args)).getLast? = _
    rw [List.getLast?_cons, List.getLast?_cons, hb]
    rfl
  rw [e] at h
  exact hne (Option.some.inj h)

/-- **`strip` leaves a line the driver printed as it is.** -/
theorem strip_text {c : Command} (hv : c.verb ≠ 0x20) : strip c.text = c.text := by
  have hfront : skipSpaces c.text = c.text := rfl
  have hback : skipSpaces c.text.reverse = c.text.reverse := by
    refine skipSpaces_noSpace ?_
    rw [List.head?_reverse]
    exact text_getLast hv
  unfold strip
  rw [hfront, hback, List.reverse_reverse]

/-! ## 2. The number of a command -/

/-- The arguments `_trailing_seq` counts end in those of the command. -/
theorem trailing_args (c : Command) : ∃ pre, (if c.verb ∈ channelVerbs then
      (splitCh (printChannel c.channel ++ printArgs c.args)).2
    else splitArgs (printChannel c.channel ++ printArgs c.args)) = pre ++ c.args.map printInt := by
  split
  · rw [splitCh_print]
    exact ⟨[], rfl⟩
  · cases c.channel with
    | none => exact ⟨[], splitArgs_printArgs c.args⟩
    | some ch =>
        have hno : (0x20 : UInt8) ∉ decimal ch := by
          intro h
          cases decimal_isDigit ch _ h
        refine ⟨[decimal ch], ?_⟩
        show splitArgs (decimal ch ++ printArgs c.args) = decimal ch :: c.args.map printInt
        unfold splitArgs
        rw [splitOn_printArgs (decimal ch) hno]
        refine List.filter_eq_self.mpr ?_
        intro s hs
        rcases List.mem_cons.mp hs with rfl | hs
        · exact decide_eq_true (decimal_ne_nil ch)
        · obtain ⟨v, -, rfl⟩ := List.mem_map.mp hs
          exact decide_eq_true (printInt_ne_nil v)

/-- **The number behind the arguments is read as the number of the command**, where the verb is
    known and has its arguments. -/
theorem trailingSeq_numbered {c : Command} {known : Nat} (hk : knownArgs.lookup c.verb = some known)
    (hargs : known ≤ c.args.length) (seq : UInt32) :
    trailingSeq c.verb (printChannel c.channel ++ printArgs (c.numbered seq).args) =
      some seq.toNat := by
  obtain ⟨pre, hpre⟩ := trailing_args (c.numbered seq)
  have hpre' : (if c.verb ∈ channelVerbs then
      (splitCh (printChannel c.channel ++ printArgs (c.numbered seq).args)).2
    else splitArgs (printChannel c.channel ++ printArgs (c.numbered seq).args)) =
      pre ++ (c.numbered seq).args.map printInt := hpre
  have hlast : (c.numbered seq).args.map printInt = c.args.map printInt ++ [decimal seq.toNat] := by
    show (c.args ++ [(seq.toNat : Int)]).map printInt = _
    rw [List.map_append]
    rfl
  unfold trailingSeq
  rw [hk, Option.bind_some]
  simp only [hpre', hlast]
  rw [if_pos, ← List.append_assoc, List.getLast?_concat, Option.bind_some, readNat_decimal]
  rw [List.length_append, List.length_append, List.length_map, List.length_singleton]
  omega

/-- The state in which a numbered command is handled. -/
def Sim.given (s : Sim) (seq : UInt32) : Sim :=
  { s with cmdCount := s.cmdCount + 1, seq := some seq.toNat }

/-- **A numbered command is handled as the command it is, under its number.** -/
theorem handle_numbered {e : Setup} (hd : e.faults.disconnectAfter = 0) (s : Sim) {c : Command}
    {known : Nat} (hk : knownArgs.lookup c.verb = some known) (hargs : known ≤ c.args.length)
    (seq : UInt32) (payload : Bytes) :
    handle e s (c.numbered seq).text payload = (s.given seq).command e c.verb
      (printChannel c.channel ++ printArgs (c.numbered seq).args) payload := by
  have hv : c.verb ≠ 0x20 := by
    intro h
    rw [h] at hk
    cases hk
  have hstrip : strip (c.numbered seq).text = 0x61 :: 0x74 :: c.verb ::
      (printChannel c.channel ++ printArgs (c.numbered seq).args) := strip_text (c := c.numbered seq) hv
  unfold handle
  simp only [hd, ne_eq, not_true_eq_false, false_and, if_false, hstrip]
  rw [trailingSeq_numbered hk hargs]
  rfl

end Openport.Simulator
