/-
  File:      Openport/Simulator/Answers.lean
  Subject:   How the simulated cable answers a numbered command: with one reply that
             carries the number, between frames.

  `Spoken` are the commands the driver gives. `Answer` lists what each of them makes
  of the channels and which reply says so, `Said` that the reply went out once;
  `handle_answered` says that `handle` does just that, whatever state the cable is in.
-/
import Openport.Simulator.Lines
import Openport.Simulator.Sound

namespace Openport.Simulator

open Lib Lib.Decimal

/-! ## 1. Replies as records -/

theorem fields_short : ∀ vs : List UInt32, (fields vs).length ≤ 11 * vs.length
  | [] => Nat.zero_le _
  | v :: vs => by
      have hv : (decimal v.toNat).length ≤ 10 :=
        decimal_length_le (by decide) (Nat.lt_trans v.toNat_lt (by decide))
      have ih := fields_short vs
      show (0x20 :: (decimal v.toNat ++ fields vs)).length ≤ 11 * (vs.length + 1)
      rw [List.length_cons, List.length_append]
      omega

theorem fields_append : ∀ vs ws : List UInt32, fields (vs ++ ws) = fields vs ++ fields ws
  | [], _ => rfl
  | v :: vs, ws => by
      show 0x20 :: (decimal v.toNat ++ fields (vs ++ ws)) =
        0x20 :: (decimal v.toNat ++ fields vs) ++ fields ws
      rw [fields_append vs ws, ← List.append_assoc]
      rfl

/-- Numbers print as the fields of a record. -/
theorem printArgs_fields : ∀ vs : List UInt32, printArgs (vs.map fun v => (v.toNat : Int)) = fields vs
  | [] => rfl
  | v :: vs => by
      show 0x20 :: (decimal v.toNat ++ printArgs (vs.map fun v => (v.toNat : Int))) = _
      rw [printArgs_fields vs]
      rfl

/-- The number of a 32-bit value. -/
theorem ofNat_toNat {n : Nat} (h : n < 2 ^ 32) : (UInt32.ofNat n).toNat = n :=
  UInt32.toNat_ofNat_of_lt' h

theorem decimal_short (v : UInt32) : (decimal v.toNat).length ≤ 10 :=
  decimal_length_le (by decide) (Nat.lt_trans v.toNat_lt (by decide))

/-- A line of a letter, a channel and some numbers is short enough. -/
theorem line_wellFormed (r : Record) (pre : Bytes) (vs : List UInt32)
    (hr : r.body = pre ++ fields vs) (hp : pre.length ≤ 11) (hv : vs.length ≤ 4)
    (hframe : isFrame r = false) (htail : r.tail.length ≤ 1) (hraw : r.raw = []) (htext : r.textOk) :
    r.WellFormed := by
  have hf := fields_short vs
  refine ⟨?_, ?_, ?_, ?_, htext⟩
  · rintro ch status body rfl
    cases hframe
  · rw [hr, List.length_append]
    omega
  · exact Nat.le_trans htail (by decide)
  · rw [hraw]
    exact Nat.zero_le _

/-- The replies of `_ok`, `_err` and the commands that tell something, with their number. -/
def okReply (seq : UInt32) : WireRecord :=
  ⟨.ok [seq], line_wellFormed (.ok [seq]) [0x6f] [seq] rfl (by decide)
    (Nat.le_of_ble_eq_true rfl) rfl (Nat.le_refl 1) rfl trivial⟩

def errorReply (code seq : UInt32) : WireRecord :=
  ⟨.error code [seq], line_wellFormed (.error code [seq]) [0x65] [code, seq] rfl (by decide)
    (Nat.le_of_ble_eq_true rfl) rfl (Nat.le_refl 1) rfl trivial⟩

def pinReply (pin mv seq : UInt32) : WireRecord :=
  ⟨.pin pin mv [seq], line_wellFormed (.pin pin mv [seq]) [0x72] [pin, mv, seq] rfl (by decide)
    (Nat.le_of_ble_eq_true rfl) rfl (Nat.le_refl 1) rfl trivial⟩

def filterReply (ch id seq : UInt32) : WireRecord :=
  ⟨.filter ch id [seq], line_wellFormed (.filter ch id [seq]) (0x66 :: decimal ch.toNat) [id, seq] rfl
    (Nat.succ_le_succ (decimal_short ch)) (Nat.le_of_ble_eq_true rfl) rfl (Nat.le_refl 1) rfl trivial⟩

def configReply (ch param value seq : UInt32) : WireRecord :=
  ⟨.config ch param value [seq], line_wellFormed (.config ch param value [seq])
    (0x67 :: decimal ch.toNat) [param, value, seq] rfl (Nat.succ_le_succ (decimal_short ch))
    (Nat.le_of_ble_eq_true rfl) rfl (Nat.le_refl 1) rfl trivial⟩

def periodicReply (ch id seq : UInt32) : WireRecord :=
  ⟨.periodic ch id [seq], line_wellFormed (.periodic ch id [seq]) (0x6d :: decimal ch.toNat)
    [id, seq] rfl (Nat.succ_le_succ (decimal_short ch)) (Nat.le_of_ble_eq_true rfl) rfl
    (Nat.le_refl 1) rfl trivial⟩

/-! ## 2. One reply -/

/-- One reply went out, and nothing else but frames. -/
def Said (s s' : Sim) (r : WireRecord) : Prop :=
  ∃ fs gs : List WireRecord, (∀ f ∈ fs ++ gs, isFrame f.val = true) ∧ Puts s s' (fs ++ r :: gs)

/-- A line with the number of the command behind it. -/
theorem withSeq_fields {s : Sim} {seq : UInt32} (hs : s.seq = some seq.toNat) (pre : Bytes)
    (vs : List UInt32) : s.withSeq (0x61 :: 0x72 :: (pre ++ fields vs)) =
      0x61 :: 0x72 :: (pre ++ fields (vs ++ [seq]) ++ [0x0d, 0x0a]) := by
  have hone : fields [seq] = 0x20 :: decimal seq.toNat := by
    show 0x20 :: (decimal seq.toNat ++ []) = _
    rw [List.append_nil]
  unfold Sim.withSeq
  rw [hs, fields_append, hone]
  show 0x61 :: 0x72 :: (pre ++ fields vs) ++ 0x20 :: decimal seq.toNat ++ [0x0d, 0x0a] = _
  simp only [List.append_assoc, List.cons_append]

section Said

variable {e : Setup} {s s' : Sim} {seq : UInt32}

theorem Puts.said {r : WireRecord} (h : Puts s s' [r]) : Said s s' r :=
  ⟨[], [], fun _ hf => absurd hf List.not_mem_nil, h⟩

/-- Frames before the reply. -/
theorem Said.before {s0 : Sim} {r : WireRecord} (hp : e.Plain) (h0 : Framed e s0 s)
    (h : Said s s' r) : Said s0 s' r := by
  obtain ⟨qs, hq, hputs⟩ := h0.frames hp
  obtain ⟨fs, gs, hf, hput⟩ := h
  refine ⟨qs ++ fs, gs, ?_, ?_⟩
  · intro f hmem
    rw [List.append_assoc] at hmem
    rcases List.mem_append.mp hmem with hmem | hmem
    · exact hq f hmem
    · exact hf f hmem
  · rw [List.append_assoc]
    exact hputs.trans hput

/-- Frames behind it. -/
theorem Said.after {s2 : Sim} {r : WireRecord} (hp : e.Plain) (h : Said s s' r)
    (h2 : Framed e s' s2) : Said s s2 r := by
  obtain ⟨qs, hq, hputs⟩ := h2.frames hp
  obtain ⟨fs, gs, hf, hput⟩ := h
  refine ⟨fs, gs ++ qs, ?_, ?_⟩
  · intro f hmem
    rw [← List.append_assoc] at hmem
    rcases List.mem_append.mp hmem with hmem | hmem
    · exact hf f hmem
    · exact hq f hmem
  · have := hput.trans hputs
    rwa [List.append_assoc] at this

/-- A reply behind a line of its letter, its channel and its numbers. -/
theorem reply_said (hp : e.Plain) (hs : s.seq = some seq.toNat) (pre : Bytes) (vs : List UInt32)
    (r : WireRecord) (hr : r.val.wire = 0x61 :: 0x72 :: (pre ++ fields (vs ++ [seq]) ++
      [0x0d, 0x0a])) : Said s (s.reply e (s.withSeq (0x61 :: 0x72 :: (pre ++ fields vs)))) r := by
  rw [withSeq_fields hs, ← hr]
  exact (reply_puts hp s r).said

theorem ok_said (hp : e.Plain) (hs : s.seq = some seq.toNat) : Said s (s.ok e) (okReply seq) :=
  reply_said hp hs [0x6f] [] (okReply seq) rfl

theorem err_said (hp : e.Plain) (hs : s.seq = some seq.toNat) {code : Nat} (hc : code < 2 ^ 32) :
    Said s (s.err e code) (errorReply (UInt32.ofNat code) seq) := by
  have hline : printArgs [(code : Int)] = fields [UInt32.ofNat code] := by
    rw [← printArgs_fields, List.map_singleton, ofNat_toNat hc]
  unfold Sim.err
  rw [hline]
  exact reply_said hp hs [0x65] [UInt32.ofNat code] _ rfl

end Said

/-! ## 3. The commands the driver gives -/

/-- The verbs that name a channel. -/
def ofChannel : List UInt8 := [0x6f, 0x63, 0x74, 0x66, 0x6b, 0x67, 0x73, 0x6c, 0x79, 0x77, 0x6e, 0x6d]

/-- A command of the driver's: its verb has all its arguments, a channel is one of the cable's, and
    what a parameter is set to, or asked for, is a 32-bit number. -/
structure Spoken (c : Command) : Prop where
  known : knownArgs.lookup c.verb = some c.args.length
  noPinVerb : c.verb ≠ 0x70
  noInfo : c.verb ≠ 0x69
  channel : c.verb ∈ ofChannel → ∃ i : Fin 10, c.channel = some i.val
  plain : c.verb ∉ ofChannel → c.channel = none
  values : c.verb = 0x6f ∨ c.verb = 0x73 ∨ c.verb = 0x67 ∨ c.verb = 0x72 →
    ∀ v ∈ c.args, 0 ≤ v ∧ v < 2 ^ 32

/-- What the parameters are set to, and the ids to come, are 32-bit numbers. -/
structure Table.Fits (t : Table) : Prop where
  config : ∀ i c k v, t.channels.lookup i = some c → c.config.lookup k = some v →
    0 ≤ v ∧ v < 2 ^ 32
  filterIds : t.nextFilterId < 2 ^ 32
  periodicIds : t.nextPeriodicId < 2 ^ 32

/-- **What a command makes of the channels, and the reply that says so.** -/
inductive Answer (t : Table) (c : Command) (payload : Bytes) (seq : UInt32) :
    WireRecord → Table → Prop where
  | reset : c.verb = 0x61 ∨ c.verb = 0x7a →
      Answer t c payload seq (okReply seq) { t with channels := ∅, nextFilterId := 0 }
  | opened (i : Fin 10) (flags baud more : Int) : c.verb = 0x6f → c.channel = some i.val →
      c.args = [flags, baud, more] → i ∉ t.channels → Answer t c payload seq (okReply seq)
        { t with channels := t.channels.insert i (.new i.val flags baud t.born), born := t.born + 1 }
  | shut (i : Fin 10) : c.verb = 0x63 → c.channel = some i.val →
      Answer t c payload seq (okReply seq) { t with channels := t.channels.erase i }
  | pin (pin mv : UInt32) : c.verb = 0x72 → c.args = [(pin.toNat : Int)] →
      Answer t c payload seq (pinReply pin mv seq) t
  | config (i : Fin 10) (ch : Channel) (param value : UInt32) : c.verb = 0x67 →
      c.channel = some i.val → c.args = [(param.toNat : Int)] → t.channels.lookup i = some ch →
      ch.config.lookup (param.toNat : Int) = some (value.toNat : Int) →
      Answer t c payload seq (configReply (UInt32.ofNat i.val) param value seq) t
  | configured (i : Fin 10) (ch : Channel) (param value : Int) : c.verb = 0x73 →
      c.channel = some i.val → c.args = [param, value] → t.channels.lookup i = some ch →
      param ∈ ch.config → Answer t c payload seq (okReply seq) { t with
        channels := t.channels.insert i { ch with config := ch.config.insert param value } }
  | filtered (i : Fin 10) (ch : Channel) (f : Filter) : c.verb = 0x66 → c.channel = some i.val →
      t.channels.lookup i = some ch → ch.filters.entries.length < perChannel →
      Answer t c payload seq
        (filterReply (UInt32.ofNat i.val) (UInt32.ofNat t.nextFilterId) seq) { t with
          channels := t.channels.insert i
            { ch with filters := ch.filters.insert (t.nextFilterId : Int) f }
          nextFilterId := t.nextFilterId + 1 }
  | unfiltered (i : Fin 10) (ch : Channel) (id : Int) (fs : Dict Int Filter) : c.verb = 0x6b →
      c.channel = some i.val → c.args = [id] → t.channels.lookup i = some ch →
      (id = -1 ∧ fs = ∅ ∨ id ≠ -1 ∧ id ∈ ch.filters ∧ fs = ch.filters.erase id) →
      Answer t c payload seq (okReply seq)
        { t with channels := t.channels.insert i { ch with filters := fs } }
  | scheduled (i : Fin 10) (ch : Channel) (interval zero txflags length : Int) : c.verb = 0x6d →
      c.channel = some i.val → c.args = [interval, zero, txflags, length] →
      t.channels.lookup i = some ch → length = payload.length →
      ch.periodic.entries.length < perChannel → Answer t c payload seq
        (periodicReply (UInt32.ofNat i.val) (UInt32.ofNat t.nextPeriodicId) seq) { t with
          channels := t.channels.insert i { ch with
            periodic := ch.periodic.insert (t.nextPeriodicId : Int) ⟨interval, payload, txflags⟩ }
          nextPeriodicId := t.nextPeriodicId + 1
          engines := t.engines ++ [{ channel := i, born := ch.born, pid := t.nextPeriodicId }] }
  | full (i : Fin 10) (ch : Channel) (interval zero txflags length : Int) : c.verb = 0x6d →
      c.channel = some i.val → c.args = [interval, zero, txflags, length] →
      t.channels.lookup i = some ch → length = payload.length →
      perChannel ≤ ch.periodic.entries.length →
      Answer t c payload seq (errorReply (UInt32.ofNat errExceededLimit) seq) t
  | unscheduled (i : Fin 10) (ch : Channel) (id : Int) : c.verb = 0x6e → c.channel = some i.val →
      c.args = [id] → t.channels.lookup i = some ch → id ∈ ch.periodic →
      Answer t c payload seq (okReply seq)
        { t with channels := t.channels.insert i { ch with periodic := ch.periodic.erase id } }
  | unknown (i : Fin 10) (ch : Channel) (id : Int) : c.verb = 0x6e → c.channel = some i.val →
      c.args = [id] → t.channels.lookup i = some ch → id ∉ ch.periodic →
      Answer t c payload seq (errorReply (UInt32.ofNat errInvalidMsgId) seq) t
  | emptied (i : Fin 10) (ch : Channel) : c.verb = 0x6c → c.channel = some i.val →
      t.channels.lookup i = some ch → Answer t c payload seq (okReply seq)
        { t with channels := t.channels.insert i { ch with periodic := ∅ } }
  | nothing (i : Fin 10) : c.verb = 0x6c → c.channel = some i.val → i ∉ t.channels →
      Answer t c payload seq (okReply seq) t
  /-- a voltage, a transmit or an init -/
  | done : c.verb = 0x76 ∨ c.verb = 0x74 ∨ c.verb = 0x79 ∨ c.verb = 0x77 →
      Answer t c payload seq (okReply seq) t
  /-- a refusal; on a channel that is open `atm` and `atn` have theirs above, and `atg` is refused a
      parameter the channel has not -/
  | refused (code : Nat) : code < 2 ^ 32 → code ≠ 0 →
      (c.verb ≠ 0x61 ∧ c.verb ≠ 0x7a ∧ c.verb ≠ 0x63 ∧ c.verb ≠ 0x6c) →
      (c.verb = 0x6d ∨ c.verb = 0x6e → ∀ i : Fin 10, c.channel = some i.val → i ∈ t.channels →
        c.verb = 0x6d ∧ c.args.getD 3 0 ≠ payload.length) →
      (c.verb = 0x67 → ∀ (i : Fin 10) ch param, c.channel = some i.val → c.args = [param] →
        t.channels.lookup i = some ch → param ∉ ch.config) →
      Answer t c payload seq (errorReply (UInt32.ofNat code) seq) t

/-- **A command is answered**: handling it puts out one reply with its number, between frames, and
    makes of the channels what the reply says. -/
structure Answered (s : Sim) (c : Command) (payload : Bytes) (seq : UInt32) (s' : Sim)
    (r : WireRecord) : Prop where
  said : Said s s' r
  answer : Answer s.table c payload seq r s'.table

/-! ## 4. Each of them -/

section Commands

variable {e : Setup} {s : Sim} {seq : UInt32} {c : Command} {payload : Bytes}

/-- What the arguments of a numbered command are read as. -/
theorem splitCh_given (c : Command) (seq : UInt32) :
    splitCh (printChannel c.channel ++ printArgs (c.numbered seq).args) =
      (c.channel, c.args.map printInt ++ [decimal seq.toNat]) := by
  rw [splitCh_print]
  show (c.channel, (c.args ++ [(seq.toNat : Int)]).map printInt) = _
  rw [List.map_append]
  rfl

theorem splitArgs_given (hc : c.channel = none) (seq : UInt32) :
    splitArgs (printChannel c.channel ++ printArgs (c.numbered seq).args) =
      c.args.map printInt ++ [decimal seq.toNat] := by
  rw [hc]
  show splitArgs (printArgs (c.args ++ [(seq.toNat : Int)])) = _
  rw [splitArgs_printArgs, List.map_append]
  rfl

/-- The table is told by the rest of the state. -/
theorem inner_table {s s' : Sim} (h : s'.inner = s.inner) : s'.table = s.table :=
  inner_same Sim.table (fun _ => rfl) h

/-- A command that was done. -/
theorem answered_ok (hp : e.Plain) (hs : s.seq = some seq.toNat) {s1 : Sim} (hout : s1.out = s.out)
    (hseq : s1.seq = s.seq) (h : Answer s.table c payload seq (okReply seq) s1.table) :
    Answered s c payload seq (s1.ok e) (okReply seq) := by
  obtain ⟨fs, gs, hf, hputs⟩ := ok_said (s := s1) hp (hseq.trans hs)
  refine ⟨⟨fs, gs, hf, ?_⟩, ?_⟩
  · unfold Puts at hputs ⊢
    rw [hputs, hout]
  · rw [inner_table (ok_inner e s1)]
    exact h

/-- A command that was refused. -/
theorem answered_err (hp : e.Plain) (hs : s.seq = some seq.toNat) (code : Nat)
    (h : Answer s.table c payload seq (errorReply (UInt32.ofNat code) seq) s.table)
    (hc : code < 2 ^ 32) :
    Answered s c payload seq (s.err e code) (errorReply (UInt32.ofNat code) seq) :=
  ⟨err_said hp hs hc, by rw [inner_table (err_inner e s code)]; exact h⟩

/-- The verbs that may be refused for any reason. -/
def refusable : List UInt8 := [0x6f, 0x74, 0x66, 0x6b, 0x73, 0x72, 0x76, 0x79, 0x77]

theorem refused_some (hv : c.verb ∈ refusable) (hp : e.Plain) (hs : s.seq = some seq.toNat)
    {code : Nat} (hcode : code < 2 ^ 32 ∧ code ≠ 0) :
    ∃ r, Answered s c payload seq (s.err e code) r := by
  have hnot : ∀ v ∈ refusable, (v ≠ 0x61 ∧ v ≠ 0x7a ∧ v ≠ 0x63 ∧ v ≠ 0x6c) ∧ v ≠ 0x6d ∧ v ≠ 0x6e ∧
      v ≠ 0x67 := by
    decide +kernel
  obtain ⟨h1, h2, h3, h4⟩ := hnot c.verb hv
  refine ⟨_, answered_err hp hs code (.refused code hcode.1 hcode.2 h1 (fun h => ?_)
    fun h => absurd h h4) hcode.1⟩
  rcases h with h | h
  · exact absurd h h2
  · exact absurd h h3

theorem cmdOpen_answered (hp : e.Plain) (hs : s.seq = some seq.toNat) (hv : c.verb = 0x6f)
    {i : Fin 10} (hch : c.channel = some i.val) (hargs : c.args.length = 3) :
    ∃ r, Answered s c payload seq
      (s.cmdOpen e (printChannel c.channel ++ printArgs (c.numbered seq).args)) r := by
  have hmem : c.verb ∈ refusable := by
    rw [hv]
    decide
  obtain ⟨flags, baud, more, ha⟩ := List.length_eq_three.mp hargs
  unfold Sim.cmdOpen
  rw [splitCh_given, hch, ha]
  simp only [List.map_cons, List.cons_append, readInt_printInt]
  split
  · split
    · exact refused_some hmem hp hs (by decide)
    rename_i hfree
    split
    · exact refused_some hmem hp hs (by decide)
    refine ⟨_, answered_ok hp hs rfl rfl ?_⟩
    exact .opened i flags baud more hv hch ha fun h => hfree ((find_isSome s i).mpr h)
  · exact refused_some hmem hp hs (by decide)

theorem cmdClose_answered (hp : e.Plain) (hs : s.seq = some seq.toNat) (hv : c.verb = 0x63)
    {i : Fin 10} (hch : c.channel = some i.val) :
    ∃ r, Answered s c payload seq
      (s.cmdClose e (printChannel c.channel ++ printArgs (c.numbered seq).args)) r := by
  have hdrop : s.dropChannel i.val = { s with channels := s.channels.erase i } := by
    unfold Sim.dropChannel
    rw [dif_pos i.isLt]
  unfold Sim.cmdClose
  rw [splitCh_given, hch]
  simp only [hdrop]
  exact ⟨_, answered_ok hp hs rfl rfl (.shut i hv hch)⟩

/-- What a pin reads is a 32-bit number. -/
theorem PinsSound.fits {pins : Dict Int Int} (h : PinsSound pins) {p mv : Int}
    (hp : pins.lookup p = some mv) : (0 ≤ p ∧ p < 2 ^ 32) ∧ 0 ≤ mv ∧ mv < 2 ^ 32 := by
  have hmin : voltageMinMv = 5000 := rfl
  have hmax : voltageMaxMv = 20000 := rfl
  rcases (h.keys p).mp (mem_of_lookup hp) with rfl | rfl | rfl | rfl
  · rw [h.fixed.1] at hp
    cases hp
    decide
  · have := h.jack mv hp
    refine ⟨by decide, ?_⟩
    omega
  · rw [h.fixed.2] at hp
    cases hp
    decide
  · have := h.supply mv hp
    refine ⟨by decide, ?_⟩
    omega

/-- A number that fits prints as the field it is. -/
theorem toNat_field {v : Int} (h : 0 ≤ v ∧ v < 2 ^ 32) : ∃ w : UInt32, (w.toNat : Int) = v := by
  refine ⟨UInt32.ofNat v.toNat, ?_⟩
  rw [ofNat_toNat (by omega)]
  omega

theorem cmdReadPin_answered (hp : e.Plain) (hs : s.seq = some seq.toNat) (hpins : PinsSound s.pins)
    (hv : c.verb = 0x72) (hch : c.channel = none) (hargs : c.args.length = 1) :
    ∃ r, Answered s c payload seq
      (s.cmdReadPin e (printChannel c.channel ++ printArgs (c.numbered seq).args)) r := by
  obtain ⟨p, ha⟩ := List.length_eq_one_iff.mp hargs
  unfold Sim.cmdReadPin
  rw [splitArgs_given hch, ha]
  simp only [List.map_cons, List.cons_append, List.head?_cons, Option.bind_some, readInt_printInt]
  cases hl : s.pins.lookup p with
  | none => exact refused_some (by rw [hv]; decide) hp hs (by decide)
  | some mv =>
      obtain ⟨hpf, hmf⟩ := hpins.fits hl
      obtain ⟨pin, rfl⟩ := toNat_field hpf
      obtain ⟨v, rfl⟩ := toNat_field hmf
      have hline : printArgs [(pin.toNat : Int), (v.toNat : Int)] = fields [pin, v] :=
        printArgs_fields [pin, v]
      refine ⟨pinReply pin v seq, ?_, ?_⟩
      · simp only [hline]
        exact reply_said hp hs [0x72] [pin, v] _ rfl
      · rw [inner_table (reply_inner e s _)]
        exact .pin pin v hv ha

theorem drivePin_same (s : Sim) (pin mv : Int) : (s.drivePin pin mv).out = s.out ∧
    (s.drivePin pin mv).seq = s.seq ∧ (s.drivePin pin mv).table = s.table := by
  rw [drivePin_rest]
  exact ⟨rfl, rfl, rfl⟩

theorem cmdVoltage_answered (hp : e.Plain) (hs : s.seq = some seq.toNat) (hv : c.verb = 0x76)
    (hch : c.channel = none) (hargs : c.args.length = 2) :
    ∃ r, Answered s c payload seq
      (s.cmdVoltage e (printChannel c.channel ++ printArgs (c.numbered seq).args)) r := by
  have hmem : c.verb ∈ refusable := by
    rw [hv]
    decide
  obtain ⟨pin, v, ha⟩ := List.length_eq_two.mp hargs
  unfold Sim.cmdVoltage
  rw [splitArgs_given hch, ha]
  simp only [List.map_cons, List.cons_append, readInt_printInt]
  split
  · split
    · exact refused_some hmem hp hs (by decide)
    · obtain ⟨h1, h2, h3⟩ := drivePin_same s pin 0
      exact ⟨_, answered_ok hp hs h1 h2 (h3 ▸ .done (Or.inl hv))⟩
  split
  · exact refused_some hmem hp hs (by decide)
  split
  · exact refused_some hmem hp hs (by decide)
  split
  · exact refused_some hmem hp hs (by decide)
  · obtain ⟨h1, h2, h3⟩ := drivePin_same { s with pins := s.pins.insert 17 (v % 2 ^ 32) } pin
      (v % 2 ^ 32)
    exact ⟨_, answered_ok hp hs h1 h2 (h3 ▸ .done (Or.inl hv))⟩

theorem withSeqOrZero_some {s : Sim} (hs : s.seq = some seq.toNat) (line : Bytes) :
    s.withSeqOrZero line = s.withSeq line := by
  unfold Sim.withSeqOrZero
  rw [hs]
  rfl

theorem cmdGetConfig_answered (hp : e.Plain) (hs : s.seq = some seq.toNat) (hfit : s.table.Fits)
    (hv : c.verb = 0x67) {i : Fin 10} (hch : c.channel = some i.val) (hargs : c.args.length = 1)
    (hval : ∀ v ∈ c.args, 0 ≤ v ∧ v < 2 ^ 32) : ∃ r, Answered s c payload seq
      (s.cmdGetConfig e (printChannel c.channel ++ printArgs (c.numbered seq).args)) r := by
  obtain ⟨param, ha⟩ := List.length_eq_one_iff.mp hargs
  have hrefused : ∀ code : Nat, code < 2 ^ 32 ∧ code ≠ 0 → (∀ ch, s.channels.lookup i = some ch →
      param ∉ ch.config) → ∃ r, Answered s c payload seq (s.err e code) r := by
    intro code hcode hno
    refine ⟨_, answered_err hp hs code (.refused code hcode.1 hcode.2 (by rw [hv]; decide)
      (fun h => ?_) fun _ j ch p hj hp hl => ?_) hcode.1⟩
    · rw [hv] at h
      exact absurd h (by decide)
    · obtain rfl : i = j := Fin.ext (Option.some.inj (hch.symm.trans hj))
      obtain rfl : param = p := (List.cons.inj (ha.symm.trans hp)).1
      exact hno ch hl
  unfold Sim.cmdGetConfig
  rw [splitCh_given, hch, ha, find_val]
  cases hl : s.channels.lookup i with
  | none =>
      refine hrefused errFailed (by decide) fun ch h => ?_
      rw [hl] at h
      cases h
  | some ch =>
      simp only [Option.map_some, List.map_cons, List.cons_append, readInt_printInt]
      cases hg : ch.config.lookup param with
      | none =>
          refine hrefused errNotSupported (by decide) fun ch' h => ?_
          obtain rfl := Option.some.inj (hl.symm.trans h)
          exact AList.lookup_eq_none.mp hg
      | some value =>
          obtain ⟨p, rfl⟩ := toNat_field (hval param (by rw [ha]; exact List.mem_singleton_self _))
          obtain ⟨v, rfl⟩ := toNat_field (hfit.config i ch _ _ hl hg)
          have hi : (UInt32.ofNat i.val).toNat = i.val :=
            ofNat_toNat (Nat.lt_trans i.isLt (by decide))
          have hline : (0x67 :: (decimal i.val ++ printArgs [(p.toNat : Int), (v.toNat : Int)]) : Bytes) =
              (0x67 :: decimal i.val) ++ fields [p, v] := by
            rw [show printArgs [(p.toNat : Int), (v.toNat : Int)] = fields [p, v] from
              printArgs_fields [p, v]]
            rfl
          refine ⟨configReply (UInt32.ofNat i.val) p v seq, ?_, ?_⟩
          · simp only
            rw [withSeqOrZero_some hs, hline]
            refine reply_said hp hs (0x67 :: decimal i.val) [p, v] _ ?_
            show 0x61 :: 0x72 :: (0x67 :: (decimal (UInt32.ofNat i.val).toNat ++ _) ++ _) = _
            rw [hi]
            rfl
          · rw [inner_table (reply_inner e s _)]
            exact .config i ch p v hv hch ha hl hg

theorem cmdSetConfig_answered (hp : e.Plain) (hs : s.seq = some seq.toNat) (hv : c.verb = 0x73)
    {i : Fin 10} (hch : c.channel = some i.val) (hargs : c.args.length = 2) :
    ∃ r, Answered s c payload seq
      (s.cmdSetConfig e (printChannel c.channel ++ printArgs (c.numbered seq).args)) r := by
  have hmem : c.verb ∈ refusable := by
    rw [hv]
    decide
  obtain ⟨param, value, ha⟩ := List.length_eq_two.mp hargs
  unfold Sim.cmdSetConfig
  rw [splitCh_given, hch, ha, find_val]
  cases hl : s.channels.lookup i with
  | none => exact refused_some hmem hp hs (by decide)
  | some ch =>
      simp only [Option.map_some, List.map_cons, List.cons_append, readInt_printInt]
      split
      · exact refused_some hmem hp hs (by decide)
      · rename_i hparam
        refine ⟨_, answered_ok hp hs rfl rfl ?_⟩
        exact .configured i ch param value hv hch ha hl (not_not.mp hparam)

/-- A channel of the cable prints as the field it is. -/
theorem channel_field (i : Fin 10) : (UInt32.ofNat i.val).toNat = i.val :=
  ofNat_toNat (Nat.lt_trans i.isLt (by decide))

theorem cmdFilter_answered (hp : e.Plain) (hs : s.seq = some seq.toNat)
    (hids : s.nextFilterId < 2 ^ 32) (hv : c.verb = 0x66) {i : Fin 10}
    (hch : c.channel = some i.val) (hargs : c.args.length = 3) :
    ∃ r, Answered s c payload seq
      (s.cmdFilter e (printChannel c.channel ++ printArgs (c.numbered seq).args) payload) r := by
  have hmem : c.verb ∈ refusable := by
    rw [hv]
    decide
  obtain ⟨type, flags, each, ha⟩ := List.length_eq_three.mp hargs
  unfold Sim.cmdFilter
  rw [splitCh_given, hch, ha, find_val]
  cases hl : s.channels.lookup i with
  | none => exact refused_some hmem hp hs (by decide)
  | some ch =>
      simp only [Option.map_some, List.map_cons, List.cons_append, readInt_printInt]
      split
      · exact refused_some hmem hp hs (by decide)
      split
      · exact refused_some hmem hp hs (by decide)
      split
      · exact refused_some hmem hp hs (by decide)
      rename_i hroom
      have hone : printArgs [(s.nextFilterId : Int)] = fields [UInt32.ofNat s.nextFilterId] := by
        rw [← printArgs_fields, List.map_singleton, ofNat_toNat hids]
      refine ⟨filterReply (UInt32.ofNat i.val) (UInt32.ofNat s.nextFilterId) seq, ?_, ?_⟩
      · rw [withSeqOrZero_some (s := Sim.setChannel { s with
          nextFilterId := s.nextFilterId + 1 } i _) hs, hone]
        refine reply_said (s := Sim.setChannel { s with
          nextFilterId := s.nextFilterId + 1 } i _) hp hs (0x66 :: decimal i.val)
          [UInt32.ofNat s.nextFilterId] _ ?_
        show 0x61 :: 0x72 :: (0x66 :: (decimal (UInt32.ofNat i.val).toNat ++ _) ++ _) = _
        rw [channel_field]
        rfl
      · rw [inner_table (reply_inner e _ _)]
        exact .filtered i ch _ hv hch hl (Nat.lt_of_not_le hroom)

theorem cmdStopFilter_answered (hp : e.Plain) (hs : s.seq = some seq.toNat) (hv : c.verb = 0x6b)
    {i : Fin 10} (hch : c.channel = some i.val) (hargs : c.args.length = 1) :
    ∃ r, Answered s c payload seq
      (s.cmdStopFilter e (printChannel c.channel ++ printArgs (c.numbered seq).args)) r := by
  have hmem : c.verb ∈ refusable := by
    rw [hv]
    decide
  obtain ⟨id, ha⟩ := List.length_eq_one_iff.mp hargs
  unfold Sim.cmdStopFilter
  rw [splitCh_given, hch, ha, find_val]
  cases hl : s.channels.lookup i with
  | none => exact refused_some hmem hp hs (by decide)
  | some ch =>
      simp only [Option.map_some, List.map_cons, List.cons_append, readInt_printInt]
      split
      · rename_i hall
        refine ⟨_, answered_ok hp hs rfl rfl ?_⟩
        exact .unfiltered i ch id ∅ hv hch ha hl (Or.inl ⟨hall, rfl⟩)
      rename_i hone
      split
      · exact refused_some hmem hp hs (by decide)
      · rename_i hin
        refine ⟨_, answered_ok hp hs rfl rfl ?_⟩
        exact .unfiltered i ch id _ hv hch ha hl (Or.inr ⟨hone, not_not.mp hin, rfl⟩)

/-- A refusal of `atm` or `atn` where its channel is not open. -/
theorem shut_refused (hp : e.Plain) (hs : s.seq = some seq.toNat) (hv : c.verb = 0x6d ∨ c.verb = 0x6e)
    {i : Fin 10} (hch : c.channel = some i.val) (hno : i ∉ s.channels) :
    ∃ r, Answered s c payload seq (s.err e errFailed) r := by
  refine ⟨_, answered_err hp hs errFailed (.refused errFailed (by decide) (by decide) ?_ ?_ ?_)
    (by decide)⟩
  · rcases hv with hv | hv
    · rw [hv]
      decide
    · rw [hv]
      decide
  · intro _ j hj hin
    rw [hch] at hj
    exact absurd (Fin.ext (Option.some.inj hj) ▸ hin) hno
  · intro h
    rw [h] at hv
    exact absurd hv (by decide)

theorem cmdPeriodicVendor_answered (hp : e.Plain) (hs : s.seq = some seq.toNat)
    (hids : s.nextPeriodicId < 2 ^ 32) (hv : c.verb = 0x6d) {i : Fin 10}
    (hch : c.channel = some i.val) (hargs : c.args.length = 4) :
    ∃ r, Answered s c payload seq
      (s.cmdPeriodicVendor e (printChannel c.channel ++ printArgs (c.numbered seq).args) payload) r := by
  obtain ⟨interval, more, hmore⟩ := List.exists_cons_of_length_eq_add_one hargs
  have h3 : more.length = 3 := by
    rw [hmore] at hargs
    exact Nat.succ.inj hargs
  obtain ⟨zero, txflags, length, rfl⟩ := List.length_eq_three.mp h3
  have ha : c.args = [interval, zero, txflags, length] := hmore
  unfold Sim.cmdPeriodicVendor
  rw [splitCh_given, hch, ha, find_val]
  cases hl : s.channels.lookup i with
  | none => exact shut_refused hp hs (Or.inl hv) hch (AList.lookup_eq_none.mp hl)
  | some ch =>
      simp only [Option.map_some, List.map_cons, List.cons_append, readInt_printInt]
      split
      · rename_i hlen
        refine ⟨_, answered_err hp hs errInvalidMsg (.refused errInvalidMsg (by decide) (by decide)
          (by rw [hv]; decide) (fun _ j hj hin => ⟨hv, ?_⟩) fun h => ?_) (by decide)⟩
        · rw [ha]
          exact hlen
        · rw [hv] at h
          exact absurd h (by decide)
      rename_i hlen
      split
      · rename_i hfull
        exact ⟨_, answered_err hp hs errExceededLimit
          (.full i ch interval zero txflags length hv hch ha hl (not_not.mp hlen) hfull)
          (by decide)⟩
      rename_i hroom
      have hone : printArgs [(s.nextPeriodicId : Int)] = fields [UInt32.ofNat s.nextPeriodicId] := by
        rw [← printArgs_fields, List.map_singleton, ofNat_toNat hids]
      refine ⟨periodicReply (UInt32.ofNat i.val) (UInt32.ofNat s.nextPeriodicId) seq, ?_, ?_⟩
      · simp only [hone]
        refine reply_said (s := Sim.setChannel { s with
          nextPeriodicId := s.nextPeriodicId + 1
          engines := s.engines ++ [{ channel := i, born := ch.born, pid := s.nextPeriodicId }] } i _)
          hp hs (0x6d :: decimal i.val) [UInt32.ofNat s.nextPeriodicId] _ ?_
        show 0x61 :: 0x72 :: (0x6d :: (decimal (UInt32.ofNat i.val).toNat ++ _) ++ _) = _
        rw [channel_field]
        rfl
      · rw [inner_table (reply_inner e _ _)]
        exact .scheduled i ch interval zero txflags length hv hch ha hl (not_not.mp hlen)
          (Nat.lt_of_not_le hroom)

theorem cmdClearPeriodic_answered (hp : e.Plain) (hs : s.seq = some seq.toNat) (hv : c.verb = 0x6c)
    {i : Fin 10} (hch : c.channel = some i.val) :
    ∃ r, Answered s c payload seq
      (s.cmdClearPeriodic e (printChannel c.channel ++ printArgs (c.numbered seq).args)) r := by
  unfold Sim.cmdClearPeriodic
  rw [splitCh_given, hch, find_val]
  cases hl : s.channels.lookup i with
  | none =>
      exact ⟨_, answered_ok hp hs rfl rfl (.nothing i hv hch (AList.lookup_eq_none.mp hl))⟩
  | some ch => exact ⟨_, answered_ok hp hs rfl rfl (.emptied i ch hv hch hl)⟩

theorem cmdPeriodicStop_answered (hp : e.Plain) (hs : s.seq = some seq.toNat) (hv : c.verb = 0x6e)
    {i : Fin 10} (hch : c.channel = some i.val) (hargs : c.args.length = 1) :
    ∃ r, Answered s c payload seq
      (s.cmdPeriodicStop e (printChannel c.channel ++ printArgs (c.numbered seq).args)) r := by
  obtain ⟨id, ha⟩ := List.length_eq_one_iff.mp hargs
  unfold Sim.cmdPeriodicStop
  rw [splitCh_given, hch, ha, find_val]
  cases hl : s.channels.lookup i with
  | none => exact shut_refused hp hs (Or.inr hv) hch (AList.lookup_eq_none.mp hl)
  | some ch =>
      simp only [Option.map_some, List.map_cons, List.cons_append, readInt_printInt]
      split
      · rename_i hno
        exact ⟨_, answered_err hp hs errInvalidMsgId (.unknown i ch id hv hch ha hl hno) (by decide)⟩
      · rename_i hin
        refine ⟨_, answered_ok hp hs rfl rfl ?_⟩
        exact .unscheduled i ch id hv hch ha hl (not_not.mp hin)

/-- A transmit on the bus is answered between its frames. -/
theorem transmitted_said (hp : e.Plain) (hs : s.seq = some seq.toNat) (ht : s.tp20.Sound)
    (hans : e.Answerable) (i : Fin 10) (ch : Channel) :
    ∃ s', s.transmitted e i ch payload = some s' ∧ Said s s' (okReply seq) ∧
      s'.table = s.table := by
  have hspec : (tp20Handle e.tp20Modules e.ecu s.tp20 i.val payload = none ∧ _) ∨ _ :=
    tp20Handle_spec ht i.val payload
  rcases hspec with ⟨-, req, hreq, hnone⟩ | ⟨h, hh, -, hsent⟩
  · exact absurd hnone (hans.reply _ hreq)
  obtain ⟨s0, s1, s2, s3, -, h0, h1, h2, h3, heq⟩ := transmitted_steps e s i ch payload hh hsent
  obtain rfl := h0 hp
  have hseq1 : s1.seq = some seq.toNat := (inner_same Sim.seq (fun _ => rfl) h1.inner).trans hs
  have hsaid1 : Said s0 s2 (okReply seq) := ((ok_said hp hseq1).before hp h1).after hp h2
  have hsaid2 : Said s0 { s2 with tp20 := h.state } (okReply seq) := hsaid1
  have hsaid : Said s0 s3 (okReply seq) := hsaid2.after hp h3
  have htab : s3.table = s0.table :=
    (inner_table h3.inner).trans ((inner_table h2.inner).trans
      ((inner_table (ok_inner e s1)).trans (inner_table h1.inner)))
  refine ⟨_, heq, ?_, ?_⟩
  · split
    · exact hsaid
    · cases s3.ecuResponse e i payload with
      | none => exact hsaid
      | some resp => exact hsaid
  · split
    · exact htab
    · cases s3.ecuResponse e i payload with
      | none => exact htab
      | some resp => exact htab

theorem cmdTransmit_answered (hp : e.Plain) (hs : s.seq = some seq.toNat) (ht : s.tp20.Sound)
    (hans : e.Answerable) (hv : c.verb = 0x74) {i : Fin 10} (hch : c.channel = some i.val)
    (hargs : c.args.length = 3) : ∃ s' r,
      s.cmdTransmit e (printChannel c.channel ++ printArgs (c.numbered seq).args) payload = some s' ∧
      Answered s c payload seq s' r := by
  have hmem : c.verb ∈ refusable := by
    rw [hv]
    decide
  have hdone : Answer s.table c payload seq (okReply seq) s.table := .done (Or.inr (Or.inl hv))
  obtain ⟨declared, txflags, budget, ha⟩ := List.length_eq_three.mp hargs
  unfold Sim.cmdTransmit
  rw [splitCh_given, hch, ha]
  cases hl : s.channels.lookup i with
  | none =>
      obtain ⟨s1, h1, hf⟩ := txIndication_framed e s i payload
      have hseq1 : s1.seq = some seq.toNat := (inner_same Sim.seq (fun _ => rfl) hf.inner).trans hs
      simp only [List.map_cons, List.cons_append, find_val, hl, Option.map_none, h1, Option.map_some]
      refine ⟨_, okReply seq, rfl, (ok_said hp hseq1).before hp hf, ?_⟩
      rw [inner_table (ok_inner e s1), inner_table hf.inner]
      exact hdone
  | some ch =>
      simp only [List.map_cons, List.cons_append, find_val, hl, Option.map_some]
      generalize hs1 : ({ s with
        txCount := s.txCount + 1, txLog := s.txLog ++ [Transmit.mk i.val payload false] } : Sim) = s1
      have hlogged : ∀ s' r, Answered s1 c payload seq s' r → Answered s c payload seq s' r := by
        subst hs1
        exact fun s' r h => ⟨h.said, h.answer⟩
      have hs1' : s1.seq = some seq.toNat ∧ s1.tp20.Sound ∧ s1.table = s.table ∧ s1.out = s.out := by
        subst hs1
        exact ⟨hs, ht, rfl, rfl⟩
      obtain ⟨hseq1, ht1, htab1, hout1⟩ := hs1'
      split
      · obtain ⟨r, hr⟩ : ∃ r, Answered s c payload seq (s.err e errInvalidMsg) r :=
          refused_some hmem hp hs (by decide)
        exact ⟨_, r, rfl, hr⟩
      split
      · exact ⟨_, _, rfl, hlogged _ _ (answered_ok hp hseq1 rfl rfl (htab1.symm ▸ hdone))⟩
      split
      · obtain ⟨r, hr⟩ : ∃ r, Answered s1 c payload seq (s1.err e errTimeout) r :=
          refused_some hmem hp hseq1 (by decide)
        exact ⟨_, r, rfl, hlogged _ r hr⟩
      · obtain ⟨s', hs', hsaid, htab⟩ := transmitted_said hp hseq1 ht1 hans i ch
        refine ⟨s', okReply seq, hs', hlogged _ _ ⟨hsaid, ?_⟩⟩
        rw [htab, htab1]
        exact hdone

/-- An init, where it is answered as the cable's default is. -/
theorem cmdInit_answered (hp : e.Plain) (hs : s.seq = some seq.toNat)
    (hinit : e.wire.initReply = .aro) {fiveBaud : Bool}
    (hv : c.verb = if fiveBaud then 0x77 else 0x79) {i : Fin 10} (hch : c.channel = some i.val) :
    ∃ r, Answered s c payload seq (s.cmdInit e
      (printChannel c.channel ++ printArgs (c.numbered seq).args) payload fiveBaud) r := by
  have hmem : c.verb ∈ refusable := by
    rw [hv]
    cases fiveBaud <;> decide
  have hdone : Answer s.table c payload seq (okReply seq) s.table := by
    refine .done ?_
    cases fiveBaud with
    | true => exact Or.inr (Or.inr (Or.inr hv))
    | false => exact Or.inr (Or.inr (Or.inl hv))
  unfold Sim.cmdInit
  rw [splitCh_given, hch, find_val, hinit]
  cases hl : s.channels.lookup i with
  | none => exact refused_some hmem hp hs (by decide)
  | some ch =>
      have hok : Answered s c payload seq (s.ok e) (okReply seq) := answered_ok hp hs rfl rfl hdone
      have hlater : ∀ resp, Answered s c payload seq ((s.ok e).later i resp) (okReply seq) := by
        intro resp
        cases resp with
        | none => exact hok
        | some resp => exact ⟨hok.said, hok.answer⟩
      exact ⟨_, hlater _⟩

end Commands

/-! ## 5. Every command -/

theorem mem_of_lookup_eq {v : UInt8} {n : Nat} : ∀ {l : List (UInt8 × Nat)}, l.lookup v = some n →
    (v, n) ∈ l
  | [], h => nomatch h
  | (w, m) :: l, h => by
      rw [List.lookup_cons] at h
      split at h
      · rename_i hw
        rw [eq_of_beq hw, Option.some.inj h]
        exact List.mem_cons_self
      · exact List.mem_cons_of_mem _ (mem_of_lookup_eq h)

/-- **Every command the driver gives is answered by one reply with its number**, whatever state the
    cable is in: nothing else goes out but frames, and the channels are what the reply says. -/
theorem handle_answered {e : Setup} (hp : e.Plain) (hinit : e.wire.initReply = .aro)
    (hans : e.Answerable) {s : Sim} (hs : s.Sound) (hfit : s.table.Fits) {c : Command} (hc : Spoken c)
    (seq : UInt32) (payload : Bytes) : ∃ s' r,
      handle e s (c.numbered seq).text payload = some s' ∧ Answered s c payload seq s' r := by
  rw [handle_numbered hp.disconnect s hc.known (Nat.le_refl _)]
  -- the state the command is handled in has the same table, and its output
  have hseq : (s.given seq).seq = some seq.toNat := rfl
  have lift : ∀ {o : Option Sim}, (∃ s' r, o = some s' ∧ Answered (s.given seq) c payload seq s' r) →
      ∃ s' r, o = some s' ∧ Answered s c payload seq s' r := by
    rintro o ⟨s', r, ho, ha⟩
    exact ⟨s', r, ho, ha.said, ha.answer⟩
  have total : ∀ {s1 : Sim}, (∃ r, Answered (s.given seq) c payload seq s1 r) →
      ∃ s' r, some s1 = some s' ∧ Answered (s.given seq) c payload seq s' r := by
    rintro s1 ⟨r, ha⟩
    exact ⟨s1, r, rfl, ha⟩
  have hmem := mem_of_lookup_eq hc.known
  have hchannel := hc.channel
  have hplain := hc.plain
  have hvalues := hc.values
  have hreset : c.verb = 0x61 ∨ c.verb = 0x7a → ∃ s' r, some ((s.given seq).closeAll.ok e) = some s' ∧
      Answered (s.given seq) c payload seq s' r :=
    fun hv => total ⟨_, answered_ok hp hseq rfl rfl (.reset hv)⟩
  refine lift ?_
  simp only [knownArgs, List.mem_cons, Prod.mk.injEq, List.not_mem_nil, or_false] at hmem
  rcases hmem with ⟨hv, hn⟩ | ⟨hv, hn⟩ | ⟨hv, hn⟩ | ⟨hv, hn⟩ | ⟨hv, hn⟩ | ⟨hv, hn⟩ | ⟨hv, hn⟩ |
    ⟨hv, hn⟩ | ⟨hv, hn⟩ | ⟨hv, hn⟩ | ⟨hv, hn⟩ | ⟨hv, hn⟩ | ⟨hv, hn⟩ | ⟨hv, hn⟩ | ⟨hv, hn⟩ | ⟨hv, hn⟩ |
    ⟨hv, hn⟩ | ⟨hv, hn⟩
  all_goals rw [hv]
  · obtain ⟨i, hi⟩ := hchannel (by rw [hv]; decide)
    exact total (cmdOpen_answered hp hseq hv hi hn)
  · obtain ⟨i, hi⟩ := hchannel (by rw [hv]; decide)
    exact cmdTransmit_answered hp hseq hs.tp20 hans hv hi hn
  · obtain ⟨i, hi⟩ := hchannel (by rw [hv]; decide)
    exact total (cmdFilter_answered hp hseq hfit.filterIds hv hi hn)
  · obtain ⟨i, hi⟩ := hchannel (by rw [hv]; decide)
    exact total (cmdStopFilter_answered hp hseq hv hi hn)
  · obtain ⟨i, hi⟩ := hchannel (by rw [hv]; decide)
    exact total (cmdGetConfig_answered hp hseq hfit hv hi hn
      (hvalues (Or.inr (Or.inr (Or.inl hv)))))
  · obtain ⟨i, hi⟩ := hchannel (by rw [hv]; decide)
    exact total (cmdSetConfig_answered hp hseq hv hi hn)
  · exact total (cmdReadPin_answered hp hseq hs.pins hv (hplain (by rw [hv]; decide)) hn)
  · exact total (cmdVoltage_answered hp hseq hv (hplain (by rw [hv]; decide)) hn)
  · obtain ⟨i, hi⟩ := hchannel (by rw [hv]; decide)
    exact total (cmdInit_answered hp hseq hinit hv hi)
  · obtain ⟨i, hi⟩ := hchannel (by rw [hv]; decide)
    exact total (cmdInit_answered hp hseq hinit hv hi)
  · exact absurd hv hc.noPinVerb
  · obtain ⟨i, hi⟩ := hchannel (by rw [hv]; decide)
    exact total (cmdPeriodicVendor_answered hp hseq hfit.periodicIds hv hi hn)
  · obtain ⟨i, hi⟩ := hchannel (by rw [hv]; decide)
    exact total (cmdPeriodicStop_answered hp hseq hv hi hn)
  · obtain ⟨i, hi⟩ := hchannel (by rw [hv]; decide)
    exact total (cmdClose_answered hp hseq hv hi)
  · obtain ⟨i, hi⟩ := hchannel (by rw [hv]; decide)
    exact total (cmdClearPeriodic_answered hp hseq hv hi)
  · exact hreset (Or.inl hv)
  · exact hreset (Or.inr hv)
  · exact absurd hv hc.noInfo

end Openport.Simulator
