/-
  File:      Openport/Device/Stream.lean
  Subject:   The reader on a well-formed stream: what it hands on is the list of
             records the device sent, wherever the reads were cut.

  Every record is a code word of the loop in `consume_accum` (`record_code`), so
  the accumulator always holds the beginning of the record the last read was
  cut in. That is shorter than `recordMax`, hence there is room for the next
  read and the accumulator is never full.
-/
import Openport.Proto.Record

namespace Openport

open Lib.Framing

/-! ## 1. How long a record is -/

/-- Longest record on the wire: a line of 256 bytes and 255 raw bytes. -/
def recordMax : Nat := opCmdMax * 4 + 255

theorem Record.wire_length_le {r : Record} (h : r.WellFormed) : r.wire.length ≤ recordMax := by
  have hline := h.line
  have hraw := h.rawFits
  by_cases hf : ∀ ch status body, r ≠ .frame ch status body
  · rw [r.wire_line hf]
    simp only [List.length_cons, List.length_append]
    show _ ≤ 511
    omega
  · obtain ⟨ch, status, body, rfl⟩ : ∃ ch status body, r = .frame ch status body := by
      refine Classical.byContradiction fun hn => hf fun ch status body e => hn ⟨ch, status, body, e⟩
    have hb := h.frameBody ch status body rfl
    show body.length + 5 ≤ 511
    omega

/-! ## 2. Reads of a stream of code words -/

/-- The accumulator holds the beginning of the first word still to come. -/
def Begins (ws : List (Bytes × Handed)) (accum : Bytes) : Prop :=
  accum = [] ∨ ∃ w rest, ws = w :: rest ∧ accum <+: w.1 ∧ accum ≠ w.1

theorem Begins.length_le {ws : List (Bytes × Handed)} {accum : Bytes} (h : Begins ws accum)
    (hmax : ∀ w ∈ ws, w.1.length ≤ recordMax) : accum.length ≤ recordMax := by
  rcases h with rfl | ⟨w, rest, rfl, hp, -⟩
  · exact Nat.zero_le _
  · exact Nat.le_trans hp.length_le (hmax w List.mem_cons_self)

/-- A read of at most 1024 bytes finds room behind an accumulator this short. -/
theorem readerRead_room {accum tmp : Bytes} (ha : accum.length ≤ recordMax)
    (ht : tmp.length ≤ 1024) : readerRead accum tmp = consumeAccum (accum ++ tmp) := by
  unfold readerRead
  rw [List.take_of_length_le]
  have : accum.length ≤ 511 := ha
  show tmp.length ≤ 4387 - accum.length
  omega

/-- A short residue is not a full accumulator. -/
theorem consumeAccum_short {buf : Bytes} (h : (drain consumeStep buf).2.length ≤ recordMax) :
    consumeAccum buf = drain consumeStep buf := by
  unfold consumeAccum
  simp only
  rw [if_neg]
  intro e
  rw [e] at h
  exact absurd h (by decide)

/-- **The reads of a stream of words hand on the words, and leave nothing.** -/
theorem readerReads_words : ∀ (reads : List Bytes) (ws : List (Bytes × Handed)) (accum : Bytes),
    (∀ w ∈ ws, Code consumeStep w.1 w.2) → (∀ w ∈ ws, w.1.length ≤ recordMax) →
    (∀ tmp ∈ reads, tmp.length ≤ 1024) → Begins ws accum →
    accum ++ reads.flatten = (ws.map (·.1)).flatten →
    readerReads accum reads = (ws.map (·.2), [])
  | [], ws, accum, hc, _, _, hb, he => by
      rw [List.flatten_nil, List.append_nil] at he
      cases ws with
      | nil =>
          rw [he]
          rfl
      | cons w ws =>
          -- a whole word would have been handed on
          have hne : w.1 ≠ [] := (hc w List.mem_cons_self).ne_nil consumeStep_shrinks
          rw [List.map_cons, List.flatten_cons] at he
          rcases hb with rfl | ⟨w', rest, e, hp, hne'⟩
          · exact absurd (List.append_eq_nil_iff.mp he.symm).1 hne
          · cases e
            have hl := hp.length_le
            rw [he, List.length_append] at hl
            have h0 : (ws.map (·.1)).flatten = [] := List.eq_nil_of_length_eq_zero (by omega)
            rw [h0, List.append_nil] at he
            exact absurd he hne'
  | tmp :: reads, ws, accum, hc, hm, ht, hb, he => by
      have htmp : tmp.length ≤ 1024 := ht tmp List.mem_cons_self
      have he' : (accum ++ tmp) ++ reads.flatten = (ws.map (·.1)).flatten := by
        rw [← he, List.flatten_cons, List.append_assoc]
      obtain ⟨done, todo, rfl, hd, hq, hres⟩ := drain_stream consumeStep_shrinks ws hc _ _ he'
      have hsub : ∀ w ∈ todo, w ∈ done ++ todo := fun w hw => List.mem_append_right done hw
      have hlen := Begins.length_le hres fun w hw => hm w (hsub w hw)
      have hread : readerRead accum tmp = drain consumeStep (accum ++ tmp) := by
        rw [readerRead_room (hb.length_le hm) htmp, consumeAccum_short hlen]
      have ih := readerReads_words reads todo _ (fun w hw => hc w (hsub w hw))
        (fun w hw => hm w (hsub w hw)) (fun t h => ht t (List.mem_cons_of_mem _ h)) hres hq
      show ((readerRead accum tmp).1 ++ (readerReads (readerRead accum tmp).2 reads).1,
        (readerReads (readerRead accum tmp).2 reads).2) = _
      rw [hread, ih, hd, List.map_append]

/-! ## 3. Reads of a device's stream -/

/-- The bytes of a list of records, one after the other. -/
def stream (rs : List WireRecord) : Bytes := (rs.map fun r => r.val.wire).flatten

/-- What a list of records must be handed on as. -/
def handedOn (rs : List WireRecord) : List Handed := rs.map fun r => r.val.handed

/-- The code words of a list of records. -/
def words (rs : List WireRecord) : List (Bytes × Handed) :=
  rs.map fun r => (r.val.wire, r.val.handed)

theorem words_code (rs : List WireRecord) : ∀ w ∈ words rs, Code consumeStep w.1 w.2 := by
  intro w hw
  obtain ⟨r, -, rfl⟩ := List.mem_map.mp hw
  exact record_code r.property

theorem words_length (rs : List WireRecord) : ∀ w ∈ words rs, w.1.length ≤ recordMax := by
  intro w hw
  obtain ⟨r, -, rfl⟩ := List.mem_map.mp hw
  exact Record.wire_length_le r.property

theorem words_stream (rs : List WireRecord) : ((words rs).map (·.1)).flatten = stream rs := by
  unfold words stream
  rw [List.map_map]
  rfl

theorem words_handed (rs : List WireRecord) : (words rs).map (·.2) = handedOn rs := by
  unfold words handedOn
  rw [List.map_map]
  rfl

/-- The rest of a stream in reads, behind an accumulator that holds the beginning of a record. -/
theorem readerReads_stream (rs : List WireRecord) (reads : List Bytes) {accum : Bytes}
    (hb : Begins (words rs) accum) (hcut : accum ++ reads.flatten = stream rs)
    (hlen : ∀ tmp ∈ reads, tmp.length ≤ 1024) : readerReads accum reads = (handedOn rs, []) := by
  rw [readerReads_words reads (words rs) accum (words_code rs) (words_length rs) hlen hb
    (by rw [hcut, words_stream]), words_handed]

/-- **Demultiplexing is exact under every chunking.** However the bytes of the records are cut
    into reads, the loop hands on the records, in order and nothing else, and leaves the
    accumulator empty. -/
theorem readerReads_records (rs : List WireRecord) (reads : List Bytes)
    (hcut : reads.flatten = stream rs) (hlen : ∀ tmp ∈ reads, 1 ≤ tmp.length ∧ tmp.length ≤ 1024) :
    readerReads [] reads = (handedOn rs, []) :=
  readerReads_stream rs reads (.inl rfl) (by rw [List.nil_append, hcut]) fun t h => (hlen t h).2

/-- A captured transmit indication and an `ary` of two raw bytes that look like a reply. -/
def sampleRecords : List WireRecord :=
  [⟨.frame 6 0x10 [0x19, 0x50, 0xb8, 0x0c, 0x00, 0x00, 0x07, 0xe0],
    { frameBody := fun _ _ _ e => by cases e; decide
      line := by decide, tailFits := by decide, rawFits := by decide, text := trivial }⟩,
   ⟨.fastInit 3 [300] [0x61, 0x72],
    { frameBody := fun _ _ _ e => by cases e
      line := by decide, tailFits := by decide, rawFits := by decide, text := trivial }⟩]

/-- The sample cut one byte into its second record and again inside the raw bytes. -/
theorem readerReads_records_sample :
    readerReads [] [(stream sampleRecords).take 14, ((stream sampleRecords).drop 14).take 11,
      (stream sampleRecords).drop 25] = (handedOn sampleRecords, []) :=
  readerReads_records sampleRecords _ (by decide) (by decide)

end Openport
