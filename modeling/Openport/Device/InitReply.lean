/-
  File:      Openport/Device/InitReply.lean
  Subject:   The reply to a K-line init: the ECU's bytes, whether the firmware
             numbers it or not.

  `arw` brings the key bytes as tokens, `ary` raw bytes behind its line; either
  may end its line with the number of its command. Numbers begin at 256, so a
  key byte is never one, and a reply with another number is discarded.
-/
import Openport.Device.Reads
import Openport.Device.Stash

namespace Openport

open Lib.Decimal Lib.Ring

/-! ## 1. The replies to an init -/

/-- A FIVE_BAUD_INIT or FAST_INIT numbered `s` waits, and nothing is in its slot. -/
structure InitPending (d : OpDevice) (s : UInt32) : Prop where
  waiting : d.cmdWaiting = true
  verb : d.cmdVerb = 0x79 ∨ d.cmdVerb = 0x77
  seq : d.seqPending = s
  number : 256 ≤ s.toNat
  empty : d.replyValid = false

/-- Key bytes as the tokens of an `arw`. -/
def keyList (keys : Bytes) : List UInt32 := keys.map (·.toUInt32)

/-- `reply.data` for some bytes: NULL for none. -/
def dataFor (bytes : Bytes) : Option Bytes := if bytes = [] then none else some bytes

/-- However the record is cut into reads, the command ends with an init reply that carries exactly
    these bytes, and they stand in `reply_data`. -/
def Yields (d : OpDevice) (r : Record) (bytes : Bytes) : Prop :=
  ∀ reads, CutInto reads r.wire → ∃ rep,
    (collect (arrivals d (reads.map .read))).1 = .ok ∧
    (collect (arrivals d (reads.map .read))).2.1 = some rep ∧ rep.kind = .init ∧
    rep.data = dataFor bytes ∧
    cells (arrivals d (reads.map .read)).replyData 0 bytes.length = bytes

/-- However the record is cut into reads, the command still waits, with nothing in its slot. -/
def Ignores (d : OpDevice) (r : Record) : Prop :=
  ∀ reads, CutInto reads r.wire →
    (arrivals d (reads.map .read)).replyValid = false ∧
    (arrivals d (reads.map .read)).cmdWaiting = true

/-! ## 2. They are well formed -/

theorem decimal_u32_length (v : UInt32) : (decimal v.toNat).length ≤ 10 :=
  decimal_length_le (by decide) (Nat.lt_trans v.toNat_lt (by decide))

theorem fields_length_bound (vs : List UInt32) : (fields vs).length ≤ 11 * vs.length := by
  induction vs with
  | nil => exact Nat.le_refl 0
  | cons v vs ih =>
      have hd := decimal_u32_length v
      show (0x20 :: (decimal v.toNat ++ fields vs)).length ≤ 11 * (vs.length + 1)
      rw [List.length_cons, List.length_append]
      omega

theorem fiveBaud_wellFormed (ch : UInt32) {tail : List UInt32} (h : tail.length ≤ 8) :
    (Record.fiveBaud ch tail).WellFormed := by
  have hd := decimal_u32_length ch
  have hf := fields_length_bound tail
  refine ⟨fun _ _ _ e => (nomatch e), ?_, h, Nat.zero_le _, trivial⟩
  show (0x77 :: (decimal ch.toNat ++ fields tail)).length + 4 ≤ 256
  rw [List.length_cons, List.length_append]
  omega

theorem fastInit_wellFormed (ch : UInt32) {tail : List UInt32} (h : tail.length ≤ 8) {raw : Bytes}
    (hr : raw.length ≤ 255) : (Record.fastInit ch tail raw).WellFormed := by
  have hd := decimal_u32_length ch
  have hf := fields_length_bound (UInt32.ofNat raw.length :: tail)
  rw [List.length_cons] at hf
  refine ⟨fun _ _ _ e => (nomatch e), ?_, h, hr, trivial⟩
  show (0x79 :: (decimal ch.toNat ++ fields (UInt32.ofNat raw.length :: tail))).length + 4 ≤ 256
  rw [List.length_cons, List.length_append]
  omega

/-! ## 3. What the slot is left with -/

/-- The reads of a reply line leave what `stash_reply` makes of it. -/
theorem arrivals_reply {d : OpDevice} (hl : d.lost = false) (ha : d.accum = []) {r : Record}
    (hw : r.WellFormed) (hf : r.handed = .reply r.reply) {reads : List Bytes}
    (h : CutInto reads r.wire) : arrivals d (reads.map .read) = stashReply d r.reply := by
  have hcut : CutInto reads (stream [⟨r, hw⟩]) :=
    ⟨h.flatten.trans (List.append_nil r.wire).symm, h.sized⟩
  rw [arrivals_records hl ha [⟨r, hw⟩] hcut]
  show handOn d r.handed = _
  rw [hf]
  rfl

/-- A reply with the number the command waits for is not stale. -/
theorem stale_own {d : OpDevice} {r : OpReply} (h : r.echoed = some d.seqPending) :
    stale d r = false := by
  unfold stale
  rw [h]
  simp

section Slot

variable {d : OpDevice} {s : UInt32} (hd : InitPending d s) (hl : d.lost = false)
  (ha : d.accum = [])
include hd

theorem InitPending.seq_ne_zero : d.seqPending ≠ 0 := by
  intro e
  have hn := hd.number
  rw [← hd.seq, e] at hn
  exact absurd hn (by decide)

/-- An init may claim an init reply. -/
theorem InitPending.claims {r : OpReply} (hk : r.kind = .init) : claims d r = true := by
  unfold Openport.claims
  rw [hd.waiting, hk]
  rcases hd.verb with hv | hv <;> rw [hv] <;> simp

/-- A number other than the pending one is not a key byte, so the reply is stale. -/
theorem InitPending.stale_foreign {s' : UInt32} (hn : 256 ≤ s'.toNat) (hne : s' ≠ s) {r : OpReply}
    (hk : r.kind = .init) (he : r.echoed = some s') : stale d r = true := by
  have htail : r.tail ≠ [] := by
    intro e
    unfold OpReply.echoed at he
    rw [e] at he
    cases he
  have hbig : 0xFF < s' := UInt32.lt_iff_toNat_lt.mpr (Nat.lt_of_succ_le hn)
  have hs0 : s ≠ 0 := hd.seq ▸ hd.seq_ne_zero
  unfold stale
  rw [hk, he, hd.seq]
  simp [hs0, htail, hne, hbig]

include hl ha

/-- A reply that is not stale is what the command is given. -/
theorem InitPending.yields {r : Record} (hw : r.WellFormed) (hf : r.handed = .reply r.reply)
    (hk : r.reply.kind = .init) (hs : stale d r.reply = false) {bytes : Bytes}
    (hdata : decodedData s r.reply = dataFor bytes) : Yields d r bytes := by
  intro reads hcut
  have hacc : accepts d r.reply = true := by
    rw [accepts_eq, hd.claims hk, hs]
    rfl
  have h := stashReply_accepts hacc
  rw [arrivals_reply hl ha hw hf hcut]
  have hcol : collect (stashReply d r.reply) = (.ok, some (stashReply d r.reply).reply,
      { stashReply d r.reply with replyValid := false, cmdWaiting := false }) := by
    unfold collect
    rw [h.valid, if_pos rfl]
  rw [hcol]
  refine ⟨_, rfl, rfl, ?_, ?_, ?_⟩
  · rw [h.reply]
    exact hk
  · rw [h.reply]
    show decodedData d.seqPending r.reply = _
    rw [hd.seq, hdata]
  · have hcells := h.data
    rw [hd.seq, hdata] at hcells
    unfold dataFor at hcells
    by_cases hb : bytes = []
    · rw [hb]
      rfl
    · rw [if_neg hb] at hcells
      exact hcells

/-- A reply to another command leaves the command waiting. -/
theorem InitPending.ignores {r : Record} (hw : r.WellFormed) (hf : r.handed = .reply r.reply)
    (hk : r.reply.kind = .init) (hs : stale d r.reply = true) : Ignores d r := by
  intro reads hcut
  rw [arrivals_reply hl ha hw hf hcut, stashReply_stale (hd.claims hk) hs]
  exact ⟨hd.empty, hd.waiting⟩

end Slot

/-! ## 4. Key bytes and raw bytes -/

theorem keyList_all (keys : Bytes) : (keyList keys).all (· ≤ 0xFF) = true := by
  rw [List.all_eq_true]
  intro v hv
  obtain ⟨k, -, rfl⟩ := List.mem_map.mp hv
  refine decide_eq_true (UInt32.le_iff_toNat_le.mpr ?_)
  rw [UInt8.toNat_toUInt32]
  exact Nat.le_of_lt_succ k.toNat_lt

theorem keyList_back (keys : Bytes) : (keyList keys).map (·.toUInt8) = keys := by
  unfold keyList
  rw [List.map_map]
  refine (List.map_congr_left ?_).trans (List.map_id keys)
  intro k _
  show k.toUInt32.toUInt8 = k
  exact UInt8.toUInt8_toUInt32 k

theorem keyList_length (keys : Bytes) : (keyList keys).length = keys.length := List.length_map _

/-- Seven key bytes and a number are as many tokens as a reply keeps. -/
theorem numbered_length {keys : Bytes} (hk : keys.length ≤ 7) (s : UInt32) :
    (keyList keys ++ [s]).length ≤ 8 := by
  rw [List.length_append, List.length_singleton, keyList_length]
  exact Nat.succ_le_succ hk

theorem keyList_ne_nil {keys : Bytes} : keyList keys ≠ [] ↔ keys ≠ [] := by
  unfold keyList
  rw [ne_eq, List.map_eq_nil_iff]

/-- A key byte is no number. -/
theorem keyList_last (keys : Bytes) {s : UInt32} (hs : 256 ≤ s.toNat) :
    (keyList keys).getLast? ≠ some s ∧ ¬0xFF < ((keyList keys).getLast?).getD 0 := by
  cases hlast : (keyList keys).getLast? with
  | none => exact ⟨fun e => (nomatch e), by decide⟩
  | some v =>
      have hv := List.all_eq_true.mp (keyList_all keys) v (List.mem_of_getLast? hlast)
      have hle : v ≤ 0xFF := of_decide_eq_true hv
      have hn : v.toNat ≤ 255 := UInt32.le_iff_toNat_le.mp hle
      refine ⟨?_, UInt32.not_lt.mpr hle⟩
      intro e
      rw [Option.some.inj e] at hn
      omega

/-- What `stash_reply` makes of the key bytes of an `arw`, once the number is off. -/
theorem decodedData_keys {s : UInt32} {ch : UInt32} {tail : List UInt32} {keys : Bytes}
    (h : keyTokens s (Record.fiveBaud ch tail).reply = keyList keys) :
    decodedData s (Record.fiveBaud ch tail).reply = dataFor keys := by
  have hb : (Record.fiveBaud ch tail).reply.bytes = [] := rfl
  unfold decodedData dataFor
  rw [if_neg (fun hne => hne rfl), if_neg (fun hne => hne hb), h, keyList_back]
  by_cases hk : keys = []
  · rw [if_pos hk, if_neg fun hx => keyList_ne_nil.mp hx.1 hk]
  · rw [if_neg hk, if_pos ⟨keyList_ne_nil.mpr hk, keyList_all keys⟩]

/-- What it makes of the raw bytes of an `ary`, with its number or without. -/
theorem decodedData_raw {s : UInt32} {ch : UInt32} {tail : List UInt32} {raw : Bytes}
    (hr : raw.length ≤ 255) (ht : tail = [] ∨ tail = [s]) (hs : s ≠ 0) :
    decodedData s (Record.fastInit ch tail raw).reply = dataFor raw := by
  have hb : (Record.fastInit ch tail raw).reply.bytes = raw := rfl
  unfold decodedData dataFor
  rw [if_neg (fun hne => hne rfl), hb]
  by_cases hraw : raw = []
  · -- no raw bytes: the tokens are looked at, and the number is all there is
    have hnone : keyTokens s (Record.fastInit ch tail raw).reply = [] := by
      unfold keyTokens
      show (if s ≠ 0 ∧ tail.getLast? = some s then tail.dropLast else tail) = []
      rcases ht with rfl | rfl
      · exact ite_self _
      · rw [if_pos ⟨hs, rfl⟩]
        rfl
    rw [if_pos hraw, if_neg (fun hne => hne hraw), if_neg fun hx => hx.1 hnone]
  · rw [if_neg hraw, if_pos hraw, List.take_of_length_le (show raw.length ≤ replyDataMax from hr)]

/-! ## 5. The reply to an init -/

section Decodes

variable {d : OpDevice} {s : UInt32} (hd : InitPending d s) (hl : d.lost = false)
  (ha : d.accum = []) (ch : UInt32)
include hd hl ha

/-- The key bytes of an `arw`, with its number or without. -/
theorem InitPending.yields_keys {keys : Bytes} (hk : keys.length ≤ 7) :
    Yields d (.fiveBaud ch (keyList keys ++ [s])) keys ∧
      Yields d (.fiveBaud ch (keyList keys)) keys := by
  have hs0 : s ≠ 0 := hd.seq ▸ hd.seq_ne_zero
  constructor
  · have hecho : (Record.fiveBaud ch (keyList keys ++ [s])).reply.echoed = some s :=
      List.getLast?_concat
    refine hd.yields hl ha (fiveBaud_wellFormed ch (numbered_length hk s)) rfl rfl
      (stale_own (hecho.trans (congrArg some hd.seq.symm))) (decodedData_keys ?_)
    unfold keyTokens
    rw [if_pos ⟨hs0, hecho⟩]
    exact List.dropLast_concat
  · have hlen : (keyList keys).length ≤ 8 := (keyList_length keys).trans_le (Nat.le_succ_of_le hk)
    have hecho : (Record.fiveBaud ch (keyList keys)).reply.echoed = (keyList keys).getLast? := rfl
    obtain ⟨hother, hbyte⟩ := keyList_last keys hd.number
    refine hd.yields hl ha (fiveBaud_wellFormed ch hlen) rfl rfl ?_ (decodedData_keys ?_)
    · have hb : (Record.fiveBaud ch (keyList keys)).reply.bytes = [] := rfl
      unfold stale
      rw [hecho, hb]
      simp [hbyte]
    · unfold keyTokens
      rw [if_neg fun hx => hother hx.2]
      rfl

/-- The raw bytes of an `ary`, with its number or without. -/
theorem InitPending.yields_raw {raw : Bytes} (hr : raw.length ≤ 255) :
    Yields d (.fastInit ch [s] raw) raw ∧ Yields d (.fastInit ch [] raw) raw := by
  have hs0 : s ≠ 0 := hd.seq ▸ hd.seq_ne_zero
  constructor
  · have hecho : (Record.fastInit ch [s] raw).reply.echoed = some s := rfl
    exact hd.yields hl ha (fastInit_wellFormed ch (Nat.le_of_ble_eq_true rfl) hr) rfl rfl
      (stale_own (hecho.trans (congrArg some hd.seq.symm))) (decodedData_raw hr (.inr rfl) hs0)
  · refine hd.yields hl ha (fastInit_wellFormed ch (Nat.le_of_ble_eq_true rfl) hr) rfl rfl ?_
      (decodedData_raw hr (.inl rfl) hs0)
    have htail : (Record.fastInit ch [] raw).reply.tail = [] := rfl
    unfold stale
    rw [htail]
    simp

end Decodes

/-- **An init reply decodes to exactly the ECU's bytes**, numbered or not, and a reply with the
    number of another command never completes the init. -/
theorem init_decodes {d : OpDevice} {s : UInt32} (hd : InitPending d s) (hl : d.lost = false)
    (ha : d.accum = []) (ch : UInt32) :
    (∀ keys : Bytes, keys.length ≤ 7 →
      Yields d (.fiveBaud ch (keyList keys ++ [s])) keys ∧
      Yields d (.fiveBaud ch (keyList keys)) keys) ∧
    (∀ raw : Bytes, raw.length ≤ 255 →
      Yields d (.fastInit ch [s] raw) raw ∧ Yields d (.fastInit ch [] raw) raw) ∧
    (∀ s' : UInt32, 256 ≤ s'.toNat → s' ≠ s →
      (∀ keys : Bytes, keys.length ≤ 7 → Ignores d (.fiveBaud ch (keyList keys ++ [s']))) ∧
      ∀ raw : Bytes, raw.length ≤ 255 → Ignores d (.fastInit ch [s'] raw)) := by
  refine ⟨fun keys hk => hd.yields_keys hl ha ch hk, fun raw hr => hd.yields_raw hl ha ch hr,
    fun s' hn hne => ⟨fun keys hk => ?_, fun raw hr => ?_⟩⟩
  · exact hd.ignores hl ha (fiveBaud_wellFormed ch (numbered_length hk s')) rfl rfl
      (hd.stale_foreign hn hne rfl List.getLast?_concat)
  · exact hd.ignores hl ha (fastInit_wellFormed ch (Nat.le_of_ble_eq_true rfl) hr) rfl rfl
      (hd.stale_foreign hn hne rfl rfl)

/-- A FAST_INIT numbered 300, and an `ary` of two bytes with the number 299 before its own. -/
theorem init_decodes_fast :
    Yields { opened := true, cmdWaiting := true, seqPending := 300, cmdVerb := 0x79 }
      (.fastInit 3 [300] [0xC1, 0x8F]) [0xC1, 0x8F] ∧
    Ignores { opened := true, cmdWaiting := true, seqPending := 300, cmdVerb := 0x79 }
      (.fastInit 3 [299] [0xC1, 0x8F]) := by
  have h := init_decodes
    (d := { opened := true, cmdWaiting := true, seqPending := 300, cmdVerb := 0x79 }) (s := 300)
    ⟨rfl, .inl rfl, rfl, by decide, rfl⟩ rfl rfl 3
  exact ⟨(h.2.1 [0xC1, 0x8F] (by decide)).1, (h.2.2 299 (by decide) (by decide)).2 _ (by decide)⟩

end Openport
