/-
  File:      Openport/Device/Stash.lean
  Subject:   What `stash_reply` leaves in the reply slot: the decoded reply when it
             accepts one, and what was there before when it discards one.

  The second half fails where the source decides too late. A numbered init reply
  that carries another command's number is found out only after `d->reply` and
  `d->reply_text` have been written, so a reply accepted before it and not yet
  collected is replaced by the stale one. `stashReply_settles` says which states
  and replies that leaves.
-/
import Openport.Device.Slot

namespace Openport

open Lib.Ring

/-! ## 1. The decoded reply -/

/-- `reply.text` of an accepted reply: the text of an `ari`, as much as fits before its NUL. -/
def decodedText (r : OpReply) : Option Bytes :=
  if r.kind = .info then r.text.map (·.take (replyTextMax - 1)) else none

/-- The key bytes of an `arw` reply: its tokens, but for the echoed number. -/
def keyTokens (seq : UInt32) (r : OpReply) : List UInt32 :=
  if seq ≠ 0 ∧ r.echoed = some seq then r.tail.dropLast else r.tail

/-- `reply.data` of an accepted reply: an init's raw bytes, or its key bytes if all are bytes. -/
def decodedData (seq : UInt32) (r : OpReply) : Option Bytes :=
  if r.kind ≠ .init then none
  else if r.bytes ≠ [] then some (r.bytes.take replyDataMax)
  else if keyTokens seq r ≠ [] ∧ (keyTokens seq r).all (· ≤ 0xFF) = true then
    some ((keyTokens seq r).map (·.toUInt8))
  else none

/-- The reply the waiting command with number `seq` is given: of an `are <code> [<detail>] <seq>`
    the detail is the token before the number. -/
def decoded (seq : UInt32) (r : OpReply) : OpReply :=
  let numbered := seq ≠ 0 ∧ r.kind = .error
  { r with
    hasDetail := if numbered then decide (2 ≤ r.tail.length) else r.hasDetail
    detail := if numbered then (if 2 ≤ r.tail.length then r.tail.headD 0 else 0) else r.detail
    text := decodedText r, data := decodedData seq r }

/-! ## 2. Accepting and discarding -/

/-- The reply is accepted: the slot holds it, decoded, with its text and its bytes in the two
    buffers, and the command waits as before. -/
structure Accepted (d : OpDevice) (r : OpReply) (d' : OpDevice) : Prop where
  valid : d'.replyValid = true
  reply : d'.reply = decoded d.seqPending r
  text : cells d'.replyText 0 (((decodedText r).getD []).length + 1) =
    (decodedText r).getD [] ++ [0]
  data : cells d'.replyData 0 ((decodedData d.seqPending r).getD []).length =
    (decodedData d.seqPending r).getD []
  seqPending : d'.seqPending = d.seqPending
  cmdVerb : d'.cmdVerb = d.cmdVerb
  cmdWaiting : d'.cmdWaiting = d.cmdWaiting

/-- The slot is as it was. -/
structure SlotUnchanged (d d' : OpDevice) : Prop where
  reply : d'.reply = d.reply
  replyText : d'.replyText = d.replyText
  replyData : d'.replyData = d.replyData
  replyValid : d'.replyValid = d.replyValid
  seqPending : d'.seqPending = d.seqPending
  cmdVerb : d'.cmdVerb = d.cmdVerb
  cmdWaiting : d'.cmdWaiting = d.cmdWaiting

/-- Whether `stash_reply` sets `reply_valid`. -/
def accepts (d : OpDevice) (r : OpReply) : Bool :=
  (stashReply { d with replyValid := false } r).replyValid

/-- Whether a reply is the init reply of another command: it carries a number, and not the one
    that is waited for. -/
def stale (d : OpDevice) (r : OpReply) : Bool :=
  r.kind == .init && d.seqPending != 0 && r.tail != [] && r.echoed != some d.seqPending &&
    (r.bytes != [] || decide (0xFF < r.echoed.getD 0))

/-- What `stash_reply` promises about one reply. -/
def Settles (d : OpDevice) (r : OpReply) : Prop :=
  (accepts d r = true → Accepted d r (stashReply d r)) ∧
    (accepts d r = false → SlotUnchanged d (stashReply d r))

/-! ## 3. What each part of `stash_reply` writes -/

/-- The key bytes are all the tokens, or the reply has none. -/
theorem keyBytes_eq (vs : List UInt32) :
    ((keyBytes vs).2 = true ↔ vs.all (· ≤ 0xFF) = true) ∧
      ((keyBytes vs).2 = true → (keyBytes vs).1 = vs.map (·.toUInt8)) := by
  rw [List.all_eq_true]
  simp only [decide_eq_true_eq]
  induction vs with
  | nil => exact ⟨⟨fun _ v hv => absurd hv (List.not_mem_nil), fun _ => rfl⟩, fun _ => rfl⟩
  | cons v vs ih =>
      by_cases hv : 0xFF < v
      · have e : keyBytes (v :: vs) = ([], false) := if_pos hv
        rw [e]
        refine ⟨⟨fun h => (by cases h), ?_⟩, fun h => (by cases h)⟩
        intro h
        exact absurd (h v List.mem_cons_self) (UInt32.not_le.mpr hv)
      · have e : keyBytes (v :: vs) = (v.toUInt8 :: (keyBytes vs).1, (keyBytes vs).2) := if_neg hv
        rw [e]
        refine ⟨⟨?_, ?_⟩, ?_⟩
        · intro h w hw
          rcases List.mem_cons.mp hw with rfl | hw
          · exact UInt32.not_lt.mp hv
          · exact ih.1.mp h w hw
        · intro h
          exact ih.1.mpr fun w hw => h w (List.mem_cons_of_mem _ hw)
        · intro h
          show v.toUInt8 :: (keyBytes vs).1 = _
          rw [ih.2 h, List.map_cons]

/-- What the text part writes, whatever the reply. -/
theorem stashText_eq (d : OpDevice) (r : OpReply) : stashText d r =
    { d with
      reply := { decoded d.seqPending r with data := r.data }
      replyText := match decodedText r with
        | some text => store (store d.replyText 0 [0]) 0 (text ++ [0])
        | none => store d.replyText 0 [0] } := by
  have hn : (d.seqPending != 0 && r.kind == .error) =
    decide (d.seqPending ≠ 0 ∧ r.kind = .error) := by
    by_cases h1 : d.seqPending = 0 <;> by_cases h2 : r.kind = .error <;> simp [h1, h2]
  unfold stashText decoded decodedText
  simp only [hn, decide_eq_true_eq]
  by_cases hk : r.kind = .info
  · rw [if_pos hk, hk]
    cases r.text with
    | none => rfl
    | some t => rfl
  · rw [if_neg hk]
    cases hr : r.kind with
    | info => exact absurd hr hk
    | _ => rfl

/-- The text part leaves the decoded text in `reply_text`. -/
theorem stashText_cells (d : OpDevice) (r : OpReply) :
    cells (stashText d r).replyText 0 (((decodedText r).getD []).length + 1) =
      (decodedText r).getD [] ++ [0] := by
  rw [stashText_eq]
  cases decodedText r with
  | none => exact cells_store d.replyText [0]
  | some t =>
      have h := cells_store (store d.replyText 0 [0]) (t ++ [0])
      rw [List.length_append] at h
      exact h

/-! ## 4. The three ways through `stash_reply` -/

/-- A stale init reply is discarded after the text part has been written. -/
theorem stashReply_stale {d : OpDevice} {r : OpReply} (hc : claims d r = true)
    (hs : stale d r = true) : stashReply d r =
      { d with reply := { r with text := none }, replyText := store d.replyText 0 [0] } := by
  have h : (((r.kind = .init ∧ d.seqPending ≠ 0) ∧ r.tail ≠ []) ∧ r.echoed ≠ some d.seqPending) ∧
      (r.bytes ≠ [] ∨ 0xFF < r.echoed.getD 0) := by
    simpa [stale] using hs
  obtain ⟨⟨⟨⟨hk, hseq⟩, htail⟩, hecho⟩, hlast⟩ := h
  have htext : stashText d r =
      { d with reply := { r with text := none }, replyText := store d.replyText 0 [0] } := by
    rw [stashText_eq]
    unfold decoded decodedText
    simp [hk]
  unfold stashReply
  rw [if_pos hc]
  simp only
  by_cases hb : r.bytes = []
  · rw [if_neg fun hx => hx.2 hb, if_pos ⟨hk, htail⟩, htext]
    unfold stashKeys
    simp only
    refine if_pos ⟨hseq, ?_, hlast.resolve_left fun hx => hx hb⟩
    simp [hecho]
  · rw [if_pos ⟨hk, hb⟩, htext]
    unfold stashRaw
    exact if_pos ⟨hseq, htail, hecho⟩

/-- The number of a reply that may be claimed and is not stale is no other command's. -/
theorem not_stale {d : OpDevice} {r : OpReply} (hs : stale d r = false) (hk : r.kind = .init)
    (hlast : r.bytes ≠ [] ∨ 0xFF < r.echoed.getD 0) :
    ¬(d.seqPending ≠ 0 ∧ r.tail ≠ [] ∧ r.echoed ≠ some d.seqPending) := by
  rintro ⟨h1, h2, h3⟩
  have : stale d r = true := by
    unfold stale
    simpa [hk, h1, h2, h3] using hlast
  rw [hs] at this
  cases this

/-- The raw bytes of an `ary` reply. -/
theorem stashRaw_own {d : OpDevice} {r : OpReply} (hs : stale d r = false) (hk : r.kind = .init)
    (hb : r.bytes ≠ []) : stashRaw (stashText d r) r r.bytes =
      { stashText d r with
        reply := decoded d.seqPending r
        replyData := store d.replyData 0 (r.bytes.take replyDataMax), replyValid := true } := by
  have hd : decodedData d.seqPending r = some (r.bytes.take replyDataMax) := by
    unfold decodedData
    rw [if_neg fun hx => hx hk, if_pos hb]
  have hown := not_stale hs hk (Or.inl hb)
  have e := stashText_eq d r
  unfold stashRaw
  rw [e]
  rw [if_neg hown]
  unfold decoded
  rw [hd]

/-- The key bytes of an `arw` reply. -/
theorem stashKeys_own {d : OpDevice} {r : OpReply} (hs : stale d r = false) (hk : r.kind = .init)
    (hb : r.bytes = []) (ht : r.tail ≠ []) : stashKeys (stashText d r) r =
      { stashText d r with
        reply := decoded d.seqPending r
        replyData := store d.replyData 0 (keyBytes (keyTokens d.seqPending r)).1
        replyValid := true } := by
  have hmine : (d.seqPending != 0 && r.echoed == some d.seqPending) =
      decide (d.seqPending ≠ 0 ∧ r.echoed = some d.seqPending) := by
    by_cases h1 : d.seqPending = 0 <;> by_cases h2 : r.echoed = some d.seqPending <;> simp [h1, h2]
  have htok : (if decide (d.seqPending ≠ 0 ∧ r.echoed = some d.seqPending) = true then
      r.tail.dropLast else r.tail) = keyTokens d.seqPending r := by
    unfold keyTokens
    simp only [decide_eq_true_eq]
  have hown : ¬(d.seqPending ≠ 0 ∧
      ¬decide (d.seqPending ≠ 0 ∧ r.echoed = some d.seqPending) = true ∧
        0xFF < r.echoed.getD 0) := by
    rintro ⟨h1, h2, h3⟩
    exact not_stale hs hk (Or.inr h3) ⟨h1, ht, fun e => h2 (decide_eq_true ⟨h1, e⟩)⟩
  have hd : (if (keyBytes (keyTokens d.seqPending r)).2 = true ∧
      (keyBytes (keyTokens d.seqPending r)).1 ≠ [] then
      some (keyBytes (keyTokens d.seqPending r)).1 else none) = decodedData d.seqPending r := by
    obtain ⟨hall, hmap⟩ := keyBytes_eq (keyTokens d.seqPending r)
    unfold decodedData
    rw [if_neg (c := r.kind ≠ .init) fun hx => hx hk, if_neg (c := r.bytes ≠ []) fun hx => hx hb]
    by_cases h2 : (keyBytes (keyTokens d.seqPending r)).2 = true
    · rw [hmap h2]
      by_cases h3 : keyTokens d.seqPending r = []
      · rw [if_neg fun hx => hx.2 (by rw [h3]; rfl), if_neg fun hx => hx.1 h3]
      · rw [if_pos ⟨h2, fun e => h3 (List.map_eq_nil_iff.mp e)⟩, if_pos ⟨h3, hall.mp h2⟩]
    · rw [if_neg fun hx => h2 hx.1, if_neg fun hx => h2 (hall.mpr hx.2)]
  have e := stashText_eq d r
  unfold stashKeys
  rw [e]
  simp only [hmine]
  rw [if_neg hown, htok, hd]
  rfl

/-- A reply with neither has no data. -/
theorem decodedData_none {seq : UInt32} {r : OpReply} (hraw : ¬(r.kind = .init ∧ r.bytes ≠ []))
    (hkeys : ¬(r.kind = .init ∧ r.tail ≠ [])) : decodedData seq r = none := by
  unfold decodedData
  by_cases hk : r.kind = .init
  · have hb : r.bytes = [] := Classical.byContradiction fun hx => hraw ⟨hk, hx⟩
    have ht : r.tail = [] := Classical.byContradiction fun hx => hkeys ⟨hk, hx⟩
    have hn : keyTokens seq r = [] := by
      unfold keyTokens
      rw [ht, List.dropLast_nil, ite_self]
    rw [if_neg fun hx => hx hk, if_neg fun hx => hx hb, if_neg fun hx => hx.1 hn]
  · exact if_pos hk

/-- The bytes an accepted init reply leaves in `reply_data`. -/
theorem cells_keyBytes (m : Mem UInt8) {seq : UInt32} {r : OpReply} (hb : r.bytes = []) :
    cells (store m 0 (keyBytes (keyTokens seq r)).1) 0 ((decodedData seq r).getD []).length =
      (decodedData seq r).getD [] := by
  unfold decodedData
  by_cases hk : r.kind = .init
  · rw [if_neg fun hx => hx hk, if_neg fun hx => hx hb]
    by_cases h : keyTokens seq r ≠ [] ∧ (keyTokens seq r).all (· ≤ 0xFF) = true
    · obtain ⟨hall, hmap⟩ := keyBytes_eq (keyTokens seq r)
      rw [if_pos h, ← hmap (hall.mpr h.2)]
      exact cells_store _ _
    · rw [if_neg h]
      rfl
  · rw [if_pos hk]
    rfl

/-- A reply that may be claimed and is not stale is decoded into the slot. -/
theorem stashReply_accepted {d : OpDevice} {r : OpReply} (hc : claims d r = true)
    (hs : stale d r = false) : ∃ data, stashReply d r =
        { stashText d r with
          reply := decoded d.seqPending r, replyData := data, replyValid := true } ∧
      cells data 0 ((decodedData d.seqPending r).getD []).length =
        (decodedData d.seqPending r).getD [] := by
  unfold stashReply
  rw [if_pos hc]
  simp only
  by_cases hraw : r.kind = .init ∧ r.bytes ≠ []
  · rw [if_pos hraw, stashRaw_own hs hraw.1 hraw.2]
    refine ⟨_, rfl, ?_⟩
    unfold decodedData
    rw [if_neg fun hx => hx hraw.1, if_pos hraw.2]
    exact cells_store _ _
  rw [if_neg hraw]
  by_cases hkeys : r.kind = .init ∧ r.tail ≠ []
  · have hb : r.bytes = [] := Classical.byContradiction fun hx => hraw ⟨hkeys.1, hx⟩
    rw [if_pos hkeys, stashKeys_own hs hkeys.1 hb hkeys.2]
    exact ⟨_, rfl, cells_keyBytes d.replyData hb⟩
  · have hd : decodedData d.seqPending r = none := decodedData_none hraw hkeys
    rw [if_neg hkeys, hd]
    refine ⟨(stashText d r).replyData, ?_, rfl⟩
    rw [stashText_eq]
    unfold decoded
    rw [hd]

/-- Whether `reply_valid` is set does not depend on whether it was. -/
theorem accepts_eq (d : OpDevice) (r : OpReply) : accepts d r = (claims d r && !stale d r) := by
  have hc : claims { d with replyValid := false } r = claims d r := rfl
  have hs : stale { d with replyValid := false } r = stale d r := rfl
  unfold accepts
  cases h1 : claims d r with
  | false => rw [stashReply_refused (hc.trans h1)]; rfl
  | true =>
      cases h2 : stale d r with
      | true => rw [stashReply_stale (hc.trans h1) (hs.trans h2)]; rfl
      | false =>
          obtain ⟨data, e, -⟩ := stashReply_accepted (hc.trans h1) (hs.trans h2)
          rw [e]
          rfl

/-! ## 5. The exact condition -/

/-- An accepted reply is in the slot as its command will be given it. -/
theorem stashReply_accepts {d : OpDevice} {r : OpReply} (h : accepts d r = true) :
    Accepted d r (stashReply d r) := by
  rw [accepts_eq] at h
  obtain ⟨hc, hs⟩ := (Bool.and_eq_true _ _).mp h
  obtain ⟨data, e, hdata⟩ := stashReply_accepted hc (by simpa using hs)
  have htext := stashText_cells d r
  rw [e]
  refine ⟨rfl, rfl, htext, hdata, ?_, ?_, ?_⟩
  · show (stashText d r).seqPending = _
    rw [stashText_eq]
  · show (stashText d r).cmdVerb = _
    rw [stashText_eq]
  · show (stashText d r).cmdWaiting = _
    rw [stashText_eq]

/-- **When a discarded reply leaves the slot as it was.** `stash_reply` keeps its promise exactly
    unless the reply may be claimed and is the numbered init reply of another command, and the
    slot does not happen to hold that very reply with an empty text already. -/
theorem stashReply_settles (d : OpDevice) (r : OpReply) : Settles d r ↔
    (claims d r = true → stale d r = true →
      d.reply = { r with text := none } ∧ d.replyText 0 = 0) := by
  constructor
  · rintro ⟨-, hdisc⟩ hc hs
    have hacc : accepts d r = false := by rw [accepts_eq, hc, hs]; rfl
    have hu := hdisc hacc
    rw [stashReply_stale hc hs] at hu
    exact ⟨hu.reply.symm, (congrFun hu.replyText 0).symm⟩
  · intro h
    refine ⟨stashReply_accepts, ?_⟩
    intro hacc
    cases hc : claims d r with
    | false =>
        rw [stashReply_refused hc]
        exact ⟨rfl, rfl, rfl, rfl, rfl, rfl, rfl⟩
    | true =>
        have hs : stale d r = true := by
          rw [accepts_eq, hc] at hacc
          simpa using hacc
        obtain ⟨h1, h2⟩ := h hc hs
        rw [stashReply_stale hc hs]
        refine ⟨h1.symm, ?_, rfl, rfl, rfl, rfl, rfl⟩
        funext i
        show store d.replyText 0 [0] i = d.replyText i
        rw [store_zero]
        cases i with
        | zero => exact h2.symm
        | succ n => rfl

/-- The reply of a `FAST_INIT` numbered 300. -/
def initReply : OpReply :=
  { kind := .init, channel := 4, a := 3, tail := [300], data := some [0xC1, 0xEF, 0x8F] }

/-- The reply of the `FAST_INIT` before it. -/
def staleInitReply : OpReply :=
  { kind := .init, channel := 4, a := 2, tail := [299], data := some [1, 2] }

/-- A device whose `FAST_INIT` numbered 300 waits. -/
def initWaiting : OpDevice :=
  { opened := true, cmdWaiting := true, seqPending := 300, cmdVerb := 0x79 }

/-- **A stale init reply just after the real one takes its place.** The second is discarded, and
    the caller is given its bytes. -/
theorem stashReply_replaced : ¬∀ (d : OpDevice) (r : OpReply), Settles d r := by
  intro h
  have hacc : accepts (stashReply initWaiting initReply) staleInitReply = false := by decide
  have hkept := ((h _ _).2 hacc).reply
  exact absurd (congrArg OpReply.tail hkept) (by decide)

end Openport
