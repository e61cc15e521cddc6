/-
  File:      Openport/Transport/Posted.lean
  Subject:   The reads of the USB pipe: in every state between `rx_start` and
             `rx_stop` all 256 are posted, or an error waits to be reported.

  `Posted` is the invariant. The loop that posts the idle reads again ends with
  the first submission that fails, so the reads behind it stay idle with the
  error set (`submitLoop_idle`): the next `usb_read` reports it and tries again.
-/
import Openport.Transport.Usb

namespace Openport.Usb

/-! ## 1. Counting the posted reads -/

/-- How many slots are flying. -/
def OpUsb.numFlying (u : OpUsb) : Nat :=
  (Finset.univ.filter fun i : Fin usbRxTransfers => u.flying i = true).card

/-- `rx_flying` counts the slots that are flying. -/
def Counted (u : OpUsb) : Prop := u.rxFlying.toNat = u.numFlying

theorem OpUsb.numFlying_le (u : OpUsb) : u.numFlying ≤ 256 := by
  have h := Finset.card_le_univ (Finset.univ.filter fun i : Fin usbRxTransfers => u.flying i = true)
  rwa [Fintype.card_fin] at h

theorem numFlying_set {u : OpUsb} {i : Fin usbRxTransfers} (h : u.flying i = false) :
    (u.setFlying i true).numFlying = u.numFlying + 1 := by
  have hset : (Finset.univ.filter fun j => (u.setFlying i true).flying j = true) =
      insert i (Finset.univ.filter fun j => u.flying j = true) := by
    ext j
    by_cases hj : j = i
    · subst hj
      simp
    · simp [OpUsb.setFlying_other u true hj, hj]
  unfold OpUsb.numFlying
  rw [hset, Finset.card_insert_of_notMem (by simp [h])]

theorem numFlying_clear {u : OpUsb} {i : Fin usbRxTransfers} (h : u.flying i = true) :
    (u.setFlying i false).numFlying + 1 = u.numFlying := by
  have hset : (Finset.univ.filter fun j => (u.setFlying i false).flying j = true) =
      (Finset.univ.filter fun j => u.flying j = true).erase i := by
    ext j
    by_cases hj : j = i
    · subst hj
      simp
    · simp [OpUsb.setFlying_other u false hj, hj]
  have hmem : i ∈ Finset.univ.filter fun j => u.flying j = true := by simp [h]
  unfold OpUsb.numFlying
  rw [hset]
  exact Finset.card_erase_add_one hmem

/-! ## 2. One submission -/

@[simp] theorem rxFail_flying (u : OpUsb) (st : OpStatus) : (rxFail u st).flying = u.flying := by
  unfold rxFail
  split <;> rfl

@[simp] theorem rxFail_rxFlying (u : OpUsb) (st : OpStatus) :
    (rxFail u st).rxFlying = u.rxFlying := by
  unfold rxFail
  split <;> rfl

@[simp] theorem rxFail_stopping (u : OpUsb) (st : OpStatus) :
    (rxFail u st).stopping = u.stopping := by
  unfold rxFail
  split <;> rfl

theorem rxFail_error (u : OpUsb) (st : OpStatus) :
    (rxFail u st).rxError = if u.rxError = .noDevice then .noDevice else st := by
  unfold rxFail
  by_cases h : u.rxError = .noDevice
  · rw [if_neg (fun hne => hne h), if_pos h, h]
  · rw [if_pos h, if_neg h]

theorem rxFail_ne_ok (u : OpUsb) {st : OpStatus} (h : st ≠ .ok) : (rxFail u st).rxError ≠ .ok := by
  rw [rxFail_error]
  split
  · exact fun e => (nomatch e)
  · exact h

theorem rxSubmit_success (u : OpUsb) (i : Fin usbRxTransfers) :
    rxSubmit u i .success = { u.setFlying i true with rxFlying := u.rxFlying + 1 } := if_pos rfl

theorem rxSubmit_failed (u : OpUsb) (i : Fin usbRxTransfers) {r : LibusbResult}
    (h : r ≠ .success) : rxSubmit u i r = rxFail u (fromLibusb r) := if_neg h

theorem rxSubmit_failed_error (u : OpUsb) (i : Fin usbRxTransfers) {r : LibusbResult}
    (h : r ≠ .success) : (rxSubmit u i r).rxError ≠ .ok := by
  rw [rxSubmit_failed u i h]
  exact rxFail_ne_ok u fun e => h (fromLibusb_eq_ok.mp e)

/-- What the posting of reads leaves alone: the ring, and whether `rx_stop` has begun. -/
structure Apart (u v : OpUsb) : Prop where
  ring : u.ring = v.ring
  ringHead : u.ringHead = v.ringHead
  ringUsed : u.ringUsed = v.ringUsed
  ringDropped : u.ringDropped = v.ringDropped
  stopping : u.stopping = v.stopping

theorem Apart.refl (u : OpUsb) : Apart u u := ⟨rfl, rfl, rfl, rfl, rfl⟩

theorem Apart.trans {u v w : OpUsb} (h : Apart u v) (h' : Apart v w) : Apart u w :=
  ⟨h.ring.trans h'.ring, h.ringHead.trans h'.ringHead, h.ringUsed.trans h'.ringUsed,
    h.ringDropped.trans h'.ringDropped, h.stopping.trans h'.stopping⟩

theorem rxFail_apart (u : OpUsb) (st : OpStatus) : Apart u (rxFail u st) := by
  unfold rxFail
  split
  · exact ⟨rfl, rfl, rfl, rfl, rfl⟩
  · exact Apart.refl u

theorem rxSubmit_apart (u : OpUsb) (i : Fin usbRxTransfers) (r : LibusbResult) :
    Apart u (rxSubmit u i r) := by
  unfold rxSubmit
  split
  · exact ⟨rfl, rfl, rfl, rfl, rfl⟩
  · exact rxFail_apart u _

/-- Bytes put into the ring leave the slots alone. -/
theorem ringPut_slots (u : OpUsb) (src : Bytes) : (ringPut u src).flying = u.flying ∧
    (ringPut u src).rxFlying = u.rxFlying ∧ (ringPut u src).rxError = u.rxError ∧
    (ringPut u src).stopping = u.stopping := by
  unfold ringPut
  split <;> exact ⟨rfl, rfl, rfl, rfl⟩

/-- A submission of an idle slot keeps the count. -/
theorem rxSubmit_counted {u : OpUsb} {i : Fin usbRxTransfers} (h : Counted u)
    (hi : u.flying i = false) (r : LibusbResult) : Counted (rxSubmit u i r) := by
  have hc : u.rxFlying.toNat = u.numFlying := h
  by_cases hr : r = .success
  · rw [hr, rxSubmit_success]
    show (u.rxFlying + 1).toNat = (u.setFlying i true).numFlying
    have hle := (u.setFlying i true).numFlying_le
    have hset := numFlying_set hi
    have hone : (1 : UInt32).toNat = 1 := rfl
    rw [hset, UInt32.toNat_add, hc, hone]
    omega
  · rw [rxSubmit_failed u i hr]
    unfold Counted OpUsb.numFlying
    rw [rxFail_rxFlying, rxFail_flying]
    exact h

/-- A submission posts its slot or leaves an error; the other slots stay as they are. -/
theorem rxSubmit_flying (u : OpUsb) (i : Fin usbRxTransfers) (r : LibusbResult) :
    ((rxSubmit u i r).rxError = .ok → (rxSubmit u i r).flying i = true) ∧
      ∀ j, j ≠ i → (rxSubmit u i r).flying j = u.flying j := by
  by_cases hr : r = .success
  · rw [hr, rxSubmit_success]
    exact ⟨fun _ => u.setFlying_same i true, fun j hj => u.setFlying_other true hj⟩
  · refine ⟨fun e => absurd e (rxSubmit_failed_error u i hr), ?_⟩
    intro j _
    rw [rxSubmit_failed u i hr, rxFail_flying]

/-- A lost device stays lost. -/
theorem rxSubmit_noDevice {u : OpUsb} (h : u.rxError = .noDevice) (i : Fin usbRxTransfers)
    (r : LibusbResult) : (rxSubmit u i r).rxError = .noDevice := by
  by_cases hr : r = .success
  · rw [hr, rxSubmit_success]
    exact h
  · rw [rxSubmit_failed u i hr, rxFail_error, if_pos h]

/-! ## 3. The loop over the slots -/

section Loop

variable {due : OpUsb → Fin usbRxTransfers → Bool} {submit : Fin usbRxTransfers → LibusbResult}

/-- The loop does nothing once an error is set. -/
theorem submitLoop_error {u : OpUsb} (h : u.rxError ≠ .ok) (is : List (Fin usbRxTransfers)) :
    submitLoop due submit is u = u := by
  cases is with
  | nil => rfl
  | cons i is => exact if_neg h

theorem submitLoop_cons {u : OpUsb} (h : u.rxError = .ok) (i : Fin usbRxTransfers)
    (is : List (Fin usbRxTransfers)) : submitLoop due submit (i :: is) u =
      submitLoop due submit is (if due u i then rxSubmit u i (submit i) else u) := if_pos h

end Loop

theorem idle_true {u : OpUsb} {i : Fin usbRxTransfers} : idle u i = true ↔ u.flying i = false := by
  unfold idle
  cases u.flying i <;> simp

variable (submit : Fin usbRxTransfers → LibusbResult)

/-- One turn of the loop for a slot that is flying already. -/
theorem submitLoop_flying {u : OpUsb} (h : u.rxError = .ok) {i : Fin usbRxTransfers}
    (hi : u.flying i = true) (is : List (Fin usbRxTransfers)) :
    submitLoop idle submit (i :: is) u = submitLoop idle submit is u := by
  have hdue : ¬idle u i = true := by
    rw [idle_true, hi]
    exact fun e => (nomatch e)
  rw [submitLoop_cons h, if_neg hdue]

/-- One turn of the loop for an idle slot. -/
theorem submitLoop_post {u : OpUsb} (h : u.rxError = .ok) {i : Fin usbRxTransfers}
    (hi : u.flying i = false) (is : List (Fin usbRxTransfers)) :
    submitLoop idle submit (i :: is) u = submitLoop idle submit is (rxSubmit u i (submit i)) := by
  rw [submitLoop_cons h, if_pos (idle_true.mpr hi)]

/-- **The loop over the idle slots**: every one is posted and no error set, or the first whose
    submission fails sets the error and every slot from it on stays as it was. -/
theorem submitLoop_idle {is : List (Fin usbRxTransfers)} (hn : is.Nodup) {u : OpUsb}
    (h : u.rxError = .ok) :
    ((submitLoop idle submit is u).rxError = .ok ∧
      (∀ j ∈ is, u.flying j = false → submit j = .success) ∧
      ∀ j, j ∈ is ∨ u.flying j = true → (submitLoop idle submit is u).flying j = true) ∨
    ∃ pre i post, is = pre ++ i :: post ∧ u.flying i = false ∧ submit i ≠ .success ∧
      (submitLoop idle submit is u).rxError = fromLibusb (submit i) ∧
      (∀ j ∈ pre, (submitLoop idle submit is u).flying j = true) ∧
      ∀ j, j ∉ pre → (submitLoop idle submit is u).flying j = u.flying j := by
  induction is generalizing u with
  | nil =>
      exact .inl ⟨h, fun j hj => absurd hj List.not_mem_nil,
        fun j hj => hj.elim (fun hm => absurd hm List.not_mem_nil) id⟩
  | cons i is ih =>
      obtain ⟨hnot, hn'⟩ := List.nodup_cons.mp hn
      by_cases hi : u.flying i = true
      · rw [submitLoop_flying submit h hi]
        rcases ih hn' h with ⟨hok, htook, hall⟩ | ⟨pre, k, post, rfl, hk, hs, he, hpre, hrest⟩
        · refine .inl ⟨hok, fun j hj hjf => ?_, fun j hj => hall j ?_⟩
          · rcases List.mem_cons.mp hj with rfl | hm
            · rw [hi] at hjf
              cases hjf
            · exact htook j hm hjf
          rcases hj with hm | hf
          · rcases List.mem_cons.mp hm with rfl | hm
            · exact .inr hi
            · exact .inl hm
          · exact .inr hf
        · have hkeep := hrest i fun hm => hnot (List.mem_append_left _ hm)
          refine .inr ⟨i :: pre, k, post, rfl, hk, hs, he, ?_, ?_⟩
          · intro j hj
            rcases List.mem_cons.mp hj with rfl | hj
            · rw [hkeep, hi]
            · exact hpre j hj
          · intro j hj
            exact hrest j fun hm => hj (List.mem_cons_of_mem _ hm)
      · have hf : u.flying i = false := Bool.eq_false_iff.mpr hi
        rw [submitLoop_post submit h hf]
        by_cases hr : submit i = .success
        · have hs : rxSubmit u i (submit i) =
              { u.setFlying i true with rxFlying := u.rxFlying + 1 } := by
            rw [hr, rxSubmit_success]
          have hok : (rxSubmit u i (submit i)).rxError = .ok := by
            rw [hs]
            exact h
          obtain ⟨hposted, hother⟩ := rxSubmit_flying u i (submit i)
          rcases ih hn' hok with
            ⟨hend, htook, hall⟩ | ⟨pre, k, post, rfl, hk, hfail, he, hpre, hrest⟩
          · refine .inl ⟨hend, fun j hj hjf => ?_, fun j hj => hall j ?_⟩
            · rcases List.mem_cons.mp hj with rfl | hm
              · exact hr
              · refine htook j hm ?_
                rw [hother j fun e => hnot (by rw [← e]; exact hm)]
                exact hjf
            by_cases hji : j = i
            · rw [hji]
              exact .inr (hposted hok)
            · rcases hj with hm | hj
              · exact .inl ((List.mem_cons.mp hm).resolve_left hji)
              · rw [hother j hji]
                exact .inr hj
          · have hki : k ≠ i := fun e => hnot (by rw [← e]; simp)
            have hkeep := hrest i fun hm => hnot (List.mem_append_left _ hm)
            rw [hother k hki] at hk
            refine .inr ⟨i :: pre, k, post, rfl, hk, hfail, he, ?_, ?_⟩
            · intro j hj
              rcases List.mem_cons.mp hj with rfl | hj
              · rw [hkeep, hposted hok]
              · exact hpre j hj
            · intro j hj
              rw [hrest j fun hm => hj (List.mem_cons_of_mem _ hm)]
              exact hother j fun e => hj (by rw [e]; exact List.mem_cons_self)
        · -- the first failure: nothing behind it is tried
          rw [submitLoop_error (rxSubmit_failed_error u i hr), rxSubmit_failed u i hr]
          refine .inr ⟨[], i, is, rfl, hf, hr, ?_, fun j hj => absurd hj List.not_mem_nil,
            ?_⟩
          · rw [rxFail_error, if_neg (by rw [h]; exact fun e => (nomatch e))]
          · intro j _
            rw [rxFail_flying]

/-- The loop keeps the count. -/
theorem submitLoop_counted {is : List (Fin usbRxTransfers)} {u : OpUsb} (h : Counted u) :
    Counted (submitLoop idle submit is u) := by
  induction is generalizing u with
  | nil => exact h
  | cons i is ih =>
      by_cases he : u.rxError = .ok
      · by_cases hi : u.flying i = true
        · rw [submitLoop_flying submit he hi]
          exact ih h
        · have hf : u.flying i = false := Bool.eq_false_iff.mpr hi
          rw [submitLoop_post submit he hf]
          exact ih (rxSubmit_counted h hf (submit i))
      · rw [submitLoop_error he]
        exact h

/-- The loop does not touch the ring, and does not end the session. -/
theorem submitLoop_apart (due : OpUsb → Fin usbRxTransfers → Bool)
    (is : List (Fin usbRxTransfers)) (u : OpUsb) : Apart u (submitLoop due submit is u) := by
  induction is generalizing u with
  | nil => exact Apart.refl u
  | cons i is ih =>
      by_cases he : u.rxError = .ok
      · rw [submitLoop_cons he]
        by_cases hd : due u i = true
        · rw [if_pos hd]
          exact (rxSubmit_apart u i (submit i)).trans (ih _)
        · rw [if_neg hd]
          exact ih u
      · rw [submitLoop_error he]
        exact Apart.refl u

/-- On slots that are all idle the loop of `rx_start` is that of `usb_read`. -/
theorem submitLoop_fresh {is : List (Fin usbRxTransfers)} (hn : is.Nodup) {u : OpUsb}
    (h : ∀ i ∈ is, u.flying i = false) :
    submitLoop (fun _ _ => true) submit is u = submitLoop idle submit is u := by
  induction is generalizing u with
  | nil => rfl
  | cons i is ih =>
      obtain ⟨hnot, hn'⟩ := List.nodup_cons.mp hn
      by_cases he : u.rxError = .ok
      · rw [submitLoop_cons he, if_pos rfl,
          submitLoop_post submit he (h i List.mem_cons_self)]
        refine ih hn' ?_
        intro j hj
        rw [(rxSubmit_flying u i (submit i)).2 j fun e => hnot (by rw [← e]; exact hj)]
        exact h j (List.mem_cons_of_mem _ hj)
      · rw [submitLoop_error he, submitLoop_error he]

/-- The slots before one in the loop's order are the ones of a smaller index. -/
theorem mem_finRange_pre {n : Nat} {pre post : List (Fin n)} {i : Fin n}
    (h : List.finRange n = pre ++ i :: post) (j : Fin n) : j ∈ pre ↔ j < i := by
  have hs : (pre ++ i :: post).Pairwise (· < ·) := by
    rw [← h]
    exact List.pairwise_lt_finRange n
  obtain ⟨-, htail, hcross⟩ := List.pairwise_append.mp hs
  refine ⟨fun hj => hcross j hj i List.mem_cons_self, ?_⟩
  intro hlt
  have hmem : j ∈ pre ++ i :: post := by
    rw [← h]
    exact List.mem_finRange j
  rcases List.mem_append.mp hmem with hp | hp
  · exact hp
  rcases List.mem_cons.mp hp with rfl | hp
  · exact absurd hlt (lt_irrefl j)
  · exact absurd hlt (lt_asymm ((List.pairwise_cons.mp htail).1 j hp))

/-! ## 4. The invariant -/

/-- Every read is posted, or an error waits to be reported. -/
structure Posted (u : OpUsb) : Prop where
  counted : Counted u
  running : u.stopping = false
  posted : u.rxError = .ok → ∀ i, u.flying i = true

/-- The loop over all slots posts every idle one, or ends with an error set. -/
theorem submitLoop_posted {u : OpUsb} (hc : Counted u) (hs : u.stopping = false)
    (h : u.rxError = .ok) :
    Posted (submitLoop idle submit (List.finRange usbRxTransfers) u) := by
  refine ⟨submitLoop_counted submit hc, ?_, ?_⟩
  · rw [← (submitLoop_apart submit idle _ u).stopping]
    exact hs
  · intro hok i
    rcases submitLoop_idle submit (List.nodup_finRange _) h with
      ⟨-, -, hall⟩ | ⟨_, k, _, _, _, hf, he, _⟩
    · exact hall i (.inl (List.mem_finRange i))
    · rw [he] at hok
      exact absurd (fromLibusb_eq_ok.mp hok) hf

/-- `rx_start` posts every read when it returns `OP_OK`. -/
theorem rxStart_posted {env : RxStartEnv} {u : OpUsb} (h : rxStart env {} = (.ok, u)) :
    Posted u ∧ u.rxError = .ok := by
  unfold rxStart at h
  split at h
  · exact absurd (congrArg Prod.fst h) (fun e => (nomatch e))
  rename_i m _
  split at h
  · exact absurd (congrArg Prod.fst h) (fun e => (nomatch e))
  split at h
  · exact absurd (congrArg Prod.fst h) (fun e => (nomatch e))
  obtain ⟨he, rfl⟩ := Prod.mk.inj h
  rw [submitLoop_fresh env.submit (List.nodup_finRange _) fun i _ => rfl] at he ⊢
  refine ⟨submitLoop_posted env.submit ?_ rfl rfl, he⟩
  show (0 : UInt32).toNat = _
  unfold OpUsb.numFlying
  rw [Finset.filter_false_of_mem fun i _ => (fun e => (nomatch e))]
  rfl

/-- A callback leaves the pipe posted. -/
theorem rxDone_posted {u : OpUsb} (h : Posted u) {i : Fin usbRxTransfers}
    (hi : u.flying i = true) {st : TransferStatus} (hst : st ≠ .cancelled) (r : LibusbResult) :
    Posted (rxDone u i st r) := by
  have hclear := numFlying_clear hi
  have hcount : u.rxFlying.toNat = u.numFlying := h.counted
  have hdown : (u.rxFlying - 1).toNat = (u.setFlying i false).numFlying := by
    have hle := u.numFlying_le
    have hone : (1 : UInt32).toNat = 1 := rfl
    rw [UInt32.toNat_sub_of_le _ _ (UInt32.le_iff_toNat_le.mpr (by omega)), hcount, hone]
    omega
  unfold rxDone
  generalize hv : ({ u.setFlying i false with
    rxFlying := u.rxFlying - 1, rxBatch := u.rxBatch + 1 } : OpUsb) = v
  have hvc : Counted v := by
    rw [← hv]
    exact hdown
  have hvf : ∀ j, v.flying j = (u.setFlying i false).flying j := fun j => by rw [← hv]
  have hvs : v.stopping = false := by
    rw [← hv]
    exact h.running
  have hve : v.rxError = u.rxError := by rw [← hv]; rfl
  have hfailed : ∀ e : OpStatus, e ≠ .ok → Posted (rxFail v e) := fun e he =>
    ⟨by unfold Counted OpUsb.numFlying; rw [rxFail_rxFlying, rxFail_flying]; exact hvc,
      by rw [rxFail_stopping]; exact hvs, fun hok => absurd hok (rxFail_ne_ok v he)⟩
  cases st with
  | cancelled => exact absurd rfl hst
  | noDevice => exact hfailed _ (fun e => (nomatch e))
  | other => exact hfailed _ (fun e => (nomatch e))
  | completed data =>
      show Posted (if !(if 0 < data.length then ringPut v data else v).stopping then _ else _)
      generalize hw : (if 0 < data.length then ringPut v data else v) = w
      have hsame : w.flying = v.flying ∧ w.rxFlying = v.rxFlying ∧ w.rxError = v.rxError ∧
          w.stopping = v.stopping := by
        rw [← hw]
        split
        · exact ringPut_slots v data
        · exact ⟨rfl, rfl, rfl, rfl⟩
      obtain ⟨hwf, hwn, hwe, hws⟩ := hsame
      have hwi : w.flying i = false := by
        rw [hwf, hvf, OpUsb.setFlying_same]
      have hwc : Counted w := by
        unfold Counted OpUsb.numFlying
        rw [hwn, hwf]
        exact hvc
      rw [hws, hvs, Bool.not_false, if_pos rfl]
      obtain ⟨hself, hother⟩ := rxSubmit_flying w i r
      refine ⟨rxSubmit_counted hwc hwi r, ?_, ?_⟩
      · rw [← (rxSubmit_apart w i r).stopping, hws, hvs]
      · intro hok j
        by_cases hj : j = i
        · rw [hj]
          exact hself hok
        · rw [hother j hj, hwf, hvf, OpUsb.setFlying_other u false hj]
          refine h.posted ?_ j
          -- no error was waiting: a submission clears none
          by_cases hr : r = .success
          · rw [hr, rxSubmit_success] at hok
            rw [← hve, ← hwe]
            exact hok
          · exact absurd hok (rxSubmit_failed_error w i hr)

/-! ## 5. `usb_read` -/

/-- With bytes in the ring `usb_read` does not look at the reads. -/
theorem usbRead_slots {u : OpUsb} {cap : Nat} (h : cap = 0 ∨ 0 < u.ringUsed ∨ u.rxError = .ok ∨
    u.rxError = .noDevice) :
    (usbRead u cap submit).usb.flying = u.flying ∧
    (usbRead u cap submit).usb.rxFlying = u.rxFlying ∧
      (usbRead u cap submit).usb.rxError = u.rxError ∧
      (usbRead u cap submit).usb.stopping = u.stopping := by
  unfold usbRead
  by_cases hc : cap = 0
  · rw [if_pos hc]
    exact ⟨rfl, rfl, rfl, rfl⟩
  rw [if_neg hc]
  by_cases hr : 0 < u.ringUsed
  · rw [if_pos hr]
    exact ⟨rfl, rfl, rfl, rfl⟩
  rw [if_neg hr]
  by_cases he : u.rxError = .ok
  · rw [if_neg fun hne => hne he]
    exact ⟨rfl, rfl, rfl, rfl⟩
  · rw [if_pos he, if_neg fun hne => hne (((h.resolve_left hc).resolve_left hr).resolve_left he)]
    exact ⟨rfl, rfl, rfl, rfl⟩

/-- The read that reports an error the pipe can recover from. -/
theorem usbRead_recovers {u : OpUsb} {cap : Nat} (hc : 0 < cap) (hr : u.ringUsed = 0)
    (he : u.rxError ≠ .ok) (hd : u.rxError ≠ .noDevice) :
    (usbRead u cap submit).status = u.rxError ∧
    (usbRead u cap submit).usb =
      { submitLoop idle submit (List.finRange usbRxTransfers) { u with rxError := .ok } with
        ringDropped := 0 } := by
  unfold usbRead
  rw [if_neg (by omega), if_neg (by omega : ¬0 < u.ringUsed), if_pos he, if_pos hd]
  exact ⟨rfl, rfl⟩

theorem usbRead_posted {u : OpUsb} (h : Posted u) (cap : Nat) :
    Posted (usbRead u cap submit).usb := by
  by_cases hs : cap = 0 ∨ 0 < u.ringUsed ∨ u.rxError = .ok ∨ u.rxError = .noDevice
  · obtain ⟨hf, hn, he, hst⟩ := usbRead_slots submit hs
    refine ⟨?_, by rw [hst]; exact h.running, ?_⟩
    · unfold Counted OpUsb.numFlying
      rw [hn, hf]
      exact h.counted
    · intro hok i
      rw [he] at hok
      rw [hf]
      exact h.posted hok i
  · simp only [not_or, Nat.not_lt, Nat.le_zero] at hs
    obtain ⟨hc, hr, he, hd⟩ := hs
    rw [(usbRead_recovers submit (Nat.pos_of_ne_zero hc) hr he hd).2]
    have hl := submitLoop_posted (u := { u with rxError := .ok }) submit h.counted h.running rfl
    exact ⟨hl.counted, hl.running, hl.posted⟩

/-- **What the read that reports a recoverable error leaves**: every read posted and no error,
    or the first idle slot whose submission failed, with that error set, the slots before it
    posted and the ones from it on as they were. -/
theorem usbRead_reposts {u : OpUsb} {cap : Nat} (hc : 0 < cap) (hr : u.ringUsed = 0)
    (he : u.rxError ≠ .ok) (hd : u.rxError ≠ .noDevice) :
    (usbRead u cap submit).status = u.rxError ∧
    (((usbRead u cap submit).usb.rxError = .ok ∧
        (∀ j, u.flying j = false → submit j = .success) ∧
        ∀ j, (usbRead u cap submit).usb.flying j = true) ∨
      ∃ i, u.flying i = false ∧ submit i ≠ .success ∧
        (usbRead u cap submit).usb.rxError = fromLibusb (submit i) ∧
        (usbRead u cap submit).usb.rxError ≠ .ok ∧
        (∀ j, j < i → (usbRead u cap submit).usb.flying j = true) ∧
        ∀ j, i ≤ j → (usbRead u cap submit).usb.flying j = u.flying j) := by
  obtain ⟨hstatus, husb⟩ := usbRead_recovers submit hc hr he hd
  refine ⟨hstatus, ?_⟩
  rw [husb]
  rcases submitLoop_idle (u := { u with rxError := .ok }) submit (List.nodup_finRange _) rfl with
    ⟨hok, htook, hall⟩ | ⟨pre, i, post, hsplit, hi, hf, hset, hpre, hrest⟩
  · exact .inl ⟨hok, fun j => htook j (List.mem_finRange j),
      fun j => hall j (.inl (List.mem_finRange j))⟩
  · refine .inr ⟨i, hi, hf, hset, ?_, ?_, ?_⟩
    · intro hok
      have hok' : fromLibusb (submit i) = .ok := hset.symm.trans hok
      exact hf (fromLibusb_eq_ok.mp hok')
    · intro j hj
      exact hpre j ((mem_finRange_pre hsplit j).mpr hj)
    · intro j hj
      exact hrest j fun hm => absurd ((mem_finRange_pre hsplit j).mp hm) (not_lt.mpr hj)

/-! ## 6. Every run -/

theorem step_posted {u : OpUsb} (h : Posted u) {op : Op} (ha : Allowed u op) :
    Posted (u.step op) := by
  cases op with
  | done i st r => exact rxDone_posted h ha.1 ha.2 r
  | read cap submit => exact usbRead_posted submit h cap
  | events => exact ⟨h.counted, h.running, h.posted⟩

/-- A lost device is not forgotten by any step. -/
theorem step_noDevice {u : OpUsb} (h : u.rxError = .noDevice) (op : Op) :
    (u.step op).rxError = .noDevice := by
  have hfail : ∀ (v : OpUsb) (st : OpStatus), v.rxError = .noDevice →
      (rxFail v st).rxError = .noDevice := fun v st hv => by rw [rxFail_error, if_pos hv]
  cases op with
  | events => exact h
  | read cap submit =>
      show (usbRead u cap submit).usb.rxError = _
      rw [(usbRead_slots submit (.inr (.inr (.inr h)))).2.2.1]
      exact h
  | done i st r =>
      cases st with
      | cancelled => exact h
      | noDevice => exact hfail _ _ h
      | other => exact hfail _ _ h
      | completed data =>
          show (rxDone u i (.completed data) r).rxError = _
          unfold rxDone
          generalize hv : ({ u.setFlying i false with
            rxFlying := u.rxFlying - 1, rxBatch := u.rxBatch + 1 } : OpUsb) = v
          have hve : v.rxError = .noDevice := by
            rw [← hv]
            exact h
          have hput : (if 0 < data.length then ringPut v data else v).rxError = .noDevice := by
            split
            · rw [(ringPut_slots v data).2.2.1, hve]
            · exact hve
          simp only
          generalize (if 0 < data.length then ringPut v data else v) = w at hput ⊢
          split
          · exact rxSubmit_noDevice hput i r
          · exact hput

theorem reaches_posted {u v : OpUsb} (h : Reaches u v) (hu : Posted u) : Posted v := by
  induction h with
  | refl => exact hu
  | step op _ ha ih => exact step_posted ih ha

theorem reaches_noDevice {u v : OpUsb} (h : Reaches u v) (hu : u.rxError = .noDevice) :
    v.rxError = .noDevice := by
  induction h with
  | refl => exact hu
  | step op _ _ ih => exact step_noDevice ih op

theorem reachable_step {u : OpUsb} (h : Reachable u) (op : Op) (ha : Allowed u op) :
    Reachable (u.step op) := by
  obtain ⟨env, v, hs, hr⟩ := h
  exact ⟨env, v, hs, .step op hr ha⟩

/-- **Every read is posted or an error waits to be reported**, in every state between
    `rx_start` and `rx_stop`. -/
theorem reachable_posted {u : OpUsb} (h : Reachable u) :
    u.rxFlying.toNat = u.numFlying ∧
    (u.rxError = .ok → ∀ i, u.flying i = true) ∧
    (∀ cap submit, 0 < cap → u.ringUsed = 0 → u.rxError ≠ .ok → u.rxError ≠ .noDevice →
      (usbRead u cap submit).status = u.rxError ∧
      (((usbRead u cap submit).usb.rxError = .ok ∧
          (∀ j, u.flying j = false → submit j = .success) ∧
          ∀ j, (usbRead u cap submit).usb.flying j = true) ∨
        ∃ i, u.flying i = false ∧ submit i ≠ .success ∧
          (usbRead u cap submit).usb.rxError = fromLibusb (submit i) ∧
          (usbRead u cap submit).usb.rxError ≠ .ok ∧
          (∀ j, j < i → (usbRead u cap submit).usb.flying j = true) ∧
          ∀ j, i ≤ j → (usbRead u cap submit).usb.flying j = u.flying j)) ∧
    (u.rxError = .noDevice → ∀ v, Reaches u v → v.rxError = .noDevice) := by
  obtain ⟨env, v, hs, hr⟩ := h
  have hp := reaches_posted hr (rxStart_posted hs).1
  exact ⟨hp.counted, hp.posted, fun cap submit hc hu he hd => usbRead_reposts submit hc hu he hd,
    fun hd w hw => reaches_noDevice hw hd⟩

/-! ## 7. A pipe whose second read is not tried again -/

/-- A start in which libusb takes every read. -/
def kStart : RxStartEnv :=
  { ring := some fun _ => 0, transfers := true, events := true, submit := fun _ => .success }

/-- `rx_start` where nothing but a submission can fail. -/
theorem rxStart_eq (m : Lib.Ring.Mem UInt8) (u : OpUsb) :
    rxStart { ring := some m, transfers := true, events := true, submit := submit } u =
      ((submitLoop (fun _ _ => true) submit (List.finRange usbRxTransfers)
          { u with ring := m }).rxError,
        submitLoop (fun _ _ => true) submit (List.finRange usbRxTransfers) { u with ring := m }) :=
  rfl

/-- It posts every read. -/
theorem kStart_starts : ∃ u, rxStart kStart {} = (.ok, u) ∧ u.ringUsed = 0 := by
  have hloop := submitLoop_fresh (fun _ => .success) (List.nodup_finRange usbRxTransfers)
    (u := { ring := fun _ => 0 }) fun i _ => rfl
  have hfree := submitLoop_apart (fun _ => .success) (fun _ _ => true)
    (List.finRange usbRxTransfers) { ring := fun _ => 0 }
  have hidle := submitLoop_idle (fun _ => .success) (List.nodup_finRange usbRxTransfers)
    (u := { ring := fun _ => 0 }) rfl
  rw [← hloop] at hidle
  unfold kStart
  rw [rxStart_eq]
  generalize submitLoop (fun _ _ => true) (fun _ => LibusbResult.success)
    (List.finRange usbRxTransfers) { ring := fun _ => 0 } = u at hfree hidle ⊢
  refine ⟨u, ?_, hfree.ringUsed.symm⟩
  rcases hidle with ⟨hok, -, -⟩ | ⟨_, _, _, _, _, hf, _⟩
  · rw [hok]
  · exact absurd rfl hf

/-- A read that ends in an error leaves its slot idle and the error set. -/
theorem step_failed {u : OpUsb} (h : Reachable u) {i : Fin usbRxTransfers}
    (hi : u.flying i = true) (hd : u.rxError ≠ .noDevice) :
    ∃ v, Reachable v ∧ v.ringUsed = u.ringUsed ∧ v.rxError = .io ∧
      v.flying = (u.setFlying i false).flying := by
  refine ⟨u.step (.done i .other .success),
    reachable_step h (.done i .other .success) ⟨hi, (fun e => (nomatch e))⟩, ?_, ?_, ?_⟩
  · exact (rxFail_apart _ .io).ringUsed.symm
  · exact (rxFail_error _ .io).trans (if_neg hd)
  · exact rxFail_flying _ .io

/-- A pipe whose first two reads ended in an error nobody has reported yet. -/
theorem reachable_twoFailed : ∃ u, Reachable u ∧ u.ringUsed = 0 ∧ u.rxError = .io ∧
    u.flying 0 = false ∧ u.flying 1 = false := by
  obtain ⟨u, hs, hr⟩ := kStart_starts
  have hu : Reachable u := ⟨kStart, u, hs, .refl⟩
  obtain ⟨hp, he⟩ := rxStart_posted hs
  have hall := hp.posted he
  obtain ⟨v, hv, hvr, hve, hvf⟩ := step_failed hu (hall 0) (by rw [he]; exact fun e => (nomatch e))
  have hv1 : v.flying 1 = true := by
    rw [hvf, u.setFlying_other false (by decide : (1 : Fin usbRxTransfers) ≠ 0), hall 1]
  obtain ⟨w, hw, hwr, hwe, hwf⟩ := step_failed hv hv1 (by rw [hve]; exact fun e => (nomatch e))
  refine ⟨w, hw, by rw [hwr, hvr, hr], hwe, ?_, by rw [hwf, OpUsb.setFlying_same]⟩
  rw [hwf, v.setFlying_other false (by decide : (0 : Fin usbRxTransfers) ≠ 1), hvf,
    OpUsb.setFlying_same]

/-- The read that reports it posts both again when libusb takes them. -/
theorem reachable_posted_twoFailed : ∃ u, Reachable u ∧ u.rxFlying.toNat = u.numFlying ∧
    u.flying 0 = false ∧ (usbRead u 1 fun _ => .success).status = .io ∧
    (usbRead u 1 fun _ => .success).usb.flying 0 = true := by
  obtain ⟨u, hu, hr, he, h0, -⟩ := reachable_twoFailed
  obtain ⟨hcount, -, hread, -⟩ := reachable_posted hu
  obtain ⟨hst, hcase⟩ := hread 1 (fun _ => .success) Nat.zero_lt_one hr
    (by rw [he]; exact fun e => (nomatch e)) (by rw [he]; exact fun e => (nomatch e))
  refine ⟨u, hu, hcount, h0, by rw [hst, he], ?_⟩
  rcases hcase with ⟨-, -, hall⟩ | ⟨_, _, hf, _⟩
  · exact hall 0
  · exact absurd rfl hf

/-- **A slot whose own submission would be taken is left idle**: the loop ends with the slot
    before it. -/
theorem usbRead_leaves_idle : ∃ u cap submit i, Reachable u ∧ 0 < cap ∧ u.ringUsed = 0 ∧
    (usbRead u cap submit).status = .io ∧ u.flying i = false ∧ submit i = .success ∧
    (usbRead u cap submit).usb.flying i = false := by
  obtain ⟨u, hu, hr, he, h0, h1⟩ := reachable_twoFailed
  -- the device refuses the first read once more
  obtain ⟨hst, hcase⟩ := usbRead_reposts (fun i => if i = 0 then .busy else .success)
    Nat.zero_lt_one hr (by rw [he]; exact fun e => (nomatch e))
    (by rw [he]; exact fun e => (nomatch e))
  refine ⟨u, 1, fun i => if i = 0 then .busy else .success, 1, hu, Nat.zero_lt_one, hr,
    by rw [hst, he], h1, rfl, ?_⟩
  rcases hcase with ⟨-, htook, -⟩ | ⟨i, -, hf, -, -, -, hkeep⟩
  · exact absurd (htook 0 h0) (fun e => (nomatch e))
  · have hi : i = 0 := Classical.byContradiction fun hne => hf (if_neg hne)
    rw [hkeep 1 (by rw [hi]; exact Fin.zero_le _), h1]

end Openport.Usb
