/-
  File:      Openport/Device/Served.lean
  Subject:   The bytes of `reply_data` while a command waits: what the replies
             handed on to it write there, and what of it outlives the command.

  `reply.data` points into storage that every command shares. What a command leaves
  there is read after it has returned, so a later command may write over it
  (`cmdExchange_serves`).
-/
import Openport.Device.Stash
import Openport.Device.Heard

namespace Openport

open Lib.Ring

/-! ## 1. What is handed on, and to which device -/

/-- What the records of one read are handed to. -/
def handedAlong : OpDevice → List Handed → List (OpDevice × Handed)
  | _, [] => []
  | d, x :: xs => (d, x) :: handedAlong (handOn d x) xs

/-- Everything that wakeups of the reader hand on, each with the device it is handed to. -/
def along : OpDevice → List Arrival → List (OpDevice × Handed)
  | _, [] => []
  | d, .gone :: as => along (arrive d .gone) as
  | d, .read tmp :: as =>
    let r := readerRead d.accum tmp
    (if d.lost then [] else handedAlong { d with accum := r.2 } r.1) ++
      along (arrive d (.read tmp)) as

section Along

variable {σ : Type} (note : σ → OpDevice × Handed → σ) (I : σ → OpDevice → Prop)
  (C : OpDevice → Handed → Prop)
  (hframe : ∀ {s d} accum lost, I s d → I s { d with accum := accum, lost := lost })
  (hstep : ∀ {s d x}, I s d → C d x → I (note s (d, x)) (handOn d x))
include hstep

theorem handedAlong_keeps : ∀ (xs : List Handed) {s : σ} {d : OpDevice}, I s d →
    (∀ p ∈ handedAlong d xs, C p.1 p.2) →
    I ((handedAlong d xs).foldl note s) (xs.foldl handOn d)
  | [], _, _, hI, _ => hI
  | _ :: xs, _, _, hI, hC => by
      have h1 := hstep hI (hC _ List.mem_cons_self)
      exact handedAlong_keeps xs h1 fun p hp => hC p (List.mem_cons_of_mem _ hp)

include hframe

/-- **What each record handed on keeps, a run of the reader keeps**, beside what one notes of the
    records. -/
theorem along_keeps : ∀ (as : List Arrival) {s : σ} {d : OpDevice}, I s d →
    (∀ p ∈ along d as, C p.1 p.2) → I ((along d as).foldl note s) (arrivals d as)
  | [], _, _, hI, _ => hI
  | .gone :: as, _, d, hI, hC => along_keeps as (hframe d.accum true hI) hC
  | .read tmp :: as, s, d, hI, hC => by
      have hrest := fun p hp => hC p (List.mem_append_right _ hp)
      unfold along
      simp only
      rw [List.foldl_append]
      by_cases hl : d.lost = true
      · have he : arrive d (.read tmp) = d := if_pos hl
        rw [if_pos hl]
        refine along_keeps as ?_ hrest
        rw [he]
        exact hI
      · have he : arrive d (.read tmp) =
            (readerRead d.accum tmp).1.foldl handOn
              { d with accum := (readerRead d.accum tmp).2 } :=
          if_neg hl
        have hfirst : ∀ p ∈ handedAlong { d with accum := (readerRead d.accum tmp).2 }
            (readerRead d.accum tmp).1, C p.1 p.2 := fun p hp => by
          refine hC p (List.mem_append_left _ ?_)
          rw [if_neg hl]
          exact hp
        rw [if_neg hl]
        refine along_keeps as ?_ hrest
        rw [he]
        exact handedAlong_keeps note I C hstep _ (hframe _ d.lost hI) hfirst

end Along

/-! ## 2. What a reply writes -/

/-- The bytes an accepted reply puts at the front of `reply_data`. -/
def written (seq : UInt32) (r : OpReply) : Bytes :=
  if r.kind ≠ .init then []
  else if r.bytes ≠ [] then r.bytes.take replyDataMax
  else (keyBytes (keyTokens seq r)).1

/-- What an accepted reply leaves in `reply_data`. -/
theorem stashReply_written {d : OpDevice} {r : OpReply} (hc : claims d r = true)
    (hs : stale d r = false) :
    (stashReply d r).replyData = store d.replyData 0 (written d.seqPending r) := by
  have hkeep : (stashText d r).replyData = d.replyData := by rw [stashText_eq]
  unfold stashReply written
  rw [if_pos hc]
  simp only
  by_cases hk : r.kind = .init
  · rw [if_neg (c := r.kind ≠ .init) (not_not_intro hk)]
    by_cases hb : r.bytes = []
    · rw [if_neg (c := r.kind = .init ∧ r.bytes ≠ []) fun h => h.2 hb,
        if_neg (c := r.bytes ≠ []) (not_not_intro hb)]
      by_cases ht : r.tail = []
      · have hnil : keyTokens d.seqPending r = [] := by
          unfold keyTokens
          rw [ht, List.dropLast_nil, ite_self]
        rw [if_neg fun h => h.2 ht, hnil]
        exact hkeep
      · rw [if_pos ⟨hk, ht⟩, stashKeys_own hs hk hb ht]
    · rw [if_pos ⟨hk, hb⟩, if_pos (c := r.bytes ≠ []) hb, stashRaw_own hs hk hb]
  · rw [if_neg fun h => hk h.1, if_neg fun h => hk h.1, if_pos hk]
    exact hkeep

/-! ## 3. The bytes that are the command's own -/

/-- What one notes while a command waits: the bytes of the reply it was last given, and whether
    `d->reply` has since been written over by a reply that was then discarded, so that its data
    points into the accumulator. -/
structure Noted where
  own : Bytes := []
  stray : Bool := false
  deriving DecidableEq, Repr

def Noted.note (n : Noted) : OpDevice × Handed → Noted
  | (d, .reply r) =>
    if claims d r then
      if stale d r then { n with stray := true }
      else { own := (decodedData d.seqPending r).getD [], stray := false }
    else n
  | _ => n

/-- A reply leaves alone what the command was given, and the bytes that are lent out: it is no
    other command's init reply with bytes that finds a reply in the slot, and if it is accepted
    then neither its bytes nor those lent out contradict the others. -/
def LeavesAlone (lent : Bytes → Prop) (d : OpDevice) : Handed → Prop
  | .reply r => claims d r = true →
      (stale d r = true → r.bytes ≠ [] → d.replyValid = false) ∧
        (stale d r = false → ∀ b, lent b →
          written d.seqPending r <+: b ∨ b <+: written d.seqPending r)
  | _ => True

/-- The bytes lent out stand in `reply_data`, and so do those of the reply in the slot. -/
structure Serves (lent : Bytes → Prop) (n : Noted) (d : OpDevice) : Prop where
  lent : ∀ b, lent b → cells d.replyData 0 b.length = b
  stray : d.replyValid = true → n.stray = true → d.reply.bytes = []
  own : d.replyValid = true → n.stray = false → d.reply.bytes = n.own
  stored : d.replyValid = true → cells d.replyData 0 n.own.length = n.own

theorem serves_handOn {lent : Bytes → Prop} {n : Noted} {d : OpDevice} {x : Handed}
    (h : Serves lent n d) (hx : LeavesAlone lent d x) :
      Serves lent (n.note (d, x)) (handOn d x) := by
  cases x with
  | frame r =>
      obtain ⟨ch, e⟩ := absorbFrame_slot d r
      show Serves lent n (absorbFrame d r)
      rw [e]
      exact ⟨h.lent, h.stray, h.own, h.stored⟩
  | desync k => exact h
  | reply r =>
      show Serves lent (if claims d r then _ else n) (stashReply d r)
      cases hc : claims d r with
      | false =>
          rw [stashReply_refused hc]
          exact h
      | true =>
          obtain ⟨hdisc, hacc⟩ := hx hc
          rw [if_pos rfl]
          cases hs : stale d r with
          | true =>
              rw [stashReply_stale hc hs, if_pos rfl]
              refine ⟨h.lent, ?_, fun _ e => (by cases e), h.stored⟩
              intro hv _
              refine Classical.byContradiction ?_
              intro hb
              have hv' : d.replyValid = true := hv
              rw [hdisc hs hb] at hv'
              cases hv'
          | false =>
              have hwr := stashReply_written hc hs
              obtain ⟨data, e, hdata⟩ := stashReply_accepted hc hs
              rw [e] at hwr ⊢
              rw [if_neg Bool.false_ne_true]
              refine ⟨?_, fun _ e => (by cases e), fun _ _ => rfl, fun _ => hdata⟩
              intro b hb
              show cells data 0 b.length = b
              rw [show data = _ from hwr]
              exact (cells_store_kept (h.lent b hb)).mpr (hacc hs b hb)

/-! ## 4. A command -/

/-- The device a command waits on, from the moment it claims the slot. -/
def Exchange.waiting (x : Exchange) (d : OpDevice) (line : Bytes) : OpDevice :=
  let n := numberLine (arrivals d x.before) line
  claimSlot n.2.2 true n.2.1 (n.1.getD 2 0)

/-- What arrives while it waits. -/
def Exchange.awaited (x : Exchange) (d : OpDevice) (line payload : Bytes) : List Arrival :=
  if line = [] ∨ opCmdMax ≤ line.length ∨ opMsgMax < payload.length then []
  else if !(arrivals d x.before).opened || (arrivals d x.before).lost then []
  else if (numberLine (arrivals d x.before) line).1 = [] then []
  else if x.written ≠ .ok then x.early
  else x.early ++ x.late

/-- What is handed on meanwhile. -/
def Exchange.served (x : Exchange) (d : OpDevice) (line payload : Bytes) :
    List (OpDevice × Handed) :=
  along (x.waiting d line) (x.awaited d line payload)

/-- With no command waiting nothing is stashed. -/
theorem arrivals_idle (as : List Arrival) {d : OpDevice} (h : d.cmdWaiting = false) :
    (arrivals d as).replyData = d.replyData ∧ (arrivals d as).cmdWaiting = false := by
  refine along_keeps (fun (s : Unit) _ => s)
    (fun _ d' => d'.replyData = d.replyData ∧ d'.cmdWaiting = false) (fun _ _ => True)
    (fun _ _ h => h) ?_ as (s := ()) ⟨rfl, h⟩ (fun _ _ => trivial)
  intro _ d' x h' _
  cases x with
  | frame r =>
      obtain ⟨ch, e⟩ := absorbFrame_slot d' r
      show (absorbFrame d' r).replyData = _ ∧ _
      rw [show handOn d' (.frame r) = absorbFrame d' r from rfl, e]
      exact h'
  | desync k => exact h'
  | reply r =>
      have hc : claims d' r = false := by
        unfold claims
        rw [h'.2]
        rfl
      show (stashReply d' r).replyData = _ ∧ (stashReply d' r).cmdWaiting = _
      rw [stashReply_refused hc]
      exact h'

theorem numberLine_slot (d : OpDevice) (line : Bytes) :
    (numberLine d line).2.2.replyData = d.replyData ∧
      (numberLine d line).2.2.cmdWaiting = d.cmdWaiting := by
  unfold numberLine
  split
  · exact ⟨rfl, rfl⟩
  · exact ⟨rfl, rfl⟩

/-- What `cmd_exchange` leaves of the slot: the storage as the wait left it, and the reply it
    returned. -/
structure LeavesSlot (d0 : OpDevice) (r : OpStatus × Option OpReply × OpDevice) : Prop where
  replyData : r.2.2.replyData = d0.replyData
  cmdWaiting : r.2.2.cmdWaiting = false
  reply : ∀ rep, r.2.1 = some rep → d0.replyValid = true ∧ d0.reply = rep

/-- **A command leaves the slot's storage as the replies handed on to it did.** -/
theorem cmdExchange_slot (x : Exchange) {d : OpDevice} (line payload : Bytes) (timeoutMs : UInt32)
    (h : d.cmdWaiting = false) :
    LeavesSlot (arrivals (x.waiting d line) (x.awaited d line payload))
      (cmdExchange x d line payload timeoutMs true) := by
  obtain ⟨hdata, hwait⟩ := arrivals_idle x.before h
  obtain ⟨hndata, hnwait⟩ := numberLine_slot (arrivals d x.before) line
  have hwaiting : (x.waiting d line).replyData = d.replyData := hndata.trans hdata
  unfold cmdExchange Exchange.awaited
  split
  · exact ⟨hwaiting.symm, h, fun _ e => (nomatch e)⟩
  simp only
  split
  · exact ⟨hdata.trans hwaiting.symm, hwait, fun _ e => (nomatch e)⟩
  split
  · exact ⟨(hndata.trans hdata).trans hwaiting.symm, hnwait.trans hwait, fun _ e => (nomatch e)⟩
  show LeavesSlot _ (transact x _ _ payload _ _ true)
  unfold transact
  simp only
  by_cases hw : x.written ≠ .ok
  · rw [if_pos (c := x.written ≠ .ok ∨ (!true) = true) (Or.inl hw), if_pos hw]
    exact ⟨rfl, rfl, fun _ e => (nomatch e)⟩
  · have hno : ¬(x.written ≠ .ok ∨ (!true) = true) := fun e => e.elim hw (by decide)
    rw [if_neg hno, if_neg hw, arrivals_append]
    show LeavesSlot (arrivals (arrivals (x.waiting d line) x.early) x.late) _
    generalize hend : arrivals (arrivals (x.waiting d line) x.early) x.late = dEnd
    have hcol : collect (arrivals (arrivals (claimSlot (numberLine (arrivals d x.before) line).2.2
        true (numberLine (arrivals d x.before) line).2.1
        ((numberLine (arrivals d x.before) line).1.getD 2 0)) x.early) x.late) = collect dEnd :=
      congrArg collect hend
    rw [hcol]
    refine ⟨?_, ?_, fun rep e => (collect_spec dEnd).2.2 rep e⟩
    · show (collect dEnd).2.2.replyData = _
      unfold collect
      split
      · rfl
      split <;> rfl
    · show (collect dEnd).2.2.cmdWaiting = _
      unfold collect
      split
      · rfl
      split <;> rfl

/-- **What a command leaves in the storage.** As long as what is handed on leaves it alone, the
    bytes lent out are still there afterwards, and so are those of the reply it returns. -/
theorem cmdExchange_serves {lent : Bytes → Prop} (x : Exchange) {d : OpDevice}
    (line payload : Bytes) (h : d.cmdWaiting = false)
    (hlent : ∀ b, lent b → cells d.replyData 0 b.length = b)
    (hx : ∀ p ∈ x.served d line payload, LeavesAlone lent p.1 p.2) :
    Serves lent ((x.served d line payload).foldl Noted.note {})
      (arrivals (x.waiting d line) (x.awaited d line payload)) := by
  have hwaiting : (x.waiting d line).replyData = d.replyData :=
    (numberLine_slot (arrivals d x.before) line).1.trans (arrivals_idle x.before h).1
  refine along_keeps Noted.note (Serves lent) (LeavesAlone lent)
    (fun _ _ h => ⟨h.lent, h.stray, h.own, h.stored⟩) serves_handOn _ ?_ hx
  refine ⟨?_, fun e => (nomatch e), fun e => (nomatch e), fun e => (nomatch e)⟩
  intro b hb
  rw [hwaiting]
  exact hlent b hb

end Openport
