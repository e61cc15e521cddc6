/-
  File:      Openport/Device/Fed.lean
  Subject:   What the reader puts in one channel's queue, whatever bytes arrive: each
             message offered is put behind those there, or counted as dropped.

  `Feed` is what became of the messages offered; the functions on it follow the
  reader from a frame to a run of wakeups. `Queued` says what a queue holds and how
  many messages were dropped, whose count in the channel is 32 bits wide.
-/
import Openport.Device.Loss

namespace Openport

open Lib.Ring Lib.BoundedFifo

/-! ## 1. What becomes of the messages offered -/

/-- The messages put in a queue, and how many found no room. -/
structure Feed where
  put : List PassThruMsg := []
  refused : Nat := 0

/-- One feed, and what came after it. -/
def Feed.and (f g : Feed) : Feed := ⟨f.put ++ g.put, f.refused + g.refused⟩

/-- A message offered to a queue is put in it or refused. -/
def feedOf (c : OpChannel) : Option PassThruMsg → Feed
  | none => {}
  | some m => if queueRefuses c m then { refused := 1 } else { put := [m] }

/-- The message a turn of `consume_accum` offers to the queue of channel `i`. -/
def offered (i : Fin 10) (d : OpDevice) : Handed → Option PassThruMsg
  | .frame r => (({ dev := d } : FrameRun).offer i r).map (·.msg)
  | _ => none

def handFeed (i : Fin 10) : OpDevice → List Handed → Feed
  | _, [] => {}
  | d, x :: xs => (feedOf (d.ch i) (offered i d x)).and (handFeed i (handOn d x) xs)

def arriveFeed (i : Fin 10) (d : OpDevice) : Arrival → Feed
  | .gone => {}
  | .read tmp =>
    if d.lost then {}
    else
      let r := readerRead d.accum tmp
      handFeed i { d with accum := r.2 } r.1

/-- What a run of wakeups of the reader brings the queue of channel `i`. -/
def arrivalsFeed (i : Fin 10) : OpDevice → List Arrival → Feed
  | _, [] => {}
  | d, a :: as => (arriveFeed i d a).and (arrivalsFeed i (arrive d a) as)

/-! ## 2. The queue -/

/-- The channel is open, its queue holds `q`, and `n` messages were dropped since its count was
    last at zero. -/
structure Queued (i : Fin 10) (d : OpDevice) (q : List PassThruMsg) (n : Nat) : Prop where
  isOpen : (d.ch i).isOpen = true
  holds : Holds (d.ch i) q
  fits : ∀ m ∈ q, m.Fits
  reassembly : (d.ch i).partialMsg.Fits
  dropped : (d.ch i).dropped.toNat = n % 2 ^ 32

theorem queuePush_reassembly (c : OpChannel) (m : PassThruMsg) :
    (queuePush c m).partialMsg = c.partialMsg := by
  cases hr : queueRefuses c m with
  | true => rw [queuePush_refused hr]
  | false =>
      unfold queuePush
      rw [hr]
      rfl

section Fed

variable {i : Fin 10} {d : OpDevice} {q : List PassThruMsg} {n : Nat}

/-- **An offered message is put behind those there, or counted.** `c` is the channel with its
    reassembly moved on and the ring untouched. -/
theorem queued_offer (h : Queued i d q n) {d' : OpDevice} {c : OpChannel} {o : Option PassThruMsg}
    (hch : d'.ch i = queueOption c o) (hopen : (d'.ch i).isOpen = true) (h1 : c.rq = (d.ch i).rq)
    (h2 : c.rqHead = (d.ch i).rqHead) (h3 : c.rqTail = (d.ch i).rqTail)
    (h4 : c.rqUsed = (d.ch i).rqUsed) (h5 : c.qcount = (d.ch i).qcount)
    (h6 : c.dropped = (d.ch i).dropped) (hp : c.partialMsg.Fits) (ho : ∀ m, o = some m → m.Fits) :
    Queued i d' (q ++ (feedOf (d.ch i) o).put) (n + (feedOf (d.ch i) o).refused) := by
  have hc : Holds c q := h.holds.congr h1 h2 h3 h4 h5
  cases o with
  | none =>
      rw [show (feedOf (d.ch i) none).put = [] from rfl, List.append_nil]
      refine ⟨hopen, hch ▸ hc, h.fits, ?_, ?_⟩
      · rw [hch]
        exact hp
      · rw [hch]
        exact (congrArg UInt32.toNat h6).trans h.dropped
  | some m =>
      have hch' : d'.ch i = queuePush c m := hch
      have href : queueRefuses (d.ch i) m = queueRefuses c m := by
        unfold queueRefuses
        rw [h1, h4]
      have hpart : (d'.ch i).partialMsg.Fits := by
        rw [hch', queuePush_reassembly]
        exact hp
      unfold feedOf
      simp only
      rw [href]
      rcases queuePush_cases hc m with ⟨hr, hq, hd⟩ | ⟨hr, hq, hd⟩
      · rw [hr, if_pos rfl, List.append_nil]
        refine ⟨hopen, hch' ▸ hq, h.fits, hpart, ?_⟩
        rw [hch', hd, h6, UInt32.toNat_add, h.dropped]
        show (n % 4294967296 + 1) % 4294967296 = (n + 1) % 4294967296
        omega
      · rw [hr, if_neg Bool.false_ne_true]
        refine ⟨hopen, hch' ▸ hq, ?_, hpart, ?_⟩
        · intro x hx
          rcases List.mem_append.mp hx with hx | hx
          · exact h.fits x hx
          · rw [List.mem_singleton.mp hx]
            exact ho m rfl
        · rw [hch', hd, h6]
          exact h.dropped

/-- A message a frame offers fits the queue's header. -/
theorem offer_fits (h : (d.ch i).partialMsg.Fits) {r : OpReply} {p : Put}
    (hp : ({ dev := d } : FrameRun).offer i r = some p) : p.msg.Fits := by
  unfold FrameRun.offer at hp
  simp only at hp
  by_cases hi : r.channel = i.val
  · rw [if_pos hi] at hp
    obtain ⟨m, hout, rfl⟩ := Option.map_eq_some_iff.mp hp
    exact (d.ch i).frameOut_fits h hout
  rw [if_neg hi] at hp
  by_cases he : i = 6 ∧ isEcho d r = true
  · rw [if_pos he] at hp
    cases hp
    exact frameMsg_fits (by decide) (or_lt_32 (by decide) (ite_lt_32 (by decide) (by decide))) _ _ _
  · rw [if_neg he] at hp
    cases hp

theorem queued_hand (h : Queued i d q n) (x : Handed) :
    Queued i (handOn d x) (q ++ (feedOf (d.ch i) (offered i d x)).put)
      (n + (feedOf (d.ch i) (offered i d x)).refused) := by
  have hopen : ((handOn d x).ch i).isOpen = true := ((handOn_steady d x).isOpen i).trans h.isOpen
  cases x with
  | frame r =>
      obtain ⟨k1, k2, k3, k4, k5, k6, -⟩ := folded_ring i { dev := d } r
      refine queued_offer h (absorbFrame_offer i { dev := d } r h.isOpen) hopen k1 k2 k3 k4 k5 k6
        ?_ ?_
      · unfold FrameRun.folded
        split
        · exact (d.ch i).afterFrame_fits h.reassembly r
        · exact h.reassembly
      · intro m hm
        obtain ⟨p, hp, rfl⟩ := Option.map_eq_some_iff.mp hm
        exact offer_fits h.reassembly hp
  | reply r =>
      have hch : (stashReply d r).ch i = d.ch i := congrFun (stashReply_ch d r) i
      exact queued_offer (o := none) h hch hopen rfl rfl rfl rfl rfl rfl h.reassembly
        fun _ e => (nomatch e)
  | desync k =>
      exact queued_offer (o := none) h rfl hopen rfl rfl rfl rfl rfl rfl h.reassembly
        fun _ e => (nomatch e)

theorem queued_handAll {xs : List Handed} (h : Queued i d q n) :
    Queued i (xs.foldl handOn d) (q ++ (handFeed i d xs).put) (n + (handFeed i d xs).refused) := by
  induction xs generalizing d q n with
  | nil =>
      show Queued i d (q ++ []) n
      rw [List.append_nil]
      exact h
  | cons x xs ih =>
      have hx := ih (queued_hand h x)
      rw [List.append_assoc, Nat.add_assoc] at hx
      exact hx

theorem queued_arrive (h : Queued i d q n) (a : Arrival) :
    Queued i (arrive d a) (q ++ (arriveFeed i d a).put) (n + (arriveFeed i d a).refused) := by
  have hnone : Queued i d (q ++ []) n := by
    rw [List.append_nil]
    exact h
  cases a with
  | gone => exact ⟨hnone.isOpen, hnone.holds, hnone.fits, hnone.reassembly, hnone.dropped⟩
  | read tmp =>
      unfold arrive arriveFeed
      simp only
      by_cases hl : d.lost = true
      · rw [if_pos hl, if_pos hl]
        exact hnone
      · rw [if_neg hl, if_neg hl]
        exact queued_handAll ⟨h.isOpen, h.holds, h.fits, h.reassembly, h.dropped⟩

/-- **Whatever arrives**, the queue holds what it held and the messages put behind it, and every
    other message offered is counted, up to the width of the count. -/
theorem queued_arrivals (as : List Arrival) (h : Queued i d q n) :
    Queued i (arrivals d as) (q ++ (arrivalsFeed i d as).put)
      (n + (arrivalsFeed i d as).refused) := by
  induction as generalizing d q n with
  | nil =>
      show Queued i d (q ++ []) n
      rw [List.append_nil]
      exact h
  | cons a as ih =>
      have ha := ih (queued_arrive h a)
      rw [List.append_assoc, Nat.add_assoc] at ha
      exact ha

/-- **A pop** finds the device gone, the queue empty, or the oldest message. -/
theorem queued_pop (h : Queued i d q n) :
    ((opDevicePop d i) = (.noDevice, none, d) ∧ (d.opened = false ∨ d.lost = true)) ∨
    ((opDevicePop d i) = (.timeout, none, d) ∧ q = [] ∧ d.opened = true ∧ d.lost = false) ∨
    ∃ m q' p d', q = m :: q' ∧ opDevicePop d i = (.ok, some p, d') ∧ SameMessage m p ∧
      Queued i d' q' n ∧ d'.opened = true ∧ d'.lost = false := by
  unfold opDevicePop
  by_cases hgone : (!d.opened || d.lost) = true
  · rw [if_pos hgone]
    refine .inl ⟨rfl, ?_⟩
    cases ho : d.opened with
    | false => exact .inl rfl
    | true =>
        rw [ho] at hgone
        exact .inr hgone
  have hgo : d.opened = true ∧ d.lost = false := by
    cases ho : d.opened with
    | false =>
        rw [ho] at hgone
        exact absurd rfl hgone
    | true =>
        rw [ho] at hgone
        exact ⟨rfl, Bool.eq_false_iff.mpr hgone⟩
  rw [if_neg hgone]
  have hcount := h.holds.count
  cases q with
  | nil =>
      rw [if_neg (by rw [hcount]; exact Nat.lt_irrefl 0)]
      exact .inr (.inl ⟨rfl, rfl, hgo⟩)
  | cons m q' =>
      rw [if_pos (by rw [hcount]; exact Nat.succ_pos _)]
      obtain ⟨hp, hrest⟩ := holds_pop h.holds
      obtain ⟨head, used, e⟩ := queuePop_ring (d.ch i)
      refine .inr (.inr ⟨m, q', _, _, rfl, rfl, ?_, ⟨?_, ?_, ?_, ?_, ?_⟩, hgo⟩)
      · rw [hp]
        exact delivered_same (h.fits m List.mem_cons_self)
      · rw [OpDevice.setCh_same, e]
        exact h.isOpen
      · rw [OpDevice.setCh_same]
        exact hrest
      · exact fun x hx => h.fits x (List.mem_cons_of_mem m hx)
      · rw [OpDevice.setCh_same, e]
        exact h.reassembly
      · rw [OpDevice.setCh_same, e]
        exact h.dropped

end Fed

end Openport
