/-
  File:      Openport/Device/Apart.lean
  Subject:   Channels do not interfere: what `absorb_frame` leaves in a channel
             depends on the frames that concern the channel and on no other.

  Channel `i` as an observer of the device: it sees its own record, the frames
  that concern it are its own and, for channel 6, the echoes on a closed channel
  5, and it is served for as long as the set of open channels stays what it was,
  which no frame changes.
-/
import Openport.Lib.Unwinding
import Openport.Device.Steady
import Openport.Device.QueueRuns

namespace Openport

open Lib.Unwinding

/-! ## 1. Which frames concern a channel -/

/-- Whether a frame is the echo of an ISO 15765 transmit: LOOPBACK, on channel 5 while that is
    closed. -/
def isEcho (d : OpDevice) (r : OpReply) : Bool :=
  r.channel == 5 && !(d.ch 5).isOpen && hasBit r.status opStsLoopback

/-- Whether a frame concerns channel `i`: it is addressed to it, or it is an echo and the
    channel is 6. -/
def concerns (d : OpDevice) (i : Fin 10) (r : OpReply) : Bool :=
  r.channel == i.val || (i == 6 && isEcho d r)

/-- Whether the channel a frame is addressed to is open. -/
def addressedOpen (d : OpDevice) (r : OpReply) : Bool :=
  if h : r.channel < 10 then (d.ch ⟨r.channel, h⟩).isOpen else false

/-- What a frame that concerns channel `i` does to its record. -/
def OpChannel.receive (i : Fin 10) (c : OpChannel) (r : OpReply) : OpChannel :=
  if c.isOpen then
    if r.channel = i.val then absorbOpen c r
    else queueFrame c can r
      (txMsgType ||| (if hasBit r.status opSts29Bit then can29BitId else 0)) false true
  else c

/-! ## 2. A channel as an observer -/

/-- No frame opens or closes a channel. -/
theorem absorbFrame_isOpen (d : OpDevice) (r : OpReply) (j : Fin 10) :
    ((absorbFrame d r).ch j).isOpen = (d.ch j).isOpen :=
  (absorbFrame_steady d r).isOpen j

/-- The frames that concern a channel are the same as long as the same channels are open. -/
theorem concerns_congr {d d' : OpDevice} (h : ∀ j, (d'.ch j).isOpen = (d.ch j).isOpen)
    (i : Fin 10) : concerns d' i = concerns d i := by
  funext r
  unfold concerns isEcho
  rw [h 5]

/-- **A frame for a channel that is not open changes nothing**, unless it is an echo. -/
theorem absorbFrame_closed {d : OpDevice} {r : OpReply} (ho : addressedOpen d r = false)
    (he : isEcho d r = false) : absorbFrame d r = d := by
  unfold absorbFrame
  by_cases h : r.channel < 10
  · have hc : (d.ch ⟨r.channel, h⟩).isOpen = false := by
      unfold addressedOpen at ho
      rwa [dif_pos h] at ho
    rw [dif_pos h]
    simp only
    rw [if_neg (by rw [hc]; exact Bool.false_ne_true), if_neg fun hx => ?_]
    obtain ⟨h5, hl, -⟩ := hx
    have hi : (⟨r.channel, h⟩ : Fin 10) = 5 := Fin.ext h5
    have : isEcho d r = true := by
      unfold isEcho
      rw [← hi, hc, hl, h5]
      rfl
    rw [he] at this
    cases this
  · rw [dif_neg h]

/-- A frame that does not concern a channel leaves its record as it is. -/
theorem absorbFrame_unseen {d : OpDevice} {i : Fin 10} {r : OpReply}
    (h : concerns d i r = false) : (absorbFrame d r).ch i = d.ch i := by
  unfold concerns at h
  obtain ⟨h1, h2⟩ := (Bool.or_eq_false_iff).mp h
  unfold absorbFrame
  by_cases hr : r.channel < 10
  · rw [dif_pos hr]
    simp only
    by_cases ho : (d.ch ⟨r.channel, hr⟩).isOpen = true
    · rw [if_pos ho]
      refine d.setCh_other _ ?_
      intro e
      rw [e] at h1
      exact absurd h1 (by simp)
    rw [if_neg ho]
    by_cases he : r.channel = 5 ∧ hasBit r.status opStsLoopback = true ∧ (d.ch 6).isOpen = true
    · rw [if_pos he]
      -- the echo goes to channel 6, which this frame would concern
      refine d.setCh_other _ ?_
      intro e
      have hi : (⟨r.channel, hr⟩ : Fin 10) = 5 := Fin.ext he.1
      have h5 : (d.ch 5).isOpen = false := by
        rw [← hi]
        exact Bool.eq_false_iff.mpr ho
      rw [e, isEcho, he.1, h5, he.2.1] at h2
      exact absurd h2 (by decide)
    · rw [if_neg he]
  · rw [dif_neg hr]

/-- A frame that concerns a channel does to its record what the record alone decides. -/
theorem absorbFrame_seen {d : OpDevice} {i : Fin 10} {r : OpReply} (h : concerns d i r = true) :
    (absorbFrame d r).ch i = (d.ch i).receive i r := by
  by_cases hi : r.channel = i.val
  · obtain ⟨d', rfl, -, -, hch⟩ := absorbFrame_own d i r
    have hown : ({ r with channel := i.val } : OpReply) = r := by rw [← hi]
    rw [hown] at hch
    unfold OpChannel.receive
    rw [if_pos hi]
    exact hch
  · -- not its own frame, so it is an echo, and the channel is 6
    unfold concerns at h
    have h2 : i = 6 ∧ isEcho d r = true := by simpa [hi] using h
    obtain ⟨rfl, he⟩ := h2
    have he' : (r.channel = 5 ∧ (d.ch 5).isOpen = false) ∧
      hasBit r.status opStsLoopback = true := by
      simpa [isEcho] using he
    obtain ⟨⟨h5, hc⟩, hl⟩ := he'
    have hr : r.channel < 10 := by omega
    have hf : (⟨r.channel, hr⟩ : Fin 10) = 5 := Fin.ext h5
    have hclosed : ¬(d.ch ⟨r.channel, hr⟩).isOpen = true := by
      rw [hf, hc]
      exact Bool.false_ne_true
    unfold absorbFrame OpChannel.receive
    rw [dif_pos hr, if_neg hi]
    simp only
    rw [if_neg hclosed]
    by_cases ho : (d.ch 6).isOpen = true
    · rw [if_pos ⟨h5, hl, ho⟩, if_pos ho, d.setCh_same]
    · rw [if_neg fun hx => ho hx.2.2, if_neg ho]

/-- Channel `i` as an observer of a device on which the channels open in `d` are open. -/
def channelView (d : OpDevice) (i : Fin 10) : View absorbFrame OpChannel where
  inv s := ∀ j, (s.ch j).isOpen = (d.ch j).isOpen
  see s := s.ch i
  concerns := concerns d i
  next := OpChannel.receive i
  keeps s r h j := (absorbFrame_isOpen s r j).trans (h j)
  unseen _ _ h hc := absorbFrame_unseen (by rw [concerns_congr h i]; exact hc)
  seen _ _ h hc := absorbFrame_seen (by rw [concerns_congr h i]; exact hc)

/-! ## 3. Two runs -/

/-- **Channels do not interfere.** After two runs of frames from states with the same open
    channels and the same record of channel `i`, whose frames that concern the channel are the
    same and in the same order, the record is the same again: its queue, its reassembly, its
    announcement and its count of lost messages. And a frame for a channel that is not open and
    no echo changes no channel at all. -/
theorem absorbFrame_apart {d d' : OpDevice} (i : Fin 10)
    (hopen : ∀ j, (d'.ch j).isOpen = (d.ch j).isOpen) (hi : d'.ch i = d.ch i)
    {rs rs' : List OpReply} (hrs : rs'.filter (concerns d i) = rs.filter (concerns d i)) :
    (rs'.foldl absorbFrame d').ch i = (rs.foldl absorbFrame d).ch i ∧
      ∀ r, addressedOpen d r = false → isEcho d r = false → (absorbFrame d r).ch = d.ch :=
  ⟨(channelView d i).noninterference hopen (fun _ => rfl) hi hrs,
    fun _ ho he => by rw [absorbFrame_closed ho he]⟩

/-- Two frames for channel 3, which is closed, around one for channel 6, and the one alone. -/
theorem absorbFrame_apart_sample :
    ([{ kind := .frame, channel := 3, data := some [7] },
        { kind := .frame, channel := 6, status := 0x40, data := some [1, 2] },
        { kind := .frame, channel := 3, status := 0x40, data := some [8] }].foldl absorbFrame
      { opened := true, ch := fun i => { isOpen := i == 6, protocol := 6 } }).ch 6 =
    ([{ kind := .frame, channel := 6, status := 0x40, data := some [1, 2] }].foldl absorbFrame
      { opened := true, ch := fun i => { isOpen := i == 6, protocol := 6 } }).ch 6 :=
  (absorbFrame_apart 6 (fun _ => rfl) rfl (by decide)).1

end Openport
