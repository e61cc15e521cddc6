/-
  File:      Openport/Api/Schedule.lean
  Subject:   The cable's periodic messages, and what becomes of a command on its way
             there.

  `Schedule` is the cable's side: which ids run on which channel, and which it has
  ever given out. `Obeys` says how it answers the commands that touch them. On the
  driver's side `Gave` is everything a proof about an entry point needs of one
  command.
-/
import Openport.Api.Ledger
import Openport.Api.Refused
import Openport.Lib.Mirror
import Mathlib.Logic.Function.Basic

namespace Openport

open Lib.Decimal Lib.Mirror

/-! ## 1. The cable's side -/

/-- The ids that run on each channel, ten at most, all of them given out by the cable. -/
structure Schedule where
  live : Nat → Finset UInt32
  used : Finset UInt32
  within : ∀ ch, live ch ⊆ used
  room : ∀ ch, (live ch).card ≤ opPeriodicPerCh

namespace Schedule

/-- Nothing has been started. -/
def empty : Schedule := ⟨fun _ => ∅, ∅, fun _ => Finset.Subset.refl _, fun _ => Nat.zero_le _⟩

/-- A new id runs on a channel that has room. -/
def start (p : Schedule) (ch : Nat) (id : UInt32) (h : (p.live ch).card < opPeriodicPerCh) :
    Schedule where
  live := Function.update p.live ch (insert id (p.live ch))
  used := insert id p.used
  within := fun j => by
    by_cases e : j = ch
    · rw [e, Function.update_self]
      exact Finset.insert_subset_insert id (p.within ch)
    · rw [Function.update_of_ne e]
      exact (p.within j).trans (Finset.subset_insert id p.used)
  room := fun j => by
    by_cases e : j = ch
    · rw [e, Function.update_self]
      exact (Finset.card_insert_le id (p.live ch)).trans h
    · rw [Function.update_of_ne e]
      exact p.room j

/-- Some of a channel's ids go on running. -/
def keep (p : Schedule) (ch : Nat) (ids : Finset UInt32) (h : ids ⊆ p.live ch) : Schedule where
  live := Function.update p.live ch ids
  used := p.used
  within := fun j => by
    by_cases e : j = ch
    · rw [e, Function.update_self]
      exact h.trans (p.within ch)
    · rw [Function.update_of_ne e]
      exact p.within j
  room := fun j => by
    by_cases e : j = ch
    · rw [e, Function.update_self]
      exact (Finset.card_le_card h).trans (p.room ch)
    · rw [Function.update_of_ne e]
      exact p.room j

/-- One id stops. -/
def stop (p : Schedule) (ch : Nat) (id : UInt32) : Schedule :=
  p.keep ch ((p.live ch).erase id) (Finset.erase_subset _ _)

/-- All of a channel's ids stop. -/
def clear (p : Schedule) (ch : Nat) : Schedule := p.keep ch ∅ (Finset.empty_subset _)

variable {p : Schedule} {ch : Nat}

@[simp] theorem start_live {id : UInt32} {h : (p.live ch).card < opPeriodicPerCh} :
    (p.start ch id h).live ch = insert id (p.live ch) := Function.update_self ..

theorem start_other {id : UInt32} {h : (p.live ch).card < opPeriodicPerCh} {j : Nat} (e : j ≠ ch) :
    (p.start ch id h).live j = p.live j := Function.update_of_ne e ..

@[simp] theorem stop_live {id : UInt32} : (p.stop ch id).live ch = (p.live ch).erase id :=
  Function.update_self ..

theorem stop_other {id : UInt32} {j : Nat} (e : j ≠ ch) : (p.stop ch id).live j = p.live j :=
  Function.update_of_ne e ..

@[simp] theorem clear_live : (p.clear ch).live ch = ∅ := Function.update_self ..

theorem clear_other {j : Nat} (e : j ≠ ch) : (p.clear ch).live j = p.live j :=
  Function.update_of_ne e ..

/-! ## 2. How the cable answers -/

/-- `atm`: the reply names an id it never gave out before, or it starts nothing; "are 12" is for a
    channel with ten. -/
inductive Start (p : Schedule) (ch : Nat) (r : OpReply) : Schedule → Prop where
  | started (h : (p.live ch).card < opPeriodicPerCh) : r.kind = .periodic → r.a ∉ p.used →
      Start p ch r (p.start ch r.a h)
  | declined : r.kind = .error → (r.errorCode = 12 ↔ (p.live ch).card = opPeriodicPerCh) →
      Start p ch r p

/-- `atn`: a running id stops, or goes on with an error of another code than 0; "are 13" is for an
    id that does not run on the channel. -/
inductive Stop (p : Schedule) (ch : Nat) (id : Int) (r : OpReply) : Schedule → Prop where
  | stopped (v : UInt32) : id = arg v → v ∈ p.live ch → r.kind ≠ .error →
      Stop p ch id r (p.stop ch v)
  | held (v : UInt32) : id = arg v → v ∈ p.live ch → r.kind = .error → r.errorCode ≠ 0 →
      r.errorCode ≠ 13 → Stop p ch id r p
  | unknown : (∀ v ∈ p.live ch, id ≠ arg v) → r.kind = .error → r.errorCode = 13 →
      Stop p ch id r p

/-- `atl`: everything on the channel stops, or it is refused with another code than 0. -/
inductive Clear (p : Schedule) (ch : Nat) (r : OpReply) : Schedule → Prop where
  | cleared : r.kind ≠ .error → Clear p ch r (p.clear ch)
  | refused : r.kind = .error → r.errorCode ≠ 0 → Clear p ch r p

/-- What a command, answered by this reply, makes of the cable's periodic messages. `atc` stops
    those of its channel whatever the reply. -/
def Obeys (p : Schedule) (c : Command) (r : OpReply) (p' : Schedule) : Prop :=
  match c with
  | ⟨0x6d, some ch, _⟩ => p.Start ch r p'
  | ⟨0x6e, some ch, id :: _⟩ => p.Stop ch id r p'
  | ⟨0x6c, some ch, _⟩ => p.Clear ch r p'
  | ⟨0x63, some ch, _⟩ => p' = p.clear ch
  | ⟨0x6f, _, _⟩ => p' = p
  | _ => False

/-- The transaction was answered, and the cable did what its reply says. -/
def Serves (p : Schedule) (t : Txn) (p' : Schedule) : Prop :=
  ∃ c r, t.command = some c ∧ t.reply = some r ∧ p.Obeys c r p'

/-- The same of transactions one after the other. -/
inductive ServesAll : Schedule → List Txn → Schedule → Prop where
  | nil (p : Schedule) : ServesAll p [] p
  | cons {p p' p'' : Schedule} {t : Txn} {ts : List Txn} : p.Serves t p' → ServesAll p' ts p'' →
      ServesAll p (t :: ts) p''

/-- Everything between two states of the driver was answered. -/
def Between (p : Schedule) (d d' : OpDevice) (p' : Schedule) : Prop :=
  ∃ txns : List Txn, d'.log = (txns.map Event.txn).reverse ++ d.log ∧ ServesAll p txns p'

end Schedule

section Serves

variable {p p' : Schedule} {d d' : OpDevice} {t u : Txn}

/-- The command the driver asked for is the one the cable obeys. -/
theorem Ask.Sent.obeys {a : Ask} (h : a.Sent t) (hs : p.Serves t p') :
    ∃ r, t.reply = some r ∧ p.Obeys (a.command.issued t.seq) r p' := by
  obtain ⟨c, r, hc, hr, ho⟩ := hs
  rw [h.command] at hc
  obtain rfl := Option.some.inj hc
  exact ⟨r, hr, ho⟩

/-- Transactions are told by the log. -/
theorem txns_unique {txns us : List Txn} (h : d'.log = (txns.map Event.txn).reverse ++ d.log)
    (h' : d'.log = (us.map Event.txn).reverse ++ d.log) : txns = us :=
  List.map_injective_iff.mpr (fun _ _ e => Event.txn.inj e)
    (List.reverse_inj.mp (List.append_cancel_right (h.symm.trans h')))

theorem Schedule.Between.silent (h : p.Between d d' p') (hlog : d'.log = d.log) : p' = p := by
  obtain ⟨txns, htx, hall⟩ := h
  obtain rfl : txns = [] := txns_unique htx hlog
  cases hall
  rfl

theorem Schedule.Between.one (h : p.Between d d' p') (hlog : d'.log = .txn t :: d.log) :
    p.Serves t p' := by
  obtain ⟨txns, htx, hall⟩ := h
  obtain rfl : txns = [t] := txns_unique htx hlog
  cases hall with
  | cons hs hnil =>
      cases hnil
      exact hs

theorem Schedule.Between.two (h : p.Between d d' p') (hlog : d'.log = .txn u :: .txn t :: d.log) :
    ∃ q, p.Serves t q ∧ q.Serves u p' := by
  obtain ⟨txns, htx, hall⟩ := h
  obtain rfl : txns = [t, u] := txns_unique htx hlog
  cases hall with
  | cons hs hrest =>
      cases hrest with
      | cons hs' hnil =>
          cases hnil
          exact ⟨_, hs, hs'⟩

end Serves

/-! ## 3. A command on its way -/

/-- A command of a channel with four arguments at most fits its buffer. -/
theorem Command.line_short {verb : UInt8} {i : Fin 10} {args : List Int} (hn : args.length ≤ 4)
    (h : ∀ v ∈ args, (printInt v).length ≤ 10) :
    (Command.line { verb := verb, channel := some i.val, args := args }).length < opCmdMax := by
  have hch : (decimal i.val).length ≤ 1 := decimal_length_le (by decide) i.isLt
  have hargs := printArgs_length h
  show (0x61 :: 0x74 :: verb :: (decimal i.val ++ printArgs args) ++ [0x0d, 0x0a]).length < 64
  simp only [List.length_append, List.length_cons, List.length_nil]
  omega

theorem arrive_lost {d : OpDevice} (h : d.lost = true) (a : Arrival) :
    (arrive d a).lost = true := by
  cases a with
  | gone => rfl
  | read tmp =>
      have hsame : arrive d (.read tmp) = d := if_pos h
      rw [hsame]
      exact h

/-- A cable that went away stays away. -/
theorem arrivals_lost {d : OpDevice} (h : d.lost = true) (as : List Arrival) :
    (arrivals d as).lost = true := by
  unfold arrivals
  induction as generalizing d with
  | nil => exact h
  | cons a as ih => exact ih (arrive_lost h a)

theorem cmdExchange_lost {d : OpDevice} (h : d.lost = true) (x : Exchange) (line payload : Bytes)
    (timeoutMs : UInt32) (wait : Bool) :
    (cmdExchange x d line payload timeoutMs wait).1 ≠ .ok ∧
      (cmdExchange x d line payload timeoutMs wait).2.2.lost = true := by
  have hl := arrivals_lost h x.before
  unfold cmdExchange
  split
  · exact ⟨fun e => (nomatch e), h⟩
  · simp only
    rw [hl, Bool.or_true, if_pos rfl]
    exact ⟨fun e => (nomatch e), hl⟩

/-- **A line that fits is refused only where the session is over or the cable gone.** -/
theorem cmdExchange_refused {x : Exchange} {d : OpDevice} {body payload : Bytes}
    (hl : (body ++ [0x0d, 0x0a]).length < opCmdMax) (hp : payload.length ≤ opMsgMax)
    (hopen : d.opened = true) (timeoutMs : UInt32)
    (hlog : (cmdExchange x d (body ++ [0x0d, 0x0a]) payload timeoutMs true).2.2.log = d.log) :
    (cmdExchange x d (body ++ [0x0d, 0x0a]) payload timeoutMs true).2.2.lost = true := by
  have hne : body ++ [0x0d, 0x0a] ≠ [] := List.append_ne_nil_of_right_ne_nil _ (by decide)
  have hst := arrivals_steady d x.before
  unfold cmdExchange at hlog ⊢
  rw [if_neg (by rintro (h | h | h); exacts [hne h, by omega, by omega])] at hlog ⊢
  simp only at hlog ⊢
  rw [hst.opened, hopen, Bool.not_true, Bool.false_or] at hlog ⊢
  by_cases hlost : (arrivals d x.before).lost = true
  · rw [if_pos hlost]
    exact hlost
  · -- written after all: the log is longer
    rw [if_neg hlost, if_neg (numberLine_ne_nil _ hl)] at hlog
    obtain ⟨-, t, ht, -⟩ := transact_spec x (numberLine (arrivals d x.before)
      (body ++ [0x0d, 0x0a])).2.2
        (numberLine (arrivals d x.before) (body ++ [0x0d, 0x0a])).1 payload
      (numberLine (arrivals d x.before) (body ++ [0x0d, 0x0a])).2.1
      (if timeoutMs = 0 then 1000 else timeoutMs) true
    rw [ht, (numberLine_kept _ _).2, hst.log] at hlog
    exact absurd hlog (List.cons_ne_self _ _)

/-- No failure of the transport has the code of an answer about periodic messages. -/
theorem opStatusToJ2534_other {st : OpStatus} (h : st ≠ .ok) : opStatusToJ2534 st ≠ statusNoerror ∧
    opStatusToJ2534 st ≠ errExceededLimit ∧ opStatusToJ2534 st ≠ errInvalidMsgId := by
  cases st with
  | ok => exact absurd rfl h
  | _ => decide

/-- What becomes of a command of an entry point: it is refused, in an open session only with the
    cable gone, or it is one transaction, whose reply decides the code. -/
structure Gave (d : OpDevice) (a : Ask) (c : Nat × Option OpReply × OpDevice) : Prop where
  kept : Kept d c.2.2
  lost : d.lost = true → c.1 ≠ statusNoerror ∧ c.2.2.lost = true
  ended : (c.2.2.log = d.log ∧ (∃ st, st ≠ OpStatus.ok ∧ c.1 = opStatusToJ2534 st) ∧
      (d.opened = true → c.2.2.lost = true)) ∨
    ∃ t, c.2.2.log = .txn t :: d.log ∧ a.Sent t ∧ c.2.1 = t.reply ∧
      ∀ r, t.reply = some r → c.1 = replyToStatus r

theorem simpleCmd_gave (x : Exchange) (d : OpDevice) {line payload : Bytes} {c : Command}
    (hline : line = c.line) (hshort : c.line.length < opCmdMax) (hp : payload.length ≤ opMsgMax)
    (hv : c.verb ≠ 0) (timeoutMs : UInt32) :
    Gave d ⟨c, payload⟩ (simpleCmd x d line payload timeoutMs) := by
  subst hline
  have hdev := simpleCmd_dev x d c.line payload timeoutMs
  refine ⟨simpleCmd_kept _ _ _ _ _, ?_, ?_⟩
  · intro hlost
    obtain ⟨hbad, hl⟩ := cmdExchange_lost hlost x c.line payload timeoutMs true
    rw [hdev]
    refine ⟨?_, hl⟩
    unfold simpleCmd opDeviceCmd
    simp only
    rw [if_pos hbad]
    exact fun e => hbad (opStatusToJ2534_eq_zero.mp e)
  · rcases simpleCmd_cases x d (fun _ => rfl) hv payload timeoutMs with
      ⟨-, ⟨hlog, -⟩ | ⟨t, hlog, hsent, -, -⟩⟩
    · refine Or.inl ⟨hlog, ?_, ?_⟩
      · obtain ⟨-, ⟨-, hne, -⟩ | ⟨t, ht⟩⟩ := cmdExchange_cases x d c.line payload timeoutMs true
        · refine ⟨_, hne, ?_⟩
          unfold simpleCmd opDeviceCmd
          simp only
          rw [if_pos hne]
        · rw [hdev, ht.log] at hlog
          exact absurd hlog (List.cons_ne_self _ _)
      · intro hopen
        rw [hdev] at hlog ⊢
        exact cmdExchange_refused hshort hp hopen timeoutMs hlog
    · refine Or.inr ⟨t, hlog, hsent, ?_⟩
      rcases simpleCmd_txn x d c.line payload timeoutMs with ⟨h, -⟩ | ⟨u, hu, hreply, hcode⟩
      · rw [h] at hlog
        exact absurd hlog.symm (List.cons_ne_self _ _)
      obtain rfl : u = t := Event.txn.inj (List.cons.inj (hu.symm.trans hlog)).1
      refine ⟨hreply, ?_⟩
      intro r hr
      rw [hr] at hreply
      unfold simpleCmd opDeviceCmd at hreply ⊢
      simp only at hreply ⊢
      by_cases hok : (cmdExchange x d c.line payload timeoutMs true).1 = .ok
      · rw [if_neg (not_not_intro hok)] at hreply ⊢
        rw [show (cmdExchange x d c.line payload timeoutMs true).2.1 = some r from hreply]
        rfl
      · rw [if_pos hok] at hreply
        cases hreply

end Openport
