/-
  File:      Openport/Stack/Followed.lean
  Subject:   The cable's books along the log of the calls.

  `BooksFollow` reads the log as what the cable did: each transaction was handled, with the
  effect and the reply `Specified` gives, or the cable never read it. Where every
  command about channels and periodic messages was answered in time none of those was
  missed, and the log of a joint run is followed from the cable's first books to its
  last (`Rowed.follows`).
-/
import Openport.Stack.Tracked

namespace Openport

open Lib Lib.Decimal Lib.Rows Simulator

/-! ## 1. Following a log -/

/-- Every command about channels and periodic messages was waited for and returned `OP_OK`. -/
def Prompt (txns : List Txn) : Prop :=
  ∀ t ∈ txns, ∀ c, t.Is c → c.verb ∈ tableVerbs → t.waited = true ∧ t.result = .ok

/-- What the cable made of a transaction it handled. -/
structure TxnHandled (b : Books) (t : Txn) (g : Given) (q : WireRecord) (b' : Books) : Prop where
  specified : Specified b g q b'
  is : t.Is g.command
  payload : g.payload = t.payload
  reply : g.command.verb ∈ tableVerbs → t.reply = some (matchedReply q.val.reply)

/-- **The books follow the transactions**, newest first. -/
inductive BooksFollow : Books → List Txn → Books → Prop where
  | nil (b : Books) : BooksFollow b [] b
  | missed {b b' : Books} {t : Txn} {ts : List Txn} :
      (∀ c, t.Is c → c.verb ∉ tableVerbs) → BooksFollow b ts b' → BooksFollow b (t :: ts) b'
  | handled {b b1 b' : Books} {t : Txn} {ts : List Txn} (g : Given) (q : WireRecord) :
      TxnHandled b1 t g q b' → BooksFollow b ts b1 → BooksFollow b (t :: ts) b'

section BooksFollow

variable {b b' : Books}

theorem BooksFollow.split : ∀ {ts us : List Txn} {b' : Books}, BooksFollow b (ts ++ us) b' →
    ∃ b1, BooksFollow b us b1 ∧ BooksFollow b1 ts b'
  | [], _, b', h => ⟨b', h, .nil b'⟩
  | _ :: _, _, _, .missed hv h => by
      obtain ⟨b1, h1, h2⟩ := BooksFollow.split h
      exact ⟨b1, h1, .missed hv h2⟩
  | _ :: _, _, _, .handled g q hh h => by
      obtain ⟨b1, h1, h2⟩ := BooksFollow.split h
      exact ⟨b1, h1, .handled g q hh h2⟩

/-- No id is taken back. -/
theorem BooksFollow.periodicIds {ts : List Txn} (h : BooksFollow b ts b') :
    b.nextPeriodicId ≤ b'.nextPeriodicId := by
  induction h with
  | nil => exact Nat.le_refl _
  | missed _ _ ih => exact ih
  | handled g q hh _ ih => exact ih.trans hh.specified.periodicIds

/-- What commands of a kind keep. -/
theorem BooksFollow.keeps {P : Books → Prop} {G : Command → Prop}
    (hkeep : ∀ b g q b', Specified b g q b' → G g.command → P b → P b') {ts : List Txn}
    (h : BooksFollow b ts b') (hg : ∀ t ∈ ts, ∀ c, t.Is c → G c) (hb : P b) : P b' := by
  induction h with
  | nil => exact hb
  | missed _ _ ih => exact ih fun t ht => hg t (List.mem_cons_of_mem _ ht)
  | handled g q hh _ ih =>
      exact hkeep _ g q _ hh.specified (hg _ List.mem_cons_self g.command hh.is)
        (ih fun t ht => hg t (List.mem_cons_of_mem _ ht))

/-- One command about channels or periodic messages. -/
theorem BooksFollow.one {t : Txn} (h : BooksFollow b [t] b') {c : Command} (hc : t.Is c)
    (hv : c.verb ∈ tableVerbs) : ∃ g q, TxnHandled b t g q b' ∧ g.command = c := by
  cases h with
  | missed hno _ => exact absurd hv (hno c hc)
  | handled g q hh h =>
      cases h
      exact ⟨g, q, hh, hh.is.inj hc⟩

end BooksFollow

/-! ## 2. The row along the log -/

/-- A row of handled commands whose ids say where in the log they are. -/
structure Along (txns : List Txn) (hist : History) : Prop where
  sorted : hist.Pairwise fun p q => p.1.1.id < q.1.1.id
  place : ∀ p ∈ hist, ∃ newer u older, txns = newer ++ u :: older ∧ older.length = p.1.1.id ∧
    u.Is p.1.2.command ∧ p.1.2.payload = u.payload
  found : ∀ newer t older, txns = newer ++ t :: older → ∀ c, t.Is c → c.verb ∈ tableVerbs →
    ∃ p ∈ hist, p.1.1.id = older.length ∧ t.reply = some (matchedReply p.2.val.reply)

/-- An entry whose id is not the newest one's has its place among the older ones. -/
theorem Along.below {t : Txn} {older : List Txn} {hist : History} (h : Along (t :: older) hist)
    {p : (Issued × Given) × WireRecord} (hp : p ∈ hist) (hne : p.1.1.id ≠ older.length) :
    ∃ newer u older', older = newer ++ u :: older' ∧ older'.length = p.1.1.id ∧
      u.Is p.1.2.command ∧ p.1.2.payload = u.payload := by
  obtain ⟨newer, u, older', hcut, hlen, hu⟩ := h.place p hp
  cases newer with
  | nil =>
      obtain ⟨-, rfl⟩ := List.cons.inj hcut
      exact absurd hlen.symm hne
  | cons v newer => exact ⟨newer, u, older', (List.cons.inj hcut).2, hlen, hu⟩

/-- One whose id is the newest one's is the newest one's. -/
theorem Along.newest {t : Txn} {older : List Txn} {hist : History} (h : Along (t :: older) hist)
    {p : (Issued × Given) × WireRecord} (hp : p ∈ hist) (hid : p.1.1.id = older.length) :
    t.Is p.1.2.command ∧ p.1.2.payload = t.payload := by
  obtain ⟨newer, u, older', hcut, hlen, hu⟩ := h.place p hp
  cases newer with
  | nil =>
      obtain ⟨rfl, -⟩ := List.cons.inj hcut
      exact hu
  | cons v newer =>
      have hcut' : older = newer ++ u :: older' := (List.cons.inj hcut).2
      have hall := congrArg List.length hcut'
      rw [List.length_append, List.length_cons] at hall
      omega

/-- No id is greater. -/
theorem Along.id_le {t : Txn} {older : List Txn} {hist : History} (h : Along (t :: older) hist)
    {p : (Issued × Given) × WireRecord} (hp : p ∈ hist) : p.1.1.id ≤ older.length := by
  obtain ⟨newer, u, older', hcut, hlen, -⟩ := h.place p hp
  have hall := congrArg List.length hcut
  rw [List.length_append, List.length_cons, List.length_cons] at hall
  omega

/-- Without the newest transaction, and what the row has of it. -/
theorem Along.older {t : Txn} {older : List Txn} {hist : History} (h : Along (t :: older) hist) :
    (Along older hist ∧ ∀ c, t.Is c → c.verb ∉ tableVerbs) ∨
      ∃ pre p, hist = pre ++ [p] ∧ Along older pre ∧ t.Is p.1.2.command ∧
        p.1.2.payload = t.payload ∧
        (p.1.2.command.verb ∈ tableVerbs → t.reply = some (matchedReply p.2.val.reply)) := by
  by_cases hin : ∃ p ∈ hist, p.1.1.id = older.length
  · obtain ⟨p, hp, hid⟩ := hin
    obtain ⟨hu, hpay⟩ := h.newest hp hid
    obtain ⟨pre, post, rfl⟩ := List.append_of_mem hp
    obtain ⟨hpre, htail, hcross⟩ := List.pairwise_append.mp h.sorted
    obtain ⟨hpost, -⟩ := List.pairwise_cons.mp htail
    have hlast : post = [] := by
      refine List.eq_nil_iff_forall_not_mem.mpr fun q hq => ?_
      have hlt := hpost q hq
      have hle := h.id_le (List.mem_append_right pre (List.mem_cons_of_mem p hq))
      omega
    subst hlast
    have hsmall : ∀ q ∈ pre, q.1.1.id ≠ older.length := by
      intro q hq e
      have hlt := hcross q hq p List.mem_cons_self
      omega
    refine Or.inr ⟨pre, p, rfl, ⟨hpre,
      fun q hq => h.below (List.mem_append_left _ hq) (hsmall q hq),
      fun newer u older' hcut c hc hv => ?_⟩, hu, hpay, fun hv => ?_⟩
    · obtain ⟨q, hq, hqid, hreply⟩ := h.found (t :: newer) u older'
        (by rw [hcut, List.cons_append]) c hc hv
      rcases List.mem_append.mp hq with hq | hq
      · exact ⟨q, hq, hqid, hreply⟩
      · rw [List.mem_singleton.mp hq, hid, hcut, List.length_append, List.length_cons] at hqid
        omega
    · obtain ⟨q, hq, hqid, hreply⟩ := h.found [] t older rfl _ hu hv
      rcases List.mem_append.mp hq with hq | hq
      · exact absurd hqid (hsmall q hq)
      · rw [List.mem_singleton.mp hq] at hreply
        exact hreply
  · have hno : ∀ p ∈ hist, p.1.1.id ≠ older.length := fun p hp e => hin ⟨p, hp, e⟩
    refine Or.inl ⟨⟨h.sorted, fun p hp => h.below hp (hno p hp), fun newer u older' hcut => ?_⟩, ?_⟩
    · exact h.found (t :: newer) u older' (by rw [hcut, List.cons_append])
    · intro c hc hv
      obtain ⟨p, hp, hid, -⟩ := h.found [] t older rfl c hc hv
      exact hno p hp hid

theorem Along.follows {b : Books} : ∀ {txns : List Txn} {hist : History} {b' : Books},
    Along txns hist → Sequential b hist.row b' → BooksFollow b txns b'
  | [], hist, b', h, hrow => by
      cases hist with
      | nil =>
          cases hrow
          exact .nil b
      | cons p hist =>
          obtain ⟨newer, u, older, hcut, -⟩ := h.place p List.mem_cons_self
          exact absurd hcut.symm (List.append_ne_nil_of_right_ne_nil newer (List.cons_ne_nil u older))
  | t :: older, hist, b', h, hrow => by
      rcases h.older with ⟨h', hno⟩ | ⟨pre, p, rfl, h', his, hpay, hreply⟩
      · exact .missed hno (h'.follows hrow)
      · have hrow' : Sequential b (History.row pre ++ [(p.1.2, p.2)]) b' := by
          have e : History.row (pre ++ [p]) = History.row pre ++ [(p.1.2, p.2)] := List.map_append
          exact e ▸ hrow
        obtain ⟨b1, hpre, hlast⟩ := hrow'.split
        cases hlast with
        | next hspec hnil =>
            cases hnil
            exact .handled p.1.2 p.2 ⟨hspec, his, hpay, hreply⟩ (h'.follows hpre)

/-- **The books follow the log of a joint run**, where it is prompt. -/
theorem Rowed.follows {l0 l : Loop} {txns : List Txn} {hist : History} (h : Rowed l0 l txns hist)
    (hprompt : Prompt txns) : BooksFollow l0.cable.sim.books txns l.cable.sim.books := by
  obtain ⟨todo, hlin⟩ := h.linear
  refine Along.follows ⟨?_, fun p hp => h.place hp, fun newer t older hcut c hc hv => ?_⟩ hlin.books
  · have hsorted := hlin.sorted
    rw [hlin.wrote] at hsorted
    have hleft := (List.pairwise_append.mp hsorted).1
    rw [List.pairwise_map] at hleft
    exact hleft
  · have hin : t ∈ txns := by
      rw [hcut]
      exact List.mem_append_right _ List.mem_cons_self
    obtain ⟨hwaited, hok⟩ := hprompt t hin c hc hv
    have hplain : c.verb ≠ 0x79 ∧ c.verb ≠ 0x77 ∧ c.verb ≠ 0x69 := by
      refine ⟨?_, ?_, ?_⟩
      · rintro e
        rw [e] at hv
        exact absurd hv (by decide)
      · rintro e
        rw [e] at hv
        exact absurd hv (by decide)
      · rintro e
        rw [e] at hv
        exact absurd hv (by decide)
    obtain ⟨p, hp, hid, -, hreply⟩ := h.found hcut hc hplain hwaited hok
    exact ⟨p, hp, hid, hreply⟩

end Openport
