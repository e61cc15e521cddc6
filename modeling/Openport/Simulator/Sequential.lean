/-
  File:      Openport/Simulator/Sequential.lean
  Subject:   The cable as one thing that handles one command after the other: what the
             driver's commands make of its channels and counters, and the replies.

  `Books` is the cable without its threads, its clock and its output; a timer and a
  thread leave it alone. `Sequential` is a row of commands with their replies, and what
  is said about such rows here needs nothing else: a parameter is a register
  (`configured_read`), no id is given out twice (`ids_apart`), and a periodic message
  that was ended is on no channel any more (`ended_gone`).
-/
import Openport.Lib.Rows
import Openport.Simulator.Replies

namespace Openport.Simulator

open Lib Lib.Decimal Lib.Rows

/-! ## 1. The cable's books -/

/-- The channels and the counters. -/
structure Books where
  channels : Dict (Fin 10) Channel
  nextFilterId : Nat
  nextPeriodicId : Nat
  born : Nat

def Table.books (t : Table) : Books :=
  { channels := t.channels, nextFilterId := t.nextFilterId, nextPeriodicId := t.nextPeriodicId
    born := t.born }

def Sim.books (s : Sim) : Books := s.table.books

/-- What a command makes of the books, and the reply that says so. -/
inductive Specified (b : Books) (g : Given) : WireRecord → Books → Prop where
  | info : g.command = infoCommand → Specified b g infoReply b
  | answered {t t' : Table} {r : WireRecord} : t.books = b → Spoken g.command →
      Answer t g.command g.payload g.seq r t' → Specified b g r t'.books

/-- **One command after the other**, with their replies. -/
abbrev Sequential : Books → List (Given × WireRecord) → Books → Prop :=
  Row fun b p b' => Specified b p.1 p.2 b'

/-! ## 2. What the simulator does is that -/

theorem Told.specified {s s' : Sim} {g : Given} {r : WireRecord} (h : Told s g s' r) :
    Specified s.books g r s'.books := by
  cases h with
  | info hc _ htab =>
      have hb : s'.books = s.books := congrArg Table.books htab
      rw [hb]
      exact .info hc
  | answered hc ha => exact .answered (t := s.table) rfl hc ha.answer

/-- The command is refused, and the books stay as they are. -/
def Refuses (b : Books) (r : WireRecord) (b' : Books) : Prop := r.val.reply.kind = .error ∧ b' = b

/-- The channel is put back as this one. -/
def Books.put (b : Books) (i : Fin 10) (ch : Channel) : Books :=
  { b with channels := b.channels.insert i ch }

/-- The channel is put back with another message, under the next id. -/
def Books.scheduled (b : Books) (i : Fin 10) (ch : Channel) (m : Periodic) : Books :=
  { b.put i { ch with periodic := ch.periodic.insert (b.nextPeriodicId : Int) m } with
    nextPeriodicId := b.nextPeriodicId + 1 }

/-- **What a command of a verb comes to.** Of the verbs that touch neither a channel's parameters nor
    its messages nothing is said. -/
def Does (verb : UInt8) (b : Books) (g : Given) (r : WireRecord) (b' : Books) : Prop :=
  match verb with
  | 0x61 | 0x7a => r = okReply g.seq ∧ b' = { b with channels := ∅, nextFilterId := 0 }
  | 0x6f => Refuses b r b' ∨ ∃ (i : Fin 10) (flags baud more : Int),
      g.command.channel = some i.val ∧ g.command.args = [flags, baud, more] ∧ i ∉ b.channels ∧
      r = okReply g.seq ∧
      b' = { b.put i (.new i.val flags baud b.born) with born := b.born + 1 }
  | 0x63 => ∃ i : Fin 10, g.command.channel = some i.val ∧ r = okReply g.seq ∧
      b' = { b with channels := b.channels.erase i }
  | 0x67 => (Refuses b r b' ∧ ∀ (i : Fin 10) ch param, g.command.channel = some i.val →
        g.command.args = [param] → b.channels.lookup i = some ch → param ∉ ch.config) ∨
      ∃ (i : Fin 10) (ch : Channel) (param value : UInt32), g.command.channel = some i.val ∧
        g.command.args = [(param.toNat : Int)] ∧ b.channels.lookup i = some ch ∧
        ch.config.lookup (param.toNat : Int) = some (value.toNat : Int) ∧
        r = configReply (UInt32.ofNat i.val) param value g.seq ∧ b' = b
  | 0x73 => Refuses b r b' ∨ ∃ (i : Fin 10) (ch : Channel) (param value : Int),
      g.command.channel = some i.val ∧ g.command.args = [param, value] ∧
      b.channels.lookup i = some ch ∧ param ∈ ch.config ∧ r = okReply g.seq ∧
      b' = b.put i { ch with config := ch.config.insert param value }
  | 0x6d => (Refuses b r b' ∧ ∀ i : Fin 10, g.command.channel = some i.val → i ∈ b.channels →
        g.command.args.getD 3 0 ≠ g.payload.length) ∨
      ∃ (i : Fin 10) (ch : Channel) (interval txflags : Int), g.command.channel = some i.val ∧
        b.channels.lookup i = some ch ∧
        (perChannel ≤ ch.periodic.entries.length ∧
            r = errorReply (UInt32.ofNat errExceededLimit) g.seq ∧ b' = b ∨
          ch.periodic.entries.length < perChannel ∧
            r = periodicReply (UInt32.ofNat i.val) (UInt32.ofNat b.nextPeriodicId) g.seq ∧
            b' = b.scheduled i ch ⟨interval, g.payload, txflags⟩)
  | 0x6e => (Refuses b r b' ∧ ∀ i : Fin 10, g.command.channel = some i.val → i ∉ b.channels) ∨
      ∃ (i : Fin 10) (ch : Channel) (id : Int), g.command.channel = some i.val ∧
        g.command.args = [id] ∧ b.channels.lookup i = some ch ∧
        (id ∉ ch.periodic ∧ r = errorReply (UInt32.ofNat errInvalidMsgId) g.seq ∧ b' = b ∨
          id ∈ ch.periodic ∧ r = okReply g.seq ∧
            b' = b.put i { ch with periodic := ch.periodic.erase id })
  | 0x6c => ∃ i : Fin 10, g.command.channel = some i.val ∧ r = okReply g.seq ∧
      (i ∉ b.channels ∧ b' = b ∨
        ∃ ch, b.channels.lookup i = some ch ∧ b' = b.put i { ch with periodic := ∅ })
  | _ => True

/-- **The verb tells what a command comes to.** -/
theorem Specified.does {b b' : Books} {g : Given} {r : WireRecord} (h : Specified b g r b')
    {verb : UInt8} (hv : g.command.verb = verb) : Does verb b g r b' := by
  subst hv
  cases h with
  | info hc =>
      rw [hc]
      trivial
  | @answered t t' _ hb hc ha =>
      subst hb
      cases ha with
      | reset hv => rcases hv with hv | hv <;> rw [hv] <;> exact ⟨rfl, rfl⟩
      | opened i flags baud more hv hch hargs hno =>
          rw [hv]
          exact Or.inr ⟨i, flags, baud, more, hch, hargs, hno, rfl, rfl⟩
      | shut i hv hch =>
          rw [hv]
          exact ⟨i, hch, rfl, rfl⟩
      | pin _ _ hv =>
          rw [hv]
          trivial
      | config i ch param value hv hch hargs hl hval =>
          rw [hv]
          exact Or.inr ⟨i, ch, param, value, hch, hargs, hl, hval, rfl, rfl⟩
      | configured i ch param value hv hch hargs hl hin =>
          rw [hv]
          exact Or.inr ⟨i, ch, param, value, hch, hargs, hl, hin, rfl, rfl⟩
      | filtered _ _ _ hv =>
          rw [hv]
          trivial
      | unfiltered _ _ _ _ hv =>
          rw [hv]
          trivial
      | scheduled i ch interval zero txflags length hv hch _ hl _ hfew =>
          rw [hv]
          exact Or.inr ⟨i, ch, interval, txflags, hch, hl, Or.inr ⟨hfew, rfl, rfl⟩⟩
      | full i ch interval zero txflags length hv hch _ hl _ hfull =>
          rw [hv]
          exact Or.inr ⟨i, ch, interval, txflags, hch, hl, Or.inl ⟨hfull, rfl, rfl⟩⟩
      | unscheduled i ch id hv hch hargs hl hin =>
          rw [hv]
          exact Or.inr ⟨i, ch, id, hch, hargs, hl, Or.inr ⟨hin, rfl, rfl⟩⟩
      | unknown i ch id hv hch hargs hl hout =>
          rw [hv]
          exact Or.inr ⟨i, ch, id, hch, hargs, hl, Or.inl ⟨hout, rfl, rfl⟩⟩
      | emptied i ch hv hch hl =>
          rw [hv]
          exact ⟨i, hch, rfl, Or.inr ⟨ch, hl, rfl⟩⟩
      | nothing i hv hch hno =>
          rw [hv]
          exact ⟨i, hch, rfl, Or.inl ⟨hno, rfl⟩⟩
      | done hv => rcases hv with hv | hv | hv | hv <;> rw [hv] <;> trivial
      | refused code _ _ hnever hperiodic hconfig =>
          obtain ⟨h1, h2, h3, h4⟩ := hnever
          unfold Does
          split <;> rename_i hv
          · exact absurd hv h1
          · exact absurd hv h2
          · exact Or.inl ⟨rfl, rfl⟩
          · exact absurd hv h3
          · exact Or.inl ⟨⟨rfl, rfl⟩, hconfig hv⟩
          · exact Or.inl ⟨rfl, rfl⟩
          · exact Or.inl ⟨⟨rfl, rfl⟩, fun i hch hin => (hperiodic (Or.inl hv) i hch hin).2⟩
          · refine Or.inl ⟨⟨rfl, rfl⟩, fun i hch hin => ?_⟩
            have hm := (hperiodic (Or.inr hv) i hch hin).1
            rw [hv] at hm
            cases hm
          · exact absurd hv h4
          · trivial

theorem Still.books {e : Setup} {s s' : Sim} (h : Still e s s') : s'.books = s.books := by
  show Books.mk s'.channels s'.nextFilterId s'.nextPeriodicId s'.born = _
  rw [h.channels, h.filterIds, h.periodicIds, h.born]
  rfl

/-! ## 3. A parameter is a register -/

/-- A parameter of a channel that is open. -/
def Books.param (b : Books) (i : Fin 10) (k : Int) : Option Int :=
  (b.channels.lookup i).bind fun ch => ch.config.lookup k

theorem param_some {b : Books} {i : Fin 10} {k v : Int} : b.param i k = some v ↔
    ∃ ch, b.channels.lookup i = some ch ∧ ch.config.lookup k = some v := Option.bind_eq_some_iff

/-- What may change it once it is there: a reset, closing the channel, and `ats`. -/
def Given.Sets (g : Given) (i : Fin 10) (k : Int) : Prop :=
  g.command.verb = 0x61 ∨ g.command.verb = 0x7a ∨ g.command.channel = some i.val ∧
    (g.command.verb = 0x63 ∨ g.command.verb = 0x73 ∧ g.command.args.head? = some k)

/-- Another channel is put in, or the same one with its parameter as it was. -/
theorem param_insert {b : Books} {i j : Fin 10} {k v : Int} {ch : Channel}
    {channels : Dict (Fin 10) Channel} (hch : channels = b.channels.insert j ch)
    (h : b.param i k = some v) (hsame : i = j → ch.config.lookup k = some v) :
    ∃ d, channels.lookup i = some d ∧ d.config.lookup k = some v := by
  obtain ⟨c, hl, hk⟩ := param_some.mp h
  rw [hch]
  by_cases e : i = j
  · rw [e, AList.lookup_insert]
    exact ⟨ch, rfl, hsame e⟩
  · rw [AList.lookup_insert_ne e]
    exact ⟨c, hl, hk⟩

/-- **Any other command leaves a parameter as it is.** -/
theorem Specified.keeps {b b' : Books} {g : Given} {r : WireRecord} (h : Specified b g r b')
    {i : Fin 10} {k v : Int} (hg : ¬g.Sets i k) (hv : b.param i k = some v) :
    b'.param i k = some v := by
  cases h with
  | info => exact hv
  | @answered t t' _ hb hc ha =>
      subst hb
      obtain ⟨c, hl, hk⟩ := param_some.mp hv
      -- a channel is put back with the parameters it had
      have hput : ∀ (j : Fin 10) (d d' : Channel), t.channels.lookup j = some d →
          d'.config = d.config → ∃ d'', (t.channels.insert j d').lookup i = some d'' ∧
            d''.config.lookup k = some v := by
        intro j d d' hd hconf
        refine param_insert (b := t.books) rfl hv fun e => ?_
        subst e
        rw [hconf, ← Option.some.inj (hl.symm.trans hd)]
        exact hk
      refine param_some.mpr ?_
      cases ha with
      | reset hverb =>
          exact absurd (hverb.elim Or.inl fun h => Or.inr (Or.inl h)) hg
      | opened j flags baud more _ _ _ hno =>
          refine param_insert (b := t.books) rfl hv fun e => ?_
          subst e
          exact absurd (mem_of_lookup hl) hno
      | shut j hverb hch =>
          have hne : i ≠ j := fun e => hg (Or.inr (Or.inr ⟨e ▸ hch, Or.inl hverb⟩))
          refine ⟨c, ?_, hk⟩
          show (t.channels.erase j).lookup i = some c
          rw [AList.lookup_erase_ne hne]
          exact hl
      | configured j d param value hverb hch hargs hd =>
          refine param_insert (b := t.books) rfl hv fun e => ?_
          subst e
          have hne : k ≠ param := by
            intro e
            refine hg (Or.inr (Or.inr ⟨hch, Or.inr ⟨hverb, ?_⟩⟩))
            rw [hargs, e]
            rfl
          rw [show (d.config.insert param value).lookup k = d.config.lookup k from
            AList.lookup_insert_ne hne, ← Option.some.inj (hl.symm.trans hd)]
          exact hk
      | filtered j d f _ _ hd => exact hput j d _ hd rfl
      | unfiltered j d id fs _ _ _ hd => exact hput j d _ hd rfl
      | scheduled j d interval zero txflags length _ _ _ hd => exact hput j d _ hd rfl
      | unscheduled j d id _ _ _ hd => exact hput j d _ hd rfl
      | emptied j d _ _ hd => exact hput j d _ hd rfl
      | pin | config | full | unknown | nothing | done | refused => exact ⟨c, hl, hk⟩

/-- `ats` that is done sets it. -/
theorem Specified.set {b b' : Books} {g : Given} {r : WireRecord} (h : Specified b g r b')
    {i : Fin 10} {k v : Int} (hverb : g.command.verb = 0x73) (hch : g.command.channel = some i.val)
    (hargs : g.command.args = [k, v]) (hok : r.val.reply.kind ≠ .error) : b'.param i k = some v := by
  rcases h.does hverb with ⟨hr, -⟩ | ⟨j, d, param, value, hj, ha, hd, -, -, rfl⟩
  · exact absurd hr hok
  · obtain rfl : j = i := Fin.ext (Option.some.inj (hj.symm.trans hch))
    obtain ⟨rfl, e⟩ := List.cons.inj (ha.symm.trans hargs)
    obtain rfl := (List.cons.inj e).1
    refine param_some.mpr ⟨_, AList.lookup_insert _, ?_⟩
    exact AList.lookup_insert _

/-- What `atg` says of a parameter. -/
def Reads (i : Fin 10) (k v : Int) (seq : UInt32) (r : WireRecord) : Prop :=
  ∃ param value : UInt32, (param.toNat : Int) = k ∧ (value.toNat : Int) = v ∧
    r = configReply (UInt32.ofNat i.val) param value seq

/-- `atg` says what it is. -/
theorem Specified.got {b b' : Books} {g : Given} {r : WireRecord} (h : Specified b g r b')
    {i : Fin 10} {k v : Int} (hverb : g.command.verb = 0x67) (hch : g.command.channel = some i.val)
    (hargs : g.command.args = [k]) (hv : b.param i k = some v) : Reads i k v g.seq r := by
  obtain ⟨c, hl, hk⟩ := param_some.mp hv
  rcases h.does hverb with ⟨-, hno⟩ | ⟨j, d, param, value, hj, ha, hd, hval, hr, -⟩
  · exact absurd (mem_of_lookup hk) (hno i c k hch hargs hl)
  · obtain rfl : j = i := Fin.ext (Option.some.inj (hj.symm.trans hch))
    obtain ⟨rfl, -⟩ := List.cons.inj (ha.symm.trans hargs)
    obtain rfl := Option.some.inj (hl.symm.trans hd)
    exact ⟨param, value, rfl, Option.some.inj (hval.symm.trans hk), hr⟩

/-- The replies that give out an id. -/
def GivesId (kind : OpReplyKind) : Prop := kind = .filter ∨ kind = .periodic

/-- The id that is given out next. -/
def Books.counter (b : Books) (kind : OpReplyKind) : Nat :=
  if kind = .filter then b.nextFilterId else b.nextPeriodicId

/-- A reset begins the ids of the filters again. -/
def Given.Resets (g : Given) : Prop := g.command.verb = 0x61 ∨ g.command.verb = 0x7a

/-- **No command takes an id back**, but a reset those of the filters. -/
theorem Specified.counts {b b' : Books} {g : Given} {r : WireRecord} (h : Specified b g r b')
    (kind : OpReplyKind) : (kind = .filter → ¬g.Resets) → b.counter kind ≤ b'.counter kind := by
  unfold Books.counter
  intro hg
  cases h with
  | info => exact Nat.le_refl _
  | answered hb _ ha =>
      subst hb
      split
      · rename_i hf
        cases ha with
        | reset h => exact absurd h (hg hf)
        | filtered => exact Nat.le_succ _
        | opened | shut | configured | unfiltered | scheduled | unscheduled | emptied =>
            exact Nat.le_refl _
        | pin | config | full | unknown | nothing | done | refused => exact Nat.le_refl _
      · cases ha with
        | scheduled => exact Nat.le_succ _
        | reset | filtered | opened | shut | configured | unfiltered | unscheduled | emptied =>
            exact Nat.le_refl _
        | pin | config | full | unknown | nothing | done | refused => exact Nat.le_refl _

/-- A command gives out one id at most. -/
theorem Specified.slow {b b' : Books} {g : Given} {r : WireRecord} (h : Specified b g r b')
    (kind : OpReplyKind) : b'.counter kind ≤ b.counter kind + 1 := by
  unfold Books.counter
  cases h with
  | info => exact Nat.le_succ _
  | answered hb _ ha =>
      subst hb
      split
      · cases ha with
        | reset => exact Nat.zero_le _
        | filtered => exact Nat.le_refl _
        | opened | shut | configured | unfiltered | scheduled | unscheduled | emptied =>
            exact Nat.le_succ _
        | pin | config | full | unknown | nothing | done | refused => exact Nat.le_succ _
      · cases ha with
        | scheduled => exact Nat.le_refl _
        | reset | filtered | opened | shut | configured | unfiltered | unscheduled | emptied =>
            exact Nat.le_succ _
        | pin | config | full | unknown | nothing | done | refused => exact Nat.le_succ _

/-- The id a reply gives out is the next one. -/
theorem Specified.gives {b b' : Books} {g : Given} {r : WireRecord} (h : Specified b g r b')
    (hid : GivesId r.val.reply.kind) : r.val.reply.a = UInt32.ofNat (b.counter r.val.reply.kind) ∧
      b'.counter r.val.reply.kind = b.counter r.val.reply.kind + 1 := by
  cases h with
  | info => rcases hid with h | h <;> cases h
  | answered hb _ ha =>
      subst hb
      cases ha with
      | filtered => exact ⟨rfl, rfl⟩
      | scheduled => exact ⟨rfl, rfl⟩
      | reset | opened | shut | configured | unfiltered | unscheduled | emptied =>
          rcases hid with h | h <;> cases h
      | pin | config | full | unknown | nothing | done | refused =>
          rcases hid with h | h <;> cases h

/-- **No id is given out twice**: a later filter has another id unless the cable is reset between, and
    a later periodic message has in any case. -/
theorem ids_apart {b b' : Books} {pre mid post : List (Given × WireRecord)} {w r : Given × WireRecord}
    (h : Sequential b (pre ++ w :: (mid ++ r :: post)) b') (hid : GivesId w.2.val.reply.kind)
    (hkind : r.2.val.reply.kind = w.2.val.reply.kind)
    (hmid : w.2.val.reply.kind = .filter → ∀ p ∈ mid, ¬p.1.Resets)
    (hroom : b.counter w.2.val.reply.kind + (pre ++ w :: mid).length < 2 ^ 32) :
    w.2.val.reply.a < r.2.val.reply.a := by
  have hslow : ∀ (s : Books) (p : Given × WireRecord) (s' : Books), Specified s p.1 p.2 s' →
      s'.counter w.2.val.reply.kind ≤ s.counter w.2.val.reply.kind + 1 :=
    fun _ _ _ hs => hs.slow _
  rw [List.length_append, List.length_cons] at hroom
  have hgive : ∀ s1 s2, Sequential b pre s1 → Specified s1 w.1 w.2 s2 →
      w.2.val.reply.a.toNat < s2.counter w.2.val.reply.kind := by
    intro s1 s2 hpre hs
    have hle := Row.climbs hslow hpre
    obtain ⟨ha, hnext⟩ := hs.gives hid
    rw [hnext, ha, ofNat_toNat (by omega)]
    exact Nat.lt_succ_self _
  obtain ⟨b1, b2, hrow, hlt, hspec, -⟩ := Row.since
    (P := fun s => w.2.val.reply.a.toNat < s.counter w.2.val.reply.kind)
    (G := fun p => w.2.val.reply.kind = .filter → ¬p.1.Resets) h hgive
    (fun s p s' hs hg hv => Nat.lt_of_lt_of_le hv (hs.counts _ hg)) fun p hp hf => hmid hf p hp
  have hle := Row.climbs hslow hrow
  rw [List.length_append, List.length_cons] at hle
  obtain ⟨ha, -⟩ := hspec.gives (hkind ▸ hid)
  rw [hkind] at ha
  rw [UInt32.lt_iff_toNat_lt, ha, ofNat_toNat (by omega)]
  exact hlt

/-! ## 5. Periodic messages -/

/-- **Where a periodic message comes from**: it was on the channel before, or it is scheduled there
    now, with the next id. -/
theorem Specified.came {b b' : Books} {g : Given} {r : WireRecord} (h : Specified b g r b')
    {j : Fin 10} {c' : Channel} {id : Int} (hl : b'.channels.lookup j = some c')
    (hid : id ∈ c'.periodic) : (∃ c, b.channels.lookup j = some c ∧ id ∈ c.periodic) ∨
      id = b.nextPeriodicId ∧ b'.nextPeriodicId = b.nextPeriodicId + 1 ∧
        g.command.channel = some j.val := by
  cases h with
  | info => exact Or.inl ⟨c', hl, hid⟩
  | @answered t t' _ hb hc ha =>
      subst hb
      -- a channel is put back with some of its messages
      have hput : ∀ (i : Fin 10) (c d : Channel), (t.channels.insert i d).lookup j = some c' →
          t.channels.lookup i = some c → (id ∈ d.periodic → id ∈ c.periodic) →
          ∃ c, t.channels.lookup j = some c ∧ id ∈ c.periodic := by
        intro i c d hj hi hsub
        rcases lookup_insert_cases hj with ⟨rfl, rfl⟩ | ⟨-, hj⟩
        · exact ⟨c, hi, hsub hid⟩
        · exact ⟨c', hj, hid⟩
      cases ha with
      | reset => cases hl
      | opened i flags baud more _ _ _ _ =>
          rcases lookup_insert_cases hl with ⟨-, rfl⟩ | ⟨-, hl⟩
          · exact absurd hid (AList.notMem_empty id)
          · exact Or.inl ⟨c', hl, hid⟩
      | shut i => exact Or.inl ⟨c', lookup_erase_some hl, hid⟩
      | configured i d param value _ _ _ hd => exact Or.inl (hput i d _ hl hd fun h => h)
      | filtered i d f _ _ hd => exact Or.inl (hput i d _ hl hd fun h => h)
      | unfiltered i d _ fs _ _ _ hd => exact Or.inl (hput i d _ hl hd fun h => h)
      | scheduled i d interval zero txflags length _ hch _ hd =>
          rcases lookup_insert_cases hl with ⟨rfl, rfl⟩ | ⟨-, hl⟩
          · rcases (AList.mem_insert _).mp hid with rfl | hid
            · exact Or.inr ⟨rfl, rfl, hch⟩
            · exact Or.inl ⟨d, hd, hid⟩
          · exact Or.inl ⟨c', hl, hid⟩
      | unscheduled i d k _ _ _ hd =>
          exact Or.inl (hput i d _ hl hd fun h => (AList.mem_erase.mp h).2)
      | emptied i d _ _ hd =>
          exact Or.inl (hput i d _ hl hd fun h => absurd h (AList.notMem_empty id))
      | pin | config | full | unknown | nothing | done | refused => exact Or.inl ⟨c', hl, hid⟩

/-- The ids on the channels were given out. -/
def Books.Below (b : Books) : Prop :=
  ∀ i c id, b.channels.lookup i = some c → id ∈ c.periodic → id < b.nextPeriodicId

/-- The id was given out, and only these channels may have it. -/
structure Books.Only (b : Books) (on : Fin 10 → Prop) (id : Int) : Prop where
  given : id < b.nextPeriodicId
  only : ∀ j c, b.channels.lookup j = some c → id ∈ c.periodic → on j

theorem Specified.periodicIds {b b' : Books} {g : Given} {r : WireRecord} (h : Specified b g r b') :
    b.nextPeriodicId ≤ b'.nextPeriodicId :=
  h.counts .periodic fun e => nomatch e

theorem Specified.below {b b' : Books} {g : Given} {r : WireRecord} (h : Specified b g r b')
    (hb : b.Below) : b'.Below := by
  intro i c id hl hid
  have hle := h.periodicIds
  rcases h.came hl hid with ⟨d, hd, hid⟩ | ⟨rfl, hnext, -⟩
  · have := hb i d id hd hid
    omega
  · omega

/-- No command puts a message on another channel. -/
theorem Specified.only {b b' : Books} {g : Given} {r : WireRecord} (h : Specified b g r b')
    {on : Fin 10 → Prop} {id : Int} (hb : b.Only on id) : b'.Only on id := by
  have hle := h.periodicIds
  have hgiven := hb.given
  refine ⟨by omega, fun j c hl hid => ?_⟩
  rcases h.came hl hid with ⟨d, hd, hid⟩ | ⟨rfl, -⟩
  · exact hb.only j d hd hid
  · exact absurd hgiven (Int.lt_irrefl _)

/-- `atm` puts it on the channel it names. -/
theorem Specified.schedules {b b' : Books} {g : Given} {r : WireRecord} (h : Specified b g r b')
    (hb : b.Below) (hroom : b.nextPeriodicId < 2 ^ 32) (hkind : r.val.reply.kind = .periodic)
    {i : Fin 10} (hch : g.command.channel = some i.val) :
    b'.Only (· = i) (r.val.reply.a.toNat : Int) := by
  obtain ⟨ha, hnext⟩ := h.gives (Or.inr hkind)
  rw [hkind] at ha hnext
  have hid : (r.val.reply.a.toNat : Int) = b.nextPeriodicId := by
    rw [ha]
    exact congrArg Nat.cast (ofNat_toNat hroom)
  have hnext' : b'.nextPeriodicId = b.nextPeriodicId + 1 := hnext
  refine ⟨by omega, fun j c hl hin => ?_⟩
  rcases h.came hl hin with ⟨d, hd, hin⟩ | ⟨-, -, hj⟩
  · have := hb j d _ hd hin
    omega
  · exact Fin.ext (Option.some.inj (hj.symm.trans hch))

/-- What ends a message on a channel: stopping it, clearing or closing the channel, a reset. -/
def Given.Ends (g : Given) (i : Fin 10) (id : Int) : Prop :=
  g.Resets ∨ g.command.channel = some i.val ∧ (g.command.verb = 0x63 ∨ g.command.verb = 0x6c ∨
    g.command.verb = 0x6e ∧ g.command.args = [id])

/-- **Once that is answered `aro`, no channel has it.** -/
theorem Specified.ended {b b' : Books} {g : Given} {r : WireRecord} (h : Specified b g r b')
    {i : Fin 10} {id : Int} (hg : g.Ends i id) (hok : r.val.reply.kind = .ok)
    (hb : b.Only (· = i) id) : b'.Only (fun _ => False) id := by
  have hkept := h.only hb
  refine ⟨hkept.given, fun j c hl hid => ?_⟩
  obtain rfl : j = i := hkept.only j c hl hid
  have hreset : ∀ w, g.command.verb = w → w = 0x61 ∨ w = 0x7a → False := by
    rintro w hw (rfl | rfl)
    · obtain ⟨-, rfl⟩ := h.does hw
      cases hl
    · obtain ⟨-, rfl⟩ := h.does hw
      cases hl
  have herr : r.val.reply.kind ≠ .error := fun e => nomatch hok.symm.trans e
  rcases hg with (hv | hv) | ⟨hch, hv | hv | ⟨hv, hargs⟩⟩
  · exact hreset _ hv (Or.inl rfl)
  · exact hreset _ hv (Or.inr rfl)
  · obtain ⟨k, hk, -, rfl⟩ := h.does hv
    obtain rfl : k = j := Fin.ext (Option.some.inj (hk.symm.trans hch))
    rw [show ({ b with channels := b.channels.erase k } : Books).channels.lookup k = none from
      AList.lookup_erase _ _] at hl
    cases hl
  · obtain ⟨k, hk, -, ⟨hno, rfl⟩ | ⟨d, -, rfl⟩⟩ := h.does hv
    · obtain rfl : k = j := Fin.ext (Option.some.inj (hk.symm.trans hch))
      exact hno (mem_of_lookup hl)
    · obtain rfl : k = j := Fin.ext (Option.some.inj (hk.symm.trans hch))
      rcases lookup_insert_cases hl with ⟨-, rfl⟩ | ⟨hne, -⟩
      · exact AList.notMem_empty id hid
      · exact hne rfl
  · rcases h.does hv with ⟨⟨hr, -⟩, -⟩ | ⟨k, d, m, hk, ha, -, ⟨-, rfl, -⟩ | ⟨-, -, rfl⟩⟩
    · exact herr hr
    · exact herr rfl
    · obtain rfl : k = j := Fin.ext (Option.some.inj (hk.symm.trans hch))
      obtain rfl := (List.cons.inj (ha.symm.trans hargs)).1
      rcases lookup_insert_cases hl with ⟨-, rfl⟩ | ⟨hne, -⟩
      · exact (AList.mem_erase.mp hid).1 rfl
      · exact hne rfl

/-- **A message that was scheduled and then ended is gone for good.** -/
theorem ended_gone {b b' : Books} {pre mid post : List (Given × WireRecord)} {w r : Given × WireRecord}
    (h : Sequential b (pre ++ w :: (mid ++ r :: post)) b') (hb : b.Below)
    (hroom : b.nextPeriodicId + pre.length < 2 ^ 32) (hkind : w.2.val.reply.kind = .periodic)
    {i : Fin 10} (hch : w.1.command.channel = some i.val)
    (hends : r.1.Ends i (w.2.val.reply.a.toNat : Int)) (hok : r.2.val.reply.kind = .ok) :
    b'.Only (fun _ => False) (w.2.val.reply.a.toNat : Int) := by
  have hbelow : ∀ (s : Books) (p : Given × WireRecord) (s' : Books), Specified s p.1 p.2 s' →
      True → s.Below → s'.Below := fun _ _ _ hs _ hb => hs.below hb
  have hslow : ∀ (s : Books) (p : Given × WireRecord) (s' : Books), Specified s p.1 p.2 s' →
      s'.counter .periodic ≤ s.counter .periodic + 1 := fun _ _ _ hs => hs.slow _
  have hschedules : ∀ s1 s2, Sequential b pre s1 → Specified s1 w.1 w.2 s2 →
      s2.Only (· = i) (w.2.val.reply.a.toNat : Int) := by
    intro s1 s2 hpre hs
    have hle : s1.nextPeriodicId ≤ b.nextPeriodicId + pre.length := Row.climbs hslow hpre
    exact hs.schedules (hpre.keeps hbelow (fun _ _ => trivial) hb) (by omega) hkind hch
  obtain ⟨b1, b2, -, honly, hspec, hpost⟩ := Row.since (G := fun _ => True) h hschedules
    (fun _ _ _ hs _ hv => hs.only hv) fun _ _ => trivial
  exact Row.keeps (P := fun s => s.Only (fun _ => False) (w.2.val.reply.a.toNat : Int))
    (G := fun _ => True) (fun _ _ _ hs _ hv => hs.only hv) hpost (fun _ _ => trivial)
    (hspec.ended hends hok honly)

/-! ## 6. Open channels -/

/-- A channel is open, with these flags and at this rate. -/
def Books.On (b : Books) (i : Fin 10) (flags baud : Int) : Prop :=
  ∃ c, b.channels.lookup i = some c ∧ c.flags = flags ∧ c.baud = baud

/-- What may close it: a reset, and `atc`. -/
def Shuts (c : Command) (i : Fin 10) : Prop :=
  c.verb = 0x61 ∨ c.verb = 0x7a ∨ c.verb = 0x63 ∧ c.channel = some i.val

/-- `ato` that is done opens it. -/
theorem Specified.opens {b b' : Books} {g : Given} {r : WireRecord} (h : Specified b g r b')
    {i : Fin 10} {flags baud m : Int} (hverb : g.command.verb = 0x6f)
    (hch : g.command.channel = some i.val) (hargs : g.command.args = [flags, baud, m])
    (hok : r.val.reply.kind ≠ .error) : b'.On i flags baud := by
  rcases h.does hverb with ⟨hr, -⟩ | ⟨j, f, d, n, hj, ha, -, -, rfl⟩
  · exact absurd hr hok
  · obtain rfl : j = i := Fin.ext (Option.some.inj (hj.symm.trans hch))
    obtain ⟨rfl, e⟩ := List.cons.inj (ha.symm.trans hargs)
    obtain ⟨rfl, -⟩ := List.cons.inj e
    exact ⟨_, AList.lookup_insert _, rfl, rfl⟩

/-- No refusal has the code 0, which the driver takes for success. -/
theorem Specified.errs {b b' : Books} {g : Given} {r : WireRecord} (h : Specified b g r b')
    (hk : r.val.reply.kind = .error) : r.val.reply.errorCode ≠ 0 := by
  cases h with
  | info => cases hk
  | @answered t t' _ _ _ ha =>
      cases ha with
      | full => exact of_decide_eq_true rfl
      | unknown => exact of_decide_eq_true rfl
      | refused code hlt hne =>
          intro h0
          have h0 : UInt32.ofNat code = 0 := h0
          have hnat := congrArg UInt32.toNat h0
          rw [ofNat_toNat hlt] at hnat
          exact hne hnat
      | reset | opened | shut | pin | config | configured | filtered | unfiltered => cases hk
      | scheduled | unscheduled | emptied | nothing | done => cases hk

/-- **Any other command leaves it open.** -/
theorem Specified.stays {b b' : Books} {g : Given} {r : WireRecord} (h : Specified b g r b')
    {i : Fin 10} {flags baud : Int} (hg : ¬Shuts g.command i) (ho : b.On i flags baud) :
    b'.On i flags baud := by
  cases h with
  | info => exact ho
  | @answered t t' _ hb hc ha =>
      subst hb
      obtain ⟨c, hl, hf, hd⟩ := ho
      -- a channel is put back as it was opened
      have hput : ∀ (j : Fin 10) (d d' : Channel), t.channels.lookup j = some d →
          d'.flags = d.flags → d'.baud = d.baud → ∃ d'', (t.channels.insert j d').lookup i =
            some d'' ∧ d''.flags = flags ∧ d''.baud = baud := by
        intro j d d' hj hflags hbaud
        by_cases e : i = j
        · subst e
          obtain rfl := Option.some.inj (hl.symm.trans hj)
          exact ⟨d', AList.lookup_insert _, hflags.trans hf, hbaud.trans hd⟩
        · exact ⟨c, (AList.lookup_insert_ne e).trans hl, hf, hd⟩
      cases ha with
      | reset hverb => exact absurd (hverb.elim Or.inl fun h => Or.inr (Or.inl h)) hg
      | opened j f d more _ _ _ hno =>
          have hne : i ≠ j := fun e => hno (e ▸ mem_of_lookup hl)
          exact ⟨c, (AList.lookup_insert_ne hne).trans hl, hf, hd⟩
      | shut j hverb hch =>
          have hne : i ≠ j := fun e => hg (Or.inr (Or.inr ⟨hverb, e ▸ hch⟩))
          exact ⟨c, (AList.lookup_erase_ne hne).trans hl, hf, hd⟩
      | configured j d param value _ _ _ hj => exact hput j d _ hj rfl rfl
      | filtered j d f _ _ hj => exact hput j d _ hj rfl rfl
      | unfiltered j d id fs _ _ _ hj => exact hput j d _ hj rfl rfl
      | scheduled j d interval zero txflags length _ _ _ hj => exact hput j d _ hj rfl rfl
      | unscheduled j d id _ _ _ hj => exact hput j d _ hj rfl rfl
      | emptied j d _ _ hj => exact hput j d _ hj rfl rfl
      | pin | config | full | unknown | nothing | done | refused => exact ⟨c, hl, hf, hd⟩

end Openport.Simulator
