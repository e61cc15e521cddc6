/-
  File:      Openport/Car/Conduct.lean
  Subject:   What the sections of the capture tool keep.

  A section keeps every invariant that stands the guarded frames, with one
  exception: `q3_txflags` builds its frames itself, so its invariant has to stand
  these too. The K-line sections have their protocol from the table of inits.
-/
import Openport.Car.Envelope

namespace Openport.Car

open Lib Lib.Decimal Lib.Raising

variable {I : Tool → Prop} {E : Raised → Prop}

/-! ## 1. ISO 15765 -/

theorem Conduct.pack_keeps (h : Conduct I E) (n : Int) :
    Triple I (pack n) (fun _ s => I s ∧ Packs n) fun e s => I s ∧ E e :=
  (pack_spec n fun _ _ hs => ⟨hs, h.failure⟩).returning fun _ _ hs => ⟨hs.1, hs.2.2⟩

/-- Behind its flow-control filter both ids are known to fit. -/
theorem Conduct.openIso_spec (h : Conduct I E) (rx tx : Int) :
    Triple I (openIso rx tx) (fun _ s => I s ∧ Packs rx ∧ Packs tx) fun e s => I s ∧ E e := by
  refine Triple.bind (M := fun _ => I) (h.cmd_keeps [] (by decide)) fun _ => ?_
  refine Triple.bind (h.pack_keeps _) fun mask => Triple.fact fun _ => ?_
  refine Triple.bind (h.pack_keeps rx) fun pat => Triple.fact fun hrx => ?_
  refine Triple.bind (h.pack_keeps tx) fun fc => Triple.fact fun htx => ?_
  refine Triple.bind (M := fun _ => I) (h.cmd_keeps _ (by decide)) fun _ => ?_
  exact Triple.pure fun s hs => ⟨hs, hrx, htx⟩

theorem Conduct.openIso_keeps (h : Conduct I E) (rx tx : Int) : Keeps I E (openIso rx tx) :=
  (h.openIso_spec rx tx).returning fun _ _ hs => hs.1

/-- **Behind a pre-flight that went well the id to transmit to was admitted.** -/
theorem Conduct.preflight_spec (h : Conduct I E) (tx rx : Int) :
    Triple I (preflight tx rx) (fun ok s => I s ∧ (ok = true → Admitted s.extraTx tx))
      fun e s => I s ∧ E e := by
  have hno : Triple I (Pure.pure false : Act Bool)
      (fun ok s => I s ∧ (ok = true → Admitted s.extraTx tx)) fun e s => I s ∧ E e :=
    Triple.pure fun s hs => ⟨hs, fun e => (nomatch e)⟩
  refine Triple.bind (M := fun _ => I) h.resync_keeps fun r => ?_
  split
  · exact hno
  · refine Triple.bind (M := fun _ => I) (h.tell_keeps [] (by decide)) fun _ => ?_
    refine Triple.bind (M := fun _ => I) (h.cmd_keeps [] (by decide)) fun r => ?_
    split
    · exact hno
    · refine Triple.bind (M := fun _ => I) (h.openIso_keeps rx tx) fun _ => ?_
      refine Triple.bind (h.transmit_spec tx (by decide)) fun _ => ?_
      exact Triple.pure fun s hs => ⟨hs.1, fun _ => hs.2⟩

theorem Conduct.q0_keeps (h : Conduct I E) (rx : Int) : Keeps I E (q0GenericObd rx) := by
  refine Keeps.bind h.resync_keeps fun _ => Keeps.bind (h.openIso_keeps rx _) fun _ => ?_
  have hne : ∀ svc ∈ [[0x01, 0x00], [0x01, 0x0c], [0x01, 0x05], [(0x09 : UInt8), 0x02]],
      svc ≠ [] := by decide
  exact Keeps.forM fun svc hs => h.ask_keeps _ (hne svc hs)

theorem Conduct.q1_keeps (h : Conduct I E) (tx rx : Int) : Keeps I E (q1ReceivedFrames tx rx) := by
  refine Keeps.bind h.resync_keeps fun _ => Keeps.bind (h.tell_keeps [] (by decide)) fun _ => ?_
  refine Triple.bind (h.pack_keeps _) fun mask => Triple.fact fun _ => ?_
  refine Triple.bind (h.pack_keeps rx) fun pat => Triple.fact fun _ => ?_
  refine Triple.bind (h.pack_keeps tx) fun fc => Triple.fact fun _ => ?_
  refine Keeps.bind (h.tell_keeps _ (by decide)) fun _ => ?_
  have hne : ∀ req ∈ [[0x3e, 0x00], [0x22, 0xf1, 0x90], [(0x22 : UInt8), 0xf1, 0x8c]],
      req ≠ [] := by decide
  refine Keeps.bind (Keeps.forM fun req hr => h.ask_keeps tx (hne req hr)) fun _ => ?_
  refine Keeps.bind h.resync_keeps fun _ => Keeps.bind (h.tell_keeps [] (by decide)) fun _ => ?_
  exact Keeps.bind (h.tell_keeps _ (by decide)) fun _ => h.ask_keeps tx (by decide)

/-- A frame of `q3_txflags`: the id in four bytes, and two behind it. -/
theorem sendFlagged_spec {J : Tool → Prop} {R : Raised → Tool → Prop} {tx : Int} {args : List Nat}
    (hpack : ¬Packs tx → ∀ s, I s → R .failed s)
    (hsend : Packs tx → Triple I
      (cmd (lineOf "att" 6 (6 :: args)) (BigEndian.bytes 4 tx.toNat ++ [0x3e, 0x00])) (fun _ => J) R) :
    Triple I (sendFlagged tx args) (fun _ => J) R := by
  refine Triple.bind (pack_spec tx hpack) fun b => Triple.fact fun hb => ?_
  have hgo : ∀ pl, pl = BigEndian.bytes 4 tx.toNat ++ [0x3e, 0x00] →
      Triple I (tell (lineOf "att" 6 (pl.length :: args)) pl) (fun _ => J) R := by
    intro pl hpl
    have hlen : pl.length = 6 := by
      rw [hpl, List.length_append, BigEndian.bytes_length]
      rfl
    rw [hlen, hpl]
    exact Triple.bind (hsend hb.2) fun _ => Triple.pure fun _ h => h
  exact hgo (b ++ [0x3e, 0x00]) (by rw [hb.1])

/-- Where the invariant stands it. -/
theorem Conduct.sendFlagged_keeps (h : Conduct I E) {tx : Int}
    (hq : ∀ s args, I s → I (s.wrote (lineOf "att" 6 (6 :: args))
      (BigEndian.bytes 4 tx.toNat ++ [0x3e, 0x00]))) (args : List Nat) :
    Keeps I E (sendFlagged tx args) :=
  sendFlagged_spec (fun _ _ hs => ⟨hs, h.failure⟩) fun _ => h.cmd_step fun _ hs => hq _ args hs

/-- **`q3_txflags` keeps what stands its frames**, and these it sends only where both ids fit. -/
theorem Conduct.q3_keeps (h : Conduct I E) {tx rx : Int}
    (hq : Packs rx → Packs tx → ∀ s args, I s → I (s.wrote (lineOf "att" 6 (6 :: args))
      (BigEndian.bytes 4 tx.toNat ++ [0x3e, 0x00]))) : Keeps I E (q3Txflags tx rx) := by
  have hturn : ∀ args, Triple I (flaggedTurn tx rx args) (fun _ s => I s ∧ Packs rx ∧ Packs tx)
      fun e s => I s ∧ E e := by
    intro args
    refine Triple.bind h.resync_keeps fun _ => ?_
    refine Triple.bind (h.openIso_spec rx tx) fun _ => Triple.fact fun hp => ?_
    exact (h.sendFlagged_keeps (hq hp.1 hp.2) args).returning fun _ _ hs => ⟨hs, hp⟩
  refine Keeps.bind (Keeps.forM fun flags _ => ?_) fun _ => ?_
  · exact (hturn [flags]).returning fun _ _ hs => hs.1
  · exact Triple.bind (hturn _) fun _ => Triple.fact fun hp => h.sendFlagged_keeps (hq hp.1 hp.2) _

theorem Steady.tells_keep (h : Steady I E) {lines : List String}
    (hl : ∀ c ∈ lines, isAtt (ascii c) = false) :
    Keeps I E (lines.forM fun c => tell (ascii c) []) :=
  Keeps.forM fun c hc => h.tell_keeps [] (hl c hc)

theorem Conduct.q5_keeps (h : Conduct I E) : Keeps I E q5Unknown := by
  refine Keeps.bind h.resync_keeps fun _ => Keeps.bind (h.tell_keeps [] (by decide)) fun _ => ?_
  exact h.tells_keep (by decide)

theorem Conduct.q6_keeps (h : Conduct I E) : Keeps I E q6Protocols := by
  refine Keeps.bind h.resync_keeps fun _ => ?_
  have hl : ∀ c ∈ ["ato10 0 500000 0\r\n", "ato1 0 500000 0\r\n", "ato11 0 500000 0\r\n",
      "ato0 0 500000 0\r\n", "ato6 0 500000 0 1\r\n"], isAtt (ascii c) = false := by decide
  refine Keeps.forM fun c hc => Keeps.bind (h.cmd_keeps [] (hl c hc)) fun r => ?_
  split
  · exact Keeps.bind (h.tell_keeps [] (by decide)) fun _ => h.tell_keeps [] (by decide)
  · exact Keeps.pure _

theorem Conduct.q7_keeps (h : Conduct I E) : Keeps I E q7Pins :=
  Keeps.bind h.resync_keeps fun _ => Keeps.forM fun _ _ => h.tell_keeps [] rfl

theorem Conduct.q8_keeps (h : Conduct I E) : Keeps I E q8BusErrors := by
  refine Keeps.bind h.resync_keeps fun _ => Keeps.bind (h.openIso_keeps _ _) fun _ => ?_
  exact Keeps.forM fun target _ => Keeps.bind (h.transmit_keeps target (by decide)) fun _ =>
    Keeps.pure _

theorem Conduct.q9_keeps (h : Conduct I E) (tx rx : Int) : Keeps I E (q9Loopback tx rx) := by
  refine Keeps.bind h.resync_keeps fun _ => Keeps.bind (h.openIso_keeps rx tx) fun _ => ?_
  refine Keeps.bind (h.tell_keeps [] (by decide)) fun _ => ?_
  refine Keeps.bind (h.tell_keeps [] (by decide)) fun _ => ?_
  refine Keeps.lastly (h.ask_keeps tx (by decide)) ?_
  exact Keeps.bind (h.tell_keeps [] (by decide)) fun _ => h.tell_keeps [] (by decide)

theorem Conduct.q10_keeps (h : Conduct I E) : Keeps I E q10RawCanListen := by
  refine Keeps.forM fun flags _ => Keeps.bind h.resync_keeps fun _ => ?_
  refine Keeps.bind (h.cmd_keeps [] rfl) fun r => ?_
  split
  · refine Triple.bind (h.pack_keeps _) fun mask => Triple.fact fun _ => ?_
    refine Keeps.bind (h.tell_keeps _ (by decide)) fun _ => ?_
    exact Keeps.bind h.drain_keeps fun _ => h.tell_keeps [] (by decide)
  · exact Keeps.pure _

theorem Conduct.q11_keeps (h : Conduct I E) : Keeps I E q11ConfigReadback := by
  have hl : ∀ p ∈ [(6, "ato6 0 500000 0\r\n"), ((4 : Nat), "ato4 0 10400 0\r\n")],
      isAtt (ascii p.2) = false := by decide
  refine Keeps.forM fun p hp => ?_
  obtain ⟨proto, line⟩ := p
  refine Keeps.bind h.resync_keeps fun _ => Keeps.bind (h.cmd_keeps [] (hl _ hp)) fun r => ?_
  split
  · refine Keeps.bind (Keeps.forM fun pid _ => h.tell_keeps [] rfl) fun _ => ?_
    exact h.tell_keeps [] rfl
  · exact Keeps.pure _

/-! ## 2. The K-line -/

/-- A protocol the K-line sections use. -/
def OnKline (proto : Nat) : Prop := proto = 3 ∨ proto = 4

theorem klineInits_ok : ∀ v ∈ klineInits,
    (v.proto = 3 ∨ v.proto = 4) ∧ isAtt (ascii v.line) = false := by decide

theorem vagReads_ne : ∀ svc ∈ vagReads, svc ≠ [] := by decide

theorem eobdReads_ne : ∀ svc ∈ eobdReads, svc ≠ [] := by decide

theorem Conduct.klineHeader_spec (h : Conduct I E) (proto : Nat) (physical : Bool) (n : Nat)
    (target : Option UInt8) :
    Triple I (klineHeader proto physical n target) (fun hdr s => I s ∧ hdr.length = 3)
      fun e s => I s ∧ E e := by
  unfold klineHeader
  split
  · exact Triple.pure fun s hs => ⟨hs, rfl⟩
  · split
    · exact Triple.throw fun s hs => ⟨hs, h.refusal⟩
    · exact Triple.pure fun s hs => ⟨hs, rfl⟩

theorem Conduct.klineRequests_keeps (h : Conduct I E) {proto : Nat} (hp : OnKline proto)
    (physical : Bool) {requests : List Bytes} (hr : ∀ svc ∈ requests, svc ≠ [])
    (target : Option UInt8) : Keeps I E (klineRequests proto physical requests target) := by
  refine Keeps.forM fun svc hs => Keeps.bind (Keeps.caught E ?_ fun e he => ?_) fun _ =>
    Keeps.bind h.drain_keeps fun _ => Keeps.pure _
  · refine Triple.bind (h.klineHeader_spec _ _ _ _) fun hdr => Triple.fact fun hlen => ?_
    exact Keeps.bind (h.transmitKline_keeps hp hlen (hr svc hs)) fun _ => Keeps.pure _
  · split
    · exact Keeps.pure _
    · exact Keeps.throw he

theorem Conduct.klineInit_keeps (h : Conduct I E) {v : KlineInit} (hv : v ∈ klineInits) :
    Keeps I E (klineInit v) := by
  refine Keeps.bind h.resync_keeps fun _ => Keeps.bind (h.cmd_keeps [] rfl) fun r => ?_
  split
  · exact Keeps.pure _
  · refine Keeps.bind (Keeps.forM fun p _ => h.tell_keeps [] rfl) fun _ => ?_
    refine Keeps.bind (h.tell_keeps _ rfl) fun _ => ?_
    exact Keeps.bind (h.cmd_keeps _ (klineInits_ok v hv).2) fun _ => Keeps.pure _

theorem Conduct.klineEcho_keeps (h : Conduct I E) : Keeps I E klineEcho := by
  refine Keeps.bind h.resync_keeps fun _ => Keeps.bind (h.tell_keeps [] rfl) fun _ => ?_
  refine Keeps.bind (h.tell_keeps [] (by decide)) fun _ => ?_
  refine Keeps.bind (h.tell_keeps _ (by decide)) fun _ => ?_
  refine Keeps.bind (h.transmitKline_keeps (Or.inl rfl) rfl (by decide)) fun _ => ?_
  exact Keeps.bind h.drain_keeps fun _ => h.tell_keeps [] (by decide)

theorem Conduct.manualTries_keep (h : Conduct I E) (target : UInt8) (n : Nat) :
    Keeps I E (manualTries target n) := by
  induction n with
  | zero => exact Keeps.pure _
  | succ n ih =>
      refine Keeps.bind (h.cmdLine_keeps (by decide)) fun _ => ?_
      refine Keeps.bind (h.transmitKline_keeps (Or.inr rfl) rfl (by decide)) fun r => ?_
      refine Keeps.bind h.drain_keeps fun more => ?_
      split
      · exact Keeps.pure _
      · exact ih

theorem Conduct.klineManualFast_keeps (h : Conduct I E) (target : UInt8) {reads : List Bytes}
    (hr : ∀ svc ∈ reads, svc ≠ []) : Keeps I E (klineManualFast target reads) := by
  refine Keeps.bind h.resync_keeps fun _ => Keeps.bind (h.tell_keeps [] (by decide)) fun _ => ?_
  refine Keeps.bind (h.tell_keeps _ (by decide)) fun _ => ?_
  refine Keeps.bind (h.manualTries_keep target 20) fun ok => ?_
  split
  · exact Keeps.bind (h.klineRequests_keeps (Or.inr rfl) true hr _) fun _ =>
      h.tell_keeps [] (by decide)
  · exact h.tell_keeps [] (by decide)

theorem rawFrame_service (target : UInt8) (svc : Bytes) : (rawFrame target svc).2 ≠ [] := by
  unfold rawFrame
  exact List.append_ne_nil_of_right_ne_nil _ (List.cons_ne_nil _ _)

theorem Conduct.rawTries_keep (h : Conduct I E) (target : UInt8) (n : Nat) :
    Keeps I E (rawTries target n) := by
  induction n with
  | zero => exact Keeps.pure _
  | succ n ih =>
      refine Keeps.bind (h.cmdLine_keeps (by decide)) fun _ => ?_
      refine Keeps.bind (h.transmitKline_keeps (Or.inl rfl) rfl (rawFrame_service _ _)) fun r => ?_
      refine Keeps.bind h.drain_keeps fun more => ?_
      split
      · exact Keeps.pure _
      · exact ih

theorem Conduct.klineRawFast_keeps (h : Conduct I E) (target : UInt8) (reads : List Bytes) :
    Keeps I E (klineRawFast target reads) := by
  refine Keeps.bind h.resync_keeps fun _ => Keeps.bind (h.tell_keeps [] rfl) fun _ => ?_
  refine Keeps.bind (h.tell_keeps [] (by decide)) fun _ => ?_
  refine Keeps.bind (h.tell_keeps _ (by decide)) fun _ => ?_
  refine Keeps.bind (h.rawTries_keep target 10) fun ok => ?_
  split
  · refine Keeps.bind (Keeps.forM fun svc _ => ?_) fun _ => h.tell_keeps [] (by decide)
    refine Keeps.bind (h.transmitKline_keeps (Or.inl rfl) rfl (rawFrame_service _ _)) fun _ => ?_
    exact Keeps.bind h.drain_keeps fun _ => Keeps.pure _
  · exact h.tell_keeps [] (by decide)

theorem Conduct.klineListen_keeps (h : Conduct I E) : Keeps I E klineListen := by
  have hrounds : ∀ n, Keeps I E (listenRounds n) := by
    intro n
    induction n with
    | zero => exact Keeps.pure _
    | succ n ih => exact Keeps.bind h.drain_keeps fun _ => ih
  refine Keeps.bind h.resync_keeps fun _ => Keeps.bind (h.tell_keeps [] rfl) fun _ => ?_
  refine Keeps.bind (h.tell_keeps _ (by decide)) fun _ => ?_
  refine Keeps.bind h.rounds_keeps fun n => Keeps.bind (hrounds n) fun _ => ?_
  exact h.tell_keeps [] (by decide)

theorem Conduct.klineVariant_keeps (h : Conduct I E) {v : KlineInit} (hv : v ∈ klineInits) :
    Keeps I E (klineVariant v) := by
  have hp : OnKline v.proto := (klineInits_ok v hv).1
  have hend : Keeps I E (tell (lineOf "atc" v.proto []) []) := h.tell_keeps [] rfl
  have hmore : ∀ b, ∀ svc ∈ b :: vagReads, b ≠ [] → svc ≠ [] := by
    intro b svc hs hb
    rcases List.mem_cons.mp hs with rfl | hs
    · exact hb
    · exact vagReads_ne svc hs
  refine Keeps.bind (h.klineInit_keeps hv) fun ok => ?_
  split
  · refine Keeps.bind (h.klineRequests_keeps hp _ ?_ none) fun _ => ?_
    · split
      · exact vagReads_ne
      · exact eobdReads_ne
    · split
      · refine Keeps.bind (h.klineRequests_keeps hp _
          (fun svc hs => hmore [0x81] svc hs (by decide)) _) fun _ => ?_
        refine Keeps.bind Keeps.get fun s => ?_
        split
        · rename_i b _
          exact Keeps.bind (h.klineRequests_keeps hp _
            (fun svc hs => hmore [0x10, b] svc hs (List.cons_ne_nil _ _)) none) fun _ => hend
        · exact hend
      · exact hend
  · exact hend

theorem Conduct.q2_keeps (h : Conduct I E) (variants : Option (List String)) :
    Keeps I E (q2Kline variants) := by
  refine Keeps.bind h.klineEcho_keeps fun _ => Keeps.bind (Keeps.forM fun v hv => ?_) fun _ =>
    Keeps.bind (Keeps.forM fun p _ => ?_) fun _ => Keeps.forM fun p _ => ?_
  · split
    · exact h.klineVariant_keeps hv
    · exact Keeps.pure _
  · show Keeps I E (if wanted variants p.1 then klineManualFast p.2 vagReads else Pure.pure ())
    split
    · exact h.klineManualFast_keeps p.2 vagReads_ne
    · exact Keeps.pure _
  · show Keeps I E (if wanted variants p.1 then klineRawFast p.2 vagReads else Pure.pure ())
    split
    · exact h.klineRawFast_keeps p.2 vagReads
    · exact Keeps.pure _

/-! ## 3. Live requests -/

theorem Conduct.guardTx_keeps (h : Conduct I E) (id : Int) : Keeps I E (guardTx id) :=
  (guardTx_spec id).exits (fun _ _ hs => hs.1)
    fun _ _ hs => ⟨hs.1, by rw [hs.2.1]; exact h.refusal⟩

theorem Conduct.guardService_keeps (h : Conduct I E) (sid : UInt8) (payload : Bytes) :
    Keeps I E (guardService sid payload) :=
  (guardService_spec sid payload).exits (fun _ _ hs => hs.1)
    fun _ _ hs => ⟨hs.1, by rw [hs.2]; exact h.refusal⟩

theorem Conduct.liveRequest_keeps (h : Conduct I E) (tx rx : Int) (payload : Bytes) :
    Keeps I E (liveRequest tx rx payload) := by
  refine Keeps.bind (h.guardTx_keeps tx) fun _ => ?_
  match payload with
  | [] => exact Triple.bind (Triple.raises fun _ hs => ⟨hs, h.failure⟩) fun _ _ hs => hs.elim
  | sid :: rest =>
      refine Keeps.bind (h.guardService_keeps sid []) fun _ => ?_
      refine Keeps.bind h.resync_keeps fun _ => Keeps.bind (h.openIso_keeps rx tx) fun _ => ?_
      exact Keeps.bind (h.ask_keeps tx (List.cons_ne_nil _ _)) fun _ => h.tell_keeps [] (by decide)

/-- A named wake-up is one of the table. -/
theorem Conduct.initNamed_spec (h : Conduct I E) (name : String) :
    Triple I (initNamed name) (fun v s => I s ∧ v ∈ klineInits) fun e s => I s ∧ E e := by
  unfold initNamed
  split
  · rename_i v hv
    exact Triple.pure fun s hs => ⟨hs, List.mem_of_find?_eq_some hv⟩
  · exact Triple.throw fun s hs => ⟨hs, h.refusal⟩

theorem Conduct.liveKline_keeps (h : Conduct I E) (name : String) (payload : Bytes) :
    Keeps I E (liveKline name payload) := by
  refine Triple.bind (h.initNamed_spec name) fun v => Triple.fact fun hv => ?_
  have hp : OnKline v.proto := (klineInits_ok v hv).1
  have hend : Keeps I E (tell (lineOf "atc" v.proto []) []) := h.tell_keeps [] rfl
  refine Keeps.bind (h.klineInit_keeps hv) fun ok => ?_
  split
  · rename_i hok
    refine Keeps.bind Keeps.get fun s => ?_
    refine Keeps.bind (h.klineRequests_keeps hp _ ?_ none) fun _ => hend
    intro svc hs
    split at hs
    · rcases List.mem_cons.mp hs with rfl | hs
      · exact List.cons_ne_nil _ _
      · rw [List.mem_singleton.mp hs]
        exact hok.2
    · rw [List.mem_singleton.mp hs]
      exact hok.2
  · exact hend

theorem Conduct.longRead_keeps (h : Conduct I E) (tx rx addr : Int) (kv : Option String) :
    Keeps I E (longRead tx rx addr kv) := by
  refine Keeps.bind (f := fun a => _) ?_ fun a => ?_
  · unfold toBytes3
    split
    · exact Keeps.pure _
    · exact Keeps.throw h.failure
  refine Keeps.bind (h.guardTx_keeps tx) fun _ => ?_
  refine Keeps.bind h.resync_keeps fun _ => Keeps.bind (h.openIso_keeps rx tx) fun _ => ?_
  refine Keeps.bind (Keeps.forM fun req hr => h.ask_keeps tx ?_) fun _ => ?_
  · rcases List.mem_cons.mp hr with rfl | hr
    · exact List.cons_ne_nil _ _
    · rw [List.mem_singleton.mp hr]
      exact List.cons_ne_nil _ _
  refine Keeps.bind (h.tell_keeps [] (by decide)) fun _ => ?_
  split
  · exact Keeps.pure _
  · rename_i name _
    refine Triple.bind (h.initNamed_spec name) fun v => Triple.fact fun hv => ?_
    have hp : OnKline v.proto := (klineInits_ok v hv).1
    have hend : Keeps I E (tell (lineOf "atc" v.proto []) []) := h.tell_keeps [] rfl
    refine Keeps.bind (h.klineInit_keeps hv) fun ok => ?_
    split
    · refine Keeps.bind (h.klineRequests_keeps hp _ (fun svc hs => ?_) none) fun _ => hend
      rw [List.mem_singleton.mp hs]
      exact List.cons_ne_nil _ _
    · exact hend

end Openport.Car
