/-
  File:      Openport/Api/Numbering.lean
  Subject:   No number repeats early, and no command a call gives is refused or cut
             on its way to the transport.

  The buffers of `cmd_exchange` are `OP_CMD_MAX` for a line, 16 more for its
  number, and `OP_MSG_MAX` behind that for the payload. Every line of
  `Call.Gives` fits the first at its widest arguments; the rest follows from
  that (`Ask.Taken`). The numbers of a session are those that come after its
  first, one for each numbered command (`InTurn`), and the microseconds of an
  interval and of a budget do not wrap.
-/
import Openport.Api.Given
import Openport.Api.Periodic
import Openport.Device.Matching

namespace Openport

open Lib.Decimal

/-! ## 1. Widths -/

/-- A 64-bit pin is the widest argument, and a voltage has a sign. -/
theorem voltage_short (pin voltage : UInt64) : (cmdVoltage pin voltage).length < opCmdMax := by
  have hpin : (printInt (pin.toNat : Int)).length ≤ 20 :=
    decimal_length_le (by decide) (Nat.lt_trans pin.toNat_lt (by decide))
  have hvoltage : (printInt (asSigned32 voltage)).length ≤ 11 := by
    have hlt := voltage.toUInt32.toNat_lt
    unfold asSigned32
    split
    · rename_i h
      exact decimal_length_le (by decide) (Nat.lt_trans h (by decide))
    · rename_i h
      -- below zero: the sign and at most 2 ^ 31
      obtain ⟨n, hn⟩ : ∃ n, (voltage.toUInt32.toNat : Int) - 2 ^ 32 = .negSucc n :=
        Int.eq_negSucc_of_lt_zero (by omega)
      have hsmall : n + 1 < 10 ^ 10 := by omega
      rw [hn]
      exact Nat.succ_le_succ (decimal_length_le (by decide) hsmall)
  unfold cmdVoltage
  rw [Command.line_length]
  show 0 + (0x20 :: (printInt (pin.toNat : Int) ++ (0x20 ::
    (printInt (asSigned32 voltage) ++ [])))).length + 5 < 64
  simp only [List.length_cons, List.length_append, List.length_nil]
  omega

/-- A pin to read. -/
theorem readPin_short (pin : UInt32) :
    (Command.line { verb := 0x72, args := [arg pin] }).length < opCmdMax := by
  have hargs := @printArgs_length [arg pin] fun v hv => by
    rw [List.mem_singleton.mp hv]
    exact printInt_arg pin
  rw [Command.line_length]
  have hlen : ([arg pin] : List Int).length = 1 := rfl
  rw [hlen] at hargs
  show 0 + (printArgs [arg pin]).length + 5 < 64
  omega

/-- A channel with arguments of 32 bits, four at most. -/
theorem channel_short {verb : UInt8} {i : Fin 10} (vs : List UInt32) (hn : vs.length ≤ 4) :
    (Command.line { verb := verb, channel := some i.val, args := vs.map arg }).length <
      opCmdMax := by
  refine Command.line_short (by rw [List.length_map]; exact hn) ?_
  intro v hv
  obtain ⟨u, -, rfl⟩ := List.mem_map.mp hv
  exact printInt_arg u

/-! ## 2. A command on its way to the transport -/

/-- Bytes of `tx`, a numbered line and a payload. -/
def txMax : Nat := numberedMax + opMsgMax

/-- What becomes of a command in `cmd_exchange`. -/
structure Ask.Taken (a : Ask) : Prop where
  /-- the line declares its payload -/
  declared : a.Fits
  nonempty : a.command.line ≠ []
  short : a.command.line.length < opCmdMax
  payload : a.payload.length ≤ opMsgMax
  /-- `op_cmd_number` puts any number behind the last argument and has room for its NUL -/
  numbered : ∀ seq, opCmdNumber a.command.line numberedMax seq = (a.command.numbered seq).line ∧
    (a.command.numbered seq).line.length < numberedMax
  /-- what goes out fits `tx` -/
  fits : ∀ d, (numberLine d a.command.line).1.length + a.payload.length ≤ txMax
  /-- `OP_ERR_PARAM` is the transport's own, to a write it was given -/
  unrefused : ∀ x d timeoutMs wait,
    (cmdExchange x d a.command.line a.payload timeoutMs wait).1 = .param → x.written = .param
  /-- in an open session with the cable there the whole command is given to the transport -/
  given : ∀ x d timeoutMs wait, (arrivals d x.before).opened = true →
    (arrivals d x.before).lost = false → ∃ t,
      Ran x d a.command.line a.payload timeoutMs wait
        (cmdExchange x d a.command.line a.payload timeoutMs wait) t ∧ a.Sent t

section Taken

variable {a : Ask}

/-- A number is at most ten digits and a space, which `numbered` has room for. -/
theorem numbered_short {c : Command} (h : c.line.length < opCmdMax) (seq : UInt32) :
    (c.numbered seq).line.length < numberedMax := by
  have hdigits : (printInt (seq.toNat : Int)).length ≤ 10 := printInt_arg seq
  have hline : (c.numbered seq).line.length =
      c.line.length + (printInt (seq.toNat : Int)).length + 1 := by
    rw [Command.line_length, Command.line_length]
    show (printChannel c.channel).length + (printArgs (c.args ++ [(seq.toNat : Int)])).length + 5 =
      _
    rw [printArgs_append]
    show (printChannel c.channel).length + (printArgs c.args ++ 0x20 ::
      (printInt (seq.toNat : Int) ++ [])).length + 5 = _
    simp only [List.length_append, List.length_cons, List.length_nil]
    omega
  have h64 : opCmdMax = 64 := rfl
  have h80 : numberedMax = 80 := rfl
  omega

/-- **`op_cmd_number` succeeds on every line that fits its buffer.** -/
theorem opCmdNumber_short {c : Command} (h : c.line.length < opCmdMax) (seq : UInt32) :
    opCmdNumber c.line numberedMax seq = (c.numbered seq).line := by
  have htwo : 2 ≤ c.text.length := by
    unfold Command.text
    rw [List.length_cons, List.length_cons]
    exact Nat.le_add_left 2 _
  exact opCmdNumber_line c (opCmdNumber_room h htwo seq)

/-- What `cmd_exchange` does with a line and a payload that fit: nothing where the session is over
    or the cable gone, else one transaction. -/
theorem cmdExchange_short {c : Command} {payload : Bytes} (h : c.line.length < opCmdMax)
    (hp : payload.length ≤ opMsgMax) (x : Exchange) (d : OpDevice) (timeoutMs : UInt32)
    (wait : Bool) :
    cmdExchange x d c.line payload timeoutMs wait =
      if (!(arrivals d x.before).opened || (arrivals d x.before).lost) = true then
        (.noDevice, none, arrivals d x.before)
      else
        transact x (numberLine (arrivals d x.before) c.line).2.2
          (numberLine (arrivals d x.before) c.line).1 payload
          (numberLine (arrivals d x.before) c.line).2.1 (if timeoutMs = 0 then 1000 else timeoutMs)
          wait := by
  have hne : c.line ≠ [] := List.append_ne_nil_of_right_ne_nil _ (by decide)
  unfold cmdExchange
  rw [if_neg (by rintro (h | h | h); exacts [hne h, by omega, by omega])]
  simp only
  rw [if_neg (c := (numberLine (arrivals d x.before) c.line).1 = []) (numberLine_ne_nil _ h)]

/-- No wait ends in `OP_ERR_PARAM`. -/
theorem transact_param {x : Exchange} {d : OpDevice} {line payload : Bytes} {seq timeoutMs : UInt32}
    {wait : Bool} (h : (transact x d line payload seq timeoutMs wait).1 = .param) :
    x.written = .param := by
  unfold transact at h
  simp only at h
  split at h
  · exact h
  · unfold collect at h
    split at h
    · cases h
    split at h
    · cases h
    · cases h

theorem Ask.Fits.verb_ne (h : a.Fits) : a.command.verb ≠ 0 := fun e => by
  have hprint := h.verb
  rw [e] at hprint
  exact absurd hprint (by decide)

/-- **A command whose line and payload fit is taken whole.** -/
theorem Ask.taken (hfits : a.Fits) (hl : a.command.line.length < opCmdMax)
    (hp : a.payload.length ≤ opMsgMax) : a.Taken := by
  have hnumber := opCmdNumber_short hl
  refine ⟨hfits, List.append_ne_nil_of_right_ne_nil _ (by decide), hl, hp,
    fun seq => ⟨hnumber seq, numbered_short hl seq⟩, ?_, ?_, ?_⟩
  · intro d
    have hone : (numberLine d a.command.line).1.length ≤ numberedMax := by
      unfold numberLine
      split
      · show (opCmdNumber a.command.line numberedMax (takeNumber d).1).length ≤ numberedMax
        rw [hnumber]
        exact Nat.le_of_lt (numbered_short hl _)
      · exact Nat.le_of_lt (Nat.lt_of_lt_of_le hl (Nat.le_add_right opCmdMax 16))
    exact Nat.add_le_add hone hp
  · intro x d timeoutMs wait h
    rw [cmdExchange_short hl hp] at h
    split at h
    · cases h
    · exact transact_param h
  · intro x d timeoutMs wait hopen hthere
    obtain ⟨-, ⟨hlog, -, -⟩ | ⟨t, ht⟩⟩ :=
      cmdExchange_cases x d a.command.line a.payload timeoutMs wait
    · -- written after all: the log is longer
      rw [cmdExchange_short hl hp, hopen, hthere, if_neg (by decide)] at hlog
      obtain ⟨-, t, ht, -⟩ := transact_spec x (numberLine (arrivals d x.before) a.command.line).2.2
        (numberLine (arrivals d x.before) a.command.line).1 a.payload
        (numberLine (arrivals d x.before) a.command.line).2.1
        (if timeoutMs = 0 then 1000 else timeoutMs) wait
      rw [ht, (numberLine_kept _ _).2, (arrivals_steady d x.before).log] at hlog
      exact absurd hlog (List.cons_ne_self _ _)
    · exact ⟨t, ht, ht.line hfits.verb_ne, ht.payload⟩

end Taken

/-! ## 3. What a call gives is taken -/

section Table

variable {w : UInt64 → Int} {env : CallEnv} {d : OpDevice} {i : Fin 10}

/-- The `k`-th transmit of a write. -/
theorem writeAsks_mem {msgs : Nat → PassThruMsg} {timeout : UInt64} {k : Nat} (left : Nat) :
    ∀ sent : Nat, sent ≤ k → k < sent + left →
      askTransmit w i.val (msgs k)
          (budgetUs d i (writeWait timeout (elapsedMs (env.clock 0) (env.clock (k + 1))))) ∈
        writeAsks w env d i msgs timeout sent left := by
  induction left with
  | zero => exact fun _ hlow hhigh => absurd hhigh (Nat.not_lt_of_le hlow)
  | succ left ih =>
      intro sent hlow hhigh
      unfold writeAsks
      simp only
      rcases Nat.eq_or_lt_of_le hlow with rfl | hlt
      · exact List.mem_cons_self
      · exact List.mem_cons_of_mem _ (ih (sent + 1) hlt (by omega))

/-- The command of the `k`-th parameter. -/
theorem configAsks_mem {ask : UInt64 × UInt64 → Ask} {list : Nat → UInt64 × UInt64} {k : Nat}
    (left : Nat) : ∀ i : Nat, i ≤ k → k < i + left → ask (list k) ∈ configAsks ask list i left := by
  induction left with
  | zero => exact fun _ hlow hhigh => absurd hhigh (Nat.not_lt_of_le hlow)
  | succ left ih =>
      intro i hlow hhigh
      unfold configAsks
      rcases Nat.eq_or_lt_of_le hlow with rfl | hlt
      · exact List.mem_cons_self
      · exact List.mem_cons_of_mem _ (ih (i + 1) hlt (by omega))

end Table

/-- The line and the payload are those of a command of the call's table, which is taken. -/
def Call.Asked (env : CallEnv) (d : OpDevice) (c : Call) (line payload : Bytes) : Prop :=
  ∃ a ∈ c.asks printed env d, line = a.command.line ∧ payload = a.payload ∧ a.Taken

section Gives

variable {env : CallEnv} {d : OpDevice} {c : Call} {line payload : Bytes}

/-- A command of the table whose line is what its encoder prints. -/
theorem asked_emit {a : Ask} (hmem : a ∈ c.asks printed env d) (hl : a.command.line.length < opCmdMax)
    (hline : line = emit a.command.line) (hp : a.payload.length ≤ opMsgMax)
    (hpayload : payload = a.payload) : c.Asked env d line payload :=
  ⟨a, hmem, hline.trans (emit_short hl), hpayload, Ask.taken (asks_fit env d c a hmem).1 hl hp⟩

/-- The table's entry of a call that gives one command. -/
theorem asked_plain {cmd : Command} (hmem : (⟨cmd, []⟩ : Ask) ∈ c.asks printed env d)
    (hl : cmd.line.length < opCmdMax) : c.Asked env d (emit cmd.line) [] :=
  asked_emit hmem hl rfl (Nat.zero_le _) rfl

/-- A length of four digits at most is no wider than 32 bits. -/
theorem size_arg {n : Nat} (h : n ≤ opMsgMax) : (n : Int) = arg (UInt32.ofNat n) := by
  have hmax : opMsgMax = 4128 := rfl
  show (n : Int) = ((UInt32.ofNat n).toNat : Int)
  have hlt : n < UInt32.size := Nat.lt_of_le_of_lt h (by decide)
  rw [UInt32.toNat_ofNat_of_lt' hlt]

/-- An ioctl of a channel has the channel's commands. -/
theorem ioctl_mem {a : Ask} {ch id : UInt64} {i : Fin 10} {input : IoctlIn} {output : IoctlOut}
    (hi : channelOf d ch = some i) (hid : (channelIoctlName id).isSome = true)
    (ha : a ∈ channelAsks printed i.val id input) :
    a ∈ Call.asks printed env d (.passThruIoctl ch id input output) := by
  have hbattery : id ≠ readVbatt := by
    rintro rfl
    exact absurd hid (by decide)
  have hvoltage : id ≠ readProgVoltage := by
    rintro rfl
    exact absurd hid (by decide)
  show a ∈ ioctlAsks printed ch.toNat id input
  unfold ioctlAsks
  rw [if_neg hbattery, if_neg hvoltage, if_pos hid, (channelOf_some hi).2]
  exact ha

/-- A request of 255 bytes at most. -/
theorem init_short (i : Fin 10) {n : Nat} (h : n ≤ 255) :
    (Command.line { verb := 0x79, channel := some i.val, args := [(n : Int), 0] }).length <
      opCmdMax := by
  rw [size_arg (Nat.le_trans h (by decide))]
  exact channel_short [UInt32.ofNat n, 0] (Nat.le_add_right 2 2)

/-- A filter appends two or three messages of the mask's length. -/
theorem filter_asked {ch type : UInt64} {mask pattern : PassThruMsg}
    {pFlow flow : Option PassThruMsg} {p : Bool} {i : Fin 10} (hi : channelOf d ch = some i)
    (hflow : (if opFilterMsgCount type.toUInt32 = 2 then none else pFlow) = flow)
    (hcount : (mask :: pattern :: flow.toList).length = opFilterMsgCount type.toUInt32)
    (hlow : 1 ≤ mask.dataSize.toNat) (hhigh : mask.dataSize.toNat ≤ 255)
    (hsame : ∀ m ∈ mask :: pattern :: flow.toList, m.dataSize.toNat = mask.dataSize.toNat) :
    Call.Asked env d (.passThruStartMsgFilter ch type (some mask) (some pattern) pFlow p)
      (opCmdFilter i.val type.toUInt32 (flow.getD mask).txFlags.toUInt32 mask.dataSize.toNat)
      ((mask :: pattern :: flow.toList).map fun m => m.bytes mask.dataSize.toNat).flatten := by
  have hmax : opMsgMax = 4128 := rfl
  have hmem : (⟨{ verb := 0x66, channel := some i.val
                  args := [printed type, printed (flow.getD mask).txFlags,
                    (mask.dataSize.toNat : Int)] },
      ((mask :: pattern :: flow.toList).map PassThruMsg.payload).flatten⟩ : Ask) ∈
        Call.asks printed env d
          (.passThruStartMsgFilter ch type (some mask) (some pattern) pFlow p) := by
    show _ ∈ filterAsks printed ch.toNat type (some mask) (some pattern) pFlow
    unfold filterAsks
    simp only [hflow]
    rw [if_pos ⟨hcount, hsame⟩, (channelOf_some hi).2]
    exact List.mem_cons_self
  refine asked_emit hmem ?_ ?_ ?_ ?_
  · simp only
    rw [size_arg (show mask.dataSize.toNat ≤ opMsgMax by omega)]
    exact channel_short [type.toUInt32, (flow.getD mask).txFlags.toUInt32,
      UInt32.ofNat mask.dataSize.toNat] (Nat.le_add_right 3 1)
  · unfold opCmdFilter
    exact if_neg (by omega)
  · -- three messages of 255 bytes at most
    have hthree : flow.toList.length ≤ 1 := by
      cases flow with
      | none => exact Nat.zero_le 1
      | some m => exact Nat.le_refl 1
    simp only
    rw [payloads_length hsame]
    refine Nat.le_trans (Nat.mul_le_mul (show _ ≤ 3 from ?_) hhigh) (by decide)
    rw [List.length_cons, List.length_cons]
    omega
  · -- every message has the mask's length, so each is appended whole
    exact congrArg List.flatten
      (List.map_congr_left fun m hm => congrArg m.bytes (hsame m hm).symm)

/-- **Whatever passes the checks of its call is taken whole**, at any flags, rates, ids and
    values. -/
theorem Call.Gives.asked (h : c.Gives env d line payload) : c.Asked env d line payload := by
  cases h with
  | resets p => exact asked_plain List.mem_cons_self (by decide)
  | closesAll p =>
      exact asked_plain (by rw [Call.asks]; simp) (by decide)
  | identifies p =>
      exact asked_plain (by rw [Call.asks]; simp) (by decide)
  | closes id => exact asked_plain List.mem_cons_self (by decide)
  | connects id protocolID flags baud p fw hfw =>
      refine asked_plain ?_ (channel_short [flags.toUInt32, baud.toUInt32, 0]
        (Nat.le_add_right 3 1))
      rw [Call.asks, hfw]
      exact List.mem_cons_self
  | givesBack id protocolID flags baud p fw hfw =>
      refine asked_plain ?_ (short_close fw)
      rw [Call.asks, hfw]
      exact List.mem_cons_of_mem _ List.mem_cons_self
  | disconnects ch i hi =>
      refine asked_plain ?_ (short_close i)
      rw [Call.asks, (channelOf_some hi).2]
      exact List.mem_cons_self
  | writes ch msgs want timeout i k hi hk htime hok =>
      obtain ⟨h1, h2⟩ := msgOk_size hok
      obtain ⟨hline, hshort⟩ := opCmdTransmit_line i h1 h2 (msgs k).txFlags.toUInt32
        (budgetUs d i (writeWait timeout (elapsedMs (env.clock 0) (env.clock (k + 1)))))
      refine asked_emit (a := askTransmit printed i.val (msgs k) _) ?_ hshort ?_ ?_ rfl
      · rw [Call.asks, hi]
        exact writeAsks_mem want.toNat 0 (Nat.zero_le k) (by rwa [Nat.zero_add])
      · rw [hline]
        exact (emit_short hshort).symm
      · exact (msgs k).payload_length ▸ h2
  | startsPeriodic ch m interval i hi hzero hlong hok =>
      obtain ⟨h1, h2⟩ := msgOk_size hok
      have hshort := short_start i (interval.toUInt32 * 1000) m.txFlags.toUInt32 h2
      refine asked_emit (a := askStart i (interval.toUInt32 * 1000) m) ?_ hshort ?_ ?_ rfl
      · show _ ∈ periodicAsks printed ch.toNat (some m) interval
        unfold periodicAsks askStart
        simp only
        rw [interval_us hlong, (channelOf_some hi).2]
        exact List.mem_cons_self
      · unfold opCmdPeriodicStart
        exact if_neg (by omega)
      · exact m.payload_length ▸ h2
  | stopsPeriodic ch id i hi =>
      refine asked_plain ?_ (short_stop i id.toUInt32)
      rw [Call.asks, (channelOf_some hi).2]
      exact List.mem_cons_self
  | startsFilter ch type mask pattern pFlow flow p i hi hflow hcount hlow hhigh hsame =>
      exact filter_asked hi hflow hcount hlow hhigh hsame
  | stopsFilter ch id i hi =>
      refine asked_plain ?_ (channel_short [id.toUInt32] (Nat.le_add_right 1 3))
      rw [Call.asks, (channelOf_some hi).2]
      exact List.mem_cons_self
  | setsVoltage id pin voltage =>
      have hshort := voltage_short pin voltage
      exact asked_emit List.mem_cons_self hshort (emit_short hshort).symm (Nat.zero_le _) rfl
  | readsBattery ch input output =>
      refine asked_plain ?_ (readPin_short opPinVbatt)
      show _ ∈ ioctlAsks printed ch.toNat readVbatt input
      unfold ioctlAsks
      rw [if_pos rfl]
      exact List.mem_cons_self
  | readsVoltage ch input output =>
      have hshort := readPin_short ((input.pin.map (·.toUInt32)).getD opPinProgVoltage)
      refine asked_plain ?_ hshort
      show _ ∈ ioctlAsks printed ch.toNat readProgVoltage input
      unfold ioctlAsks
      rw [if_neg (by decide), if_pos rfl, printed_pin]
      exact List.mem_cons_self
  | getsConfig ch input output i p k hi hp hk =>
      refine asked_plain (ioctl_mem hi (by decide) ?_)
        (channel_short [(p.2 k).1.toUInt32] (Nat.le_add_right 1 3))
      unfold channelAsks
      rw [if_pos rfl, hp]
      exact configAsks_mem p.1 0 (Nat.zero_le k) (by rwa [Nat.zero_add])
  | setsConfig ch input output i p k hi hp hk =>
      refine asked_plain (ioctl_mem hi (by decide) ?_)
        (channel_short [(p.2 k).1.toUInt32, (p.2 k).2.toUInt32] (Nat.le_add_right 2 2))
      unfold channelAsks
      rw [if_neg (by decide), if_pos rfl, hp]
      exact configAsks_mem p.1 0 (Nat.zero_le k) (by rwa [Nat.zero_add])
  | fiveBaud ch input output i n bytes hi hbytes =>
      have hbyte : ((bytes 0).toNat : Int) = arg (UInt32.ofNat (bytes 0).toNat) :=
        size_arg (Nat.le_of_lt (Nat.lt_trans (bytes 0).toNat_lt (by decide)))
      have hshort : (Command.line { verb := 0x77, channel := some i.val
                                    args := [((bytes 0).toNat : Int)] }).length < opCmdMax := by
        rw [hbyte]
        exact channel_short [UInt32.ofNat (bytes 0).toNat] (Nat.le_add_right 1 3)
      refine asked_plain (ioctl_mem hi (by decide) ?_) hshort
      show _ ∈ initAsks i.val true input
      unfold initAsks
      rw [if_pos rfl, hbytes]
      exact List.mem_cons_self
  | wakesUp ch input output i hi hmsg =>
      have hmem : (⟨{ verb := 0x79, channel := some i.val, args := [((0 : Nat) : Int), 0] }, []⟩ :
          Ask) ∈ channelAsks printed i.val fastInit input := by
        show _ ∈ initAsks i.val false input
        unfold initAsks
        rw [if_neg (by decide), hmsg]
        exact List.mem_cons_self
      exact asked_emit (ioctl_mem hi (by decide) hmem) (init_short i (Nat.zero_le 255))
        (if_neg (by decide)) (Nat.zero_le _) rfl
  | requests ch input output i m hi hmsg hsize =>
      have hmem : (⟨{ verb := 0x79, channel := some i.val, args := [(m.dataSize.toNat : Int), 0] },
          m.payload⟩ : Ask) ∈ channelAsks printed i.val fastInit input := by
        show _ ∈ initAsks i.val false input
        unfold initAsks
        rw [if_neg (by decide), hmsg]
        exact List.mem_cons_self
      refine asked_emit (ioctl_mem hi (by decide) hmem) (init_short i hsize)
        (if_neg (Nat.not_lt_of_le hsize)) ?_ rfl
      show m.payload.length ≤ opMsgMax
      rw [m.payload_length]
      exact Nat.le_trans hsize (by decide)
  | clearsPeriodic ch input output i hi =>
      exact asked_plain (ioctl_mem hi (by decide) List.mem_cons_self)
        (channel_short [] (Nat.zero_le 4))
  | clearsFilters ch input output i hi =>
      refine asked_plain (ioctl_mem hi (by decide) List.mem_cons_self)
        (Command.line_short (Nat.le_add_right 1 3) fun v hv => ?_)
      rw [List.mem_singleton.mp hv]
      decide

end Gives

/-! ## 4. The numbers of a session -/

/-- The numbers of the session's numbered commands, oldest first. -/
def sessionNumbers : List Event → List UInt32
  | [] => []
  | .session :: _ => []
  | .txn t :: log =>
    if opCmdIsNumbered t.line then sessionNumbers log ++ [t.seq] else sessionNumbers log

/-- The session's numbers are those from its first on, and the counter of an open session is at
    the next. -/
structure InTurn (start : Nat) (d : OpDevice) : Prop where
  numbers : (sessionNumbers d.log).map UInt32.toNat =
    (List.range (sessionNumbers d.log).length).map (nthNumber start)
  next : d.opened = true → d.seqNext.toNat = nthNumber start (sessionNumbers d.log).length

section InTurn

variable {start : Nat} {d d' : OpDevice}

theorem InTurn.silent (h : InTurn start d) (hs : Silent d d') : InTurn start d' := by
  refine ⟨?_, ?_⟩
  · rw [hs.log]
    exact h.numbers
  · intro ho
    rw [hs.log, hs.seqNext]
    exact h.next (hs.opened ho)

theorem transact_seqNext (x : Exchange) (d : OpDevice) (line payload : Bytes)
    (seq timeoutMs : UInt32) (wait : Bool) :
    (transact x d line payload seq timeoutMs wait).2.2.seqNext = d.seqNext := by
  have hclaim : Steady d (claimSlot d wait seq (line.getD 2 0)) :=
    steady_of_eq rfl rfl rfl rfl rfl rfl rfl
  have hearly := hclaim.trans (arrivals_steady _ x.early)
  unfold transact
  simp only
  split
  · exact hearly.seqNext
  · exact ((hearly.trans (arrivals_steady _ x.late)).trans (collect_spec _).1).seqNext

/-- What one transaction does to the numbers: its own is the next, where it takes one. -/
theorem InTurn.transact {a : Ask} (h : InTurn start d) (hopen : d.opened = true)
    (ha : a.Taken) (x : Exchange) (timeoutMs : UInt32) (wait : Bool) :
    InTurn start (transact x (numberLine d a.command.line).2.2 (numberLine d a.command.line).1
      a.payload (numberLine d a.command.line).2.1 timeoutMs wait).2.2 := by
  have hseq := transact_seqNext x (numberLine d a.command.line).2.2
    (numberLine d a.command.line).1 a.payload (numberLine d a.command.line).2.1 timeoutMs wait
  obtain ⟨-, t, hlog, hline, -, hnumber, -⟩ := transact_spec x (numberLine d a.command.line).2.2
    (numberLine d a.command.line).1 a.payload (numberLine d a.command.line).2.1 timeoutMs wait
  rw [(numberLine_kept d a.command.line).2] at hlog
  generalize (Openport.transact x (numberLine d a.command.line).2.2
    (numberLine d a.command.line).1 a.payload (numberLine d a.command.line).2.1 timeoutMs
    wait).2.2 = d' at hseq hlog
  unfold numberLine at hseq hline hnumber
  by_cases hn : opCmdIsNumbered a.command.line = true
  · rw [if_pos hn] at hseq hline hnumber
    have ht : opCmdIsNumbered t.line = true := by
      rw [hline]
      show opCmdIsNumbered (opCmdNumber a.command.line numberedMax d.seqNext) = true
      rw [(ha.numbered _).1]
      exact hn
    have hgrown : sessionNumbers d'.log = sessionNumbers d.log ++ [t.seq] := by
      rw [hlog]
      exact if_pos ht
    have hnext : t.seq.toNat = nthNumber start (sessionNumbers d.log).length := by
      rw [hnumber]
      exact h.next hopen
    refine ⟨?_, ?_⟩
    · rw [hgrown, List.map_append, h.numbers, List.length_append, List.map_singleton, hnext]
      show _ = (List.range ((sessionNumbers d.log).length + 1)).map (nthNumber start)
      rw [List.range_succ, List.map_append, List.map_singleton]
    · intro _
      rw [hgrown, hseq, List.length_append]
      exact takeNumber_next (h.next hopen)
  · rw [if_neg hn] at hseq hline hnumber
    have hsame : sessionNumbers d'.log = sessionNumbers d.log := by
      rw [hlog]
      refine if_neg ?_
      rw [hline]
      exact hn
    refine ⟨?_, ?_⟩
    · rw [hsame]
      exact h.numbers
    · intro _
      rw [hsame, hseq]
      exact h.next hopen

/-- **A command that is taken keeps the numbers in order.** -/
theorem InTurn.command {a : Ask} (h : InTurn start d) (ha : a.Taken) (x : Exchange)
    (timeoutMs : UInt32) (wait : Bool) :
    InTurn start (cmdExchange x d a.command.line a.payload timeoutMs wait).2.2 := by
  have hheard := h.silent (arrivals_steady d x.before).silent
  rw [cmdExchange_short ha.short ha.payload]
  split
  · exact hheard
  · rename_i hthere
    have hopen : (arrivals d x.before).opened = true := by
      cases ho : (arrivals d x.before).opened with
      | true => rfl
      | false =>
          rw [ho] at hthere
          exact absurd rfl hthere
    exact hheard.transact hopen ha x _ wait

/-- A sequence of such commands. -/
theorem Issues.inTurn {G : Bytes → Bytes → Prop}
    (hG : ∀ line payload, G line payload → ∃ a : Ask, line = a.command.line ∧
      payload = a.payload ∧ a.Taken) (h : Issues G d d') :
    InTurn start d → InTurn start d' := by
  induction h with
  | silent hs => exact fun hc => hc.silent hs
  | command x timeoutMs wait hg =>
      intro hc
      obtain ⟨a, rfl, rfl, ha⟩ := hG _ _ hg
      exact hc.command ha x timeoutMs wait
  | trans _ _ ih ih' => exact fun hc => ih' (ih hc)

/-- A new session has given no number, and its counter is at its first. -/
theorem inTurn_newSession (d : OpDevice) {clock : Timeval} (hs : 0 ≤ clock.sec)
    (hu : 0 ≤ clock.usec) : InTurn (firstNumber clock).toNat (newSession d clock) :=
  ⟨rfl, fun _ => (nthNumber_zero (firstNumber_ge hs hu) (firstNumber clock).toNat_lt).symm⟩

end InTurn

/-- **In every state of the driver the numbers of the session are those from its first on.** -/
theorem timed_inTurn {s : Driver} (h : Relation.ReflTransGen TimedMoves {} s) :
    ∃ clock : Timeval, 0 ≤ clock.sec ∧ 0 ≤ clock.usec ∧
      InTurn (firstNumber clock).toNat s.dev := by
  induction h with
  | refl => exact ⟨⟨0, 0⟩, Int.le_refl 0, Int.le_refl 0, rfl, fun ho => (nomatch ho)⟩
  | @tail s s' _ hm ih =>
      obtain ⟨clock, hs, hu, hc⟩ := ih
      cases hm with
      | arrive a => exact ⟨clock, hs, hu, hc.silent (arrive_steady s.dev a).silent⟩
      | call _ c fuel env code hrun hs' hu' =>
          obtain ⟨d, hd, hissued⟩ := call_issues hrun
          have hgo : ∀ {start : Nat}, InTurn start d → InTurn start s'.dev :=
            hissued.inTurn fun line payload hg => by
              obtain ⟨a, -, hline, hpayload, ha⟩ := hg.asked
              exact ⟨a, hline, hpayload, ha⟩
          cases c with
          | passThruOpen p =>
              rcases hd with rfl | rfl
              · exact ⟨clock, hs, hu, hgo hc⟩
              · exact ⟨env.opening.clock, hs', hu', hgo (inTurn_newSession _ hs' hu')⟩
          | _ =>
              cases hd
              exact ⟨clock, hs, hu, hgo hc⟩

/-! ## 5. Microseconds -/

/-- The budget of a transmit: what is left of the Timeout, held at the largest 32-bit number, and
    for a Timeout of 0 the one the vendor's library sets. -/
def exactBudget (d : OpDevice) (i : Fin 10) (timeout : UInt64) (elapsed : Int) : Nat :=
  if timeout = 0 then
    if (d.ch i).base = can then 50000 else if i = 9 then 0 else 1000000
  else min ((timeout.toNat - elapsed).toNat * 1000) (2 ^ 32 - 1)

/-- An interval the check lets through is as many microseconds as its milliseconds make. -/
theorem interval_exact {interval : UInt64} (h : interval.toNat ≤ 0xFFFFFFFF / 1000) :
    (interval.toUInt32 * 1000).toNat = interval.toNat * 1000 := by
  have hus := interval_us h
  have hnarrow : interval.toUInt32.toNat = interval.toNat := by
    rw [UInt64.toNat_toUInt32]
    exact Nat.mod_eq_of_lt (by omega)
  unfold printed arg at hus
  rw [hnarrow] at hus
  omega

/-- **No budget wraps**, for a Timeout of 32 bits that has not run out. -/
theorem budget_exact (d : OpDevice) (i : Fin 10) {timeout : UInt64} {elapsed : Int}
    (hshort : timeout.toNat < 2 ^ 32) (he : 0 ≤ elapsed)
    (hleft : timeout ≠ 0 → 0 < remainingMs timeout elapsed) :
    (budgetUs d i (writeWait timeout elapsed)).toNat = exactBudget d i timeout elapsed := by
  unfold exactBudget writeWait
  by_cases h0 : timeout = 0
  · rw [if_pos h0, if_pos h0]
    unfold budgetUs
    rw [if_neg (by decide)]
    split
    · rfl
    split
    · rfl
    · rfl
  rw [if_neg h0, if_neg h0]
  have hrem : remainingMs timeout elapsed = timeout.toNat - elapsed := by
    unfold remainingMs asLong
    rw [if_pos (Nat.lt_trans hshort (by decide))]
  have hpos := hleft h0
  rw [hrem] at hpos ⊢
  obtain ⟨n, hn⟩ := Int.eq_ofNat_of_zero_le (Int.le_of_lt hpos)
  have hword : (UInt32.ofInt (timeout.toNat - elapsed)).toNat = n := by
    rw [hn]
    show (UInt32.ofNat ((n : Int) % 2 ^ 32).toNat).toNat = n
    have hself : ((n : Int) % 2 ^ 32).toNat = n := by omega
    rw [hself]
    exact UInt32.toNat_ofNat_of_lt' (show n < 2 ^ 32 by omega)
  rw [hn] at hword hpos ⊢
  rw [Int.toNat_natCast]
  generalize UInt32.ofInt (n : Int) = wait at hword
  unfold budgetUs
  have hwait : wait ≠ 0 := fun e => by
    rw [e] at hword
    have hz : (0 : UInt32).toNat = 0 := rfl
    omega
  rw [if_pos hwait]
  by_cases hbig : 4294967 < wait
  · rw [if_pos hbig]
    have hn' : 4294967 < wait.toNat := UInt32.lt_iff_toNat_lt.mp hbig
    show 4294967295 = _
    omega
  · rw [if_neg hbig]
    have hn' : ¬4294967 < wait.toNat := fun h => hbig (UInt32.lt_iff_toNat_lt.mpr h)
    have hthousand : (1000 : UInt32).toNat = 1000 := rfl
    rw [UInt32.toNat_mul, hthousand]
    omega

/-! ## 6. Every number, every command, every time -/

/-- What the numbers of a session are: the `k`-th is the `k`-th from its first on, none is a short
    one, and none comes again before all others were used. -/
structure Numbering (start : Nat) (numbers : List UInt32) : Prop where
  each : ∀ k n, numbers[k]? = some n → n.toNat = nthNumber start k
  range : ∀ n ∈ numbers, 256 ≤ n.toNat ∧ n.toNat ≤ 2 ^ 32 - 1
  apart : ∀ k, ((numbers.drop k).take (2 ^ 32 - 256)).Nodup

theorem InTurn.numbering {start : Nat} {d : OpDevice} (h : InTurn start d) :
    Numbering start (sessionNumbers d.log) := by
  have heach : ∀ k n, (sessionNumbers d.log)[k]? = some n → n.toNat = nthNumber start k := by
    intro k n hk
    have hmapped := congrArg (·[k]?) h.numbers
    simp only [List.getElem?_map, hk, Option.map_some] at hmapped
    obtain ⟨hlt, -⟩ := List.getElem?_eq_some_iff.mp hk
    rw [List.getElem?_range hlt] at hmapped
    exact Option.some.inj hmapped
  refine ⟨heach, ?_, ?_⟩
  · intro n hn
    obtain ⟨k, hk⟩ := List.mem_iff_getElem?.mp hn
    refine ⟨?_, Nat.le_of_lt_succ n.toNat_lt⟩
    rw [heach k n hk]
    exact nthNumber_ge start k
  · intro k
    refine List.pairwise_iff_getElem.mpr ?_
    intro i j hi hj hij
    rw [List.length_take, List.length_drop] at hj
    have hend : k + j < (sessionNumbers d.log).length := by omega
    rw [List.getElem_take, List.getElem_take, List.getElem_drop, List.getElem_drop]
    intro e
    have hvi := heach (k + i) _ (List.getElem?_eq_getElem (by omega))
    have hvj := heach (k + j) _ (List.getElem?_eq_getElem hend)
    rw [e, hvj] at hvi
    exact nthNumber_inj (by omega) (show k + j < k + i + (2 ^ 32 - 256) by omega) hvi.symm

/-- **No number repeats early, and no command that passes the checks of its call is refused or cut
    inside the driver.** In every state the numbers of the session are a `Numbering` from the one
    its opening computed; what a call does are commands of its table (`Call.Gives`) and nothing
    else to the numbers; each of these is taken whole; and the microseconds of an interval and of
    a budget are exact, or held at the largest number. -/
theorem numbers_and_room :
    (∀ s : Driver, Relation.ReflTransGen TimedMoves {} s → ∃ clock : Timeval, 0 ≤ clock.sec ∧
      0 ≤ clock.usec ∧ Numbering (firstNumber clock).toNat (sessionNumbers s.dev.log)) ∧
    (∀ (fuel : Nat) (env : CallEnv) (s s' : Driver) (c : Call) (code : Nat),
      c.run fuel env s = some (code, s') →
        ∃ d, c.begins env s.dev d ∧ Issues (c.Gives env s.dev) d s'.dev) ∧
    (∀ (env : CallEnv) (d : OpDevice) (c : Call) (line payload : Bytes),
      c.Gives env d line payload → c.Asked env d line payload) ∧
    (∀ interval : UInt64, interval.toNat ≤ 0xFFFFFFFF / 1000 →
      (interval.toUInt32 * 1000).toNat = interval.toNat * 1000) ∧
    ∀ (d : OpDevice) (i : Fin 10) (timeout : UInt64) (start now : Timeval),
      timeout.toNat < 2 ^ 32 → (timeout ≠ 0 → 0 < remainingMs timeout (elapsedMs start now)) →
        (budgetUs d i (writeWait timeout (elapsedMs start now))).toNat =
          exactBudget d i timeout (elapsedMs start now) := by
  refine ⟨?_, ?_, ?_, ?_, ?_⟩
  · intro s hs
    obtain ⟨clock, hsec, husec, hturn⟩ := timed_inTurn hs
    exact ⟨clock, hsec, husec, hturn.numbering⟩
  · intro fuel env s s' c code hrun
    exact call_issues hrun
  · intro env d c line payload h
    exact h.asked
  · intro interval h
    exact interval_exact h
  · intro d i timeout start now hshort hleft
    exact budget_exact d i hshort (Int.le_max_left 0 _) hleft

/-- The K-line driver: its numbers, what a write of one byte gives, and the widest times. -/
theorem numbers_and_room_kLine :
    (∃ clock : Timeval, 0 ≤ clock.sec ∧ 0 ≤ clock.usec ∧
      Numbering (firstNumber clock).toNat (sessionNumbers kLineDriver.dev.log)) ∧
    Call.Asked (okEnv 259) kLineDriver.dev
      (.passThruWriteMsgs 3 (some fun _ => kLineMsg) (some 1) 1000)
      (opCmdTransmit 3 1 0 1000000) [0] ∧
    ((4294967 : UInt64).toUInt32 * 1000).toNat = (4294967 : UInt64).toNat * 1000 ∧
    (budgetUs kLineDriver.dev 3 (writeWait 0xFFFFFFFF (elapsedMs ⟨0, 0⟩ ⟨0, 0⟩))).toNat =
      exactBudget kLineDriver.dev 3 0xFFFFFFFF (elapsedMs ⟨0, 0⟩ ⟨0, 0⟩) := by
  obtain ⟨hnumbers, -, hgives, hinterval, hbudget⟩ := numbers_and_room
  exact ⟨hnumbers kLineDriver kLineDriver_timed,
    hgives _ _ _ _ _ (.writes 3 (fun _ => kLineMsg) 1 1000 3 0 (by decide) (by decide)
      (fun _ => by decide) (by decide)),
    hinterval 4294967 (by decide),
    hbudget kLineDriver.dev 3 0xFFFFFFFF ⟨0, 0⟩ ⟨0, 0⟩ (by decide) (fun _ => by decide)⟩

end Openport
