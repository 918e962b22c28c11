import Udapcfg.Mocksbr.Wire
import Udapcfg.Properties.ReadModifyWrite

/-!
# Read-write cycles

What a `set` does not name is rendered when it is read and encoded when it is written. What that
makes of a value after one cycle stays as it is.

* `cycles_succ` — all cycles but the first do nothing
* `exists_settles` — what becomes of a value of any width
-/

namespace Udap

open Infra

namespace Parameter

variable {p : Parameter} {v w : Bytes}

/-! ## Cycles -/

/-- What is left of a value that is read and written `n` times. -/
def cycles (p : Parameter) : Nat → Bytes → Except EncodeError Bytes
  | 0, v => .ok v
  | n + 1, v =>
    match p.encode (GetData.formatValue v) with
    | .ok w => cycles p n w
    | .error e => .error e

/-- A value that one cycle leaves alone is left alone by any number of them. -/
theorem cycles_of_fixed (h : p.encode (GetData.formatValue w) = .ok w) (n : Nat) :
    p.cycles n w = .ok w := by
  induction n with
  | zero => rfl
  | succ n ih =>
    rw [cycles, h]
    exact ih

/-- **One cycle is as good as many.** -/
theorem cycles_succ (hv : v.length = p.length.toNat) (n : Nat) :
    p.cycles (n + 1) v = .ok (p.normalize v) := by
  have hfirst := encode_formatValue hv
  have hfixed : p.encode (GetData.formatValue (p.normalize v)) = .ok (p.normalize v) := by
    rw [formatValue_normalize hv, hfirst]
  rw [cycles, hfirst]
  exact cycles_of_fixed hfixed n

/-- What becomes of the value `v` of a parameter: it settles at `w`. -/
structure Settles (p : Parameter) (v w : Bytes) : Prop where
  encodes : p.encode (GetData.formatValue v) = .ok w
  length : w.length = p.length.toNat
  /-- Numbers and addresses are kept, -/
  numeric : p.IsNumeric → w = v
  /-- strings up to their first NUL, with zeros from there on. -/
  string : ¬ p.IsNumeric →
    w = v.takeWhile (· ≠ 0) ++ zeros (p.length.toNat - (v.takeWhile (· ≠ 0)).length)
  rendering : GetData.formatValue w = GetData.formatValue v
  /-- Any number of further cycles changes nothing. -/
  cycles : ∀ n, p.cycles (n + 1) v = .ok w
  /-- A device renders both values as the client does. -/
  device : Mocksbr.decodeParamValue v = GetData.formatValue v ∧
    Mocksbr.decodeParamValue w = GetData.formatValue v

/-- **Every value of the right width settles after one cycle.** -/
theorem exists_settles (p : Parameter) (v : Bytes) (hv : v.length = p.length.toNat) :
    ∃ w, Settles p v w := by
  have hrendering := formatValue_normalize hv
  refine ⟨p.normalize v, encode_formatValue hv, length_normalize hv,
    fun hp => if_pos hp, normalize_of_string hv, hrendering,
    cycles_succ hv, Mocksbr.decodeParamValue_eq_formatValue v, ?_⟩
  rw [Mocksbr.decodeParamValue_eq_formatValue, hrendering]

/-- A raw key with a zero byte in it. -/
theorem exists_settles_wepKey : ∃ p, byName "wireless_wep_key" = some p ∧
    ∃ w, Settles p (1 :: 0 :: 2 :: zeros 10) w :=
  ⟨_, rfl, exists_settles _ (1 :: 0 :: 2 :: zeros 10) rfl⟩

end Parameter

end Udap
