import Mathlib.Data.List.Basic
import Mathlib.Data.Vector.Defs

/-!
# Byte strings

Bytes are `List UInt8`. Fixed-width arrays carry their length (`Octets n`), integers are written
big-endian, and text is the bytes of its UTF-8 encoding.
-/

namespace Infra

abbrev Bytes := List UInt8

/-- `[u8; n]`. -/
abbrev Octets (n : Nat) := List.Vector UInt8 n

instance (n : Nat) : DecidableEq (Octets n) :=
  inferInstanceAs (DecidableEq {l : List UInt8 // l.length = n})

theorem exists_of_length_six {α : Type} {l : List α} (h : l.length = 6) :
    ∃ a b c d e f, l = [a, b, c, d, e, f] := by
  match l, h with
  | [a, b, c, d, e, f], _ => exact ⟨a, b, c, d, e, f, rfl⟩

/-- What holds of 256 numbers holds of every byte. -/
theorem byte_forall {P : UInt8 → Prop} (h : ∀ n < 256, P (UInt8.ofNat n)) (b : UInt8) : P b := by
  have hb := h b.toNat b.toNat_lt
  rwa [UInt8.ofNat_toNat] at hb

/-- `[0; n]`. -/
def zeros (n : Nat) : Bytes := List.replicate n 0

@[simp] theorem length_zeros (n : Nat) : (zeros n).length = n := List.length_replicate

/-- The UTF-8 bytes of a text: `str::as_bytes`. -/
def strBytes (s : String) : Bytes := s.toByteArray.data.toList

theorem strBytes_injective : Function.Injective strBytes := by
  intro s t h
  have hdata : s.toByteArray.data = t.toByteArray.data := Array.toList_inj.mp h
  have hbytes : s.toByteArray = t.toByteArray := ByteArray.ext hdata
  exact String.toByteArray_inj.mp hbytes

/-! ## Slices -/

/-- `data[pos..pos + len]`. -/
def slice (data : Bytes) (pos len : Nat) : Bytes := (data.drop pos).take len

theorem length_slice {data : Bytes} {pos len : Nat} (h : pos + len ≤ data.length) :
    (slice data pos len).length = len := by
  rw [slice, List.length_take, List.length_drop]
  omega

/-- A byte off the front of what is left. -/
theorem drop_eq_getD_cons {data : Bytes} {pos : Nat} (h : pos < data.length) :
    data.drop pos = data.getD pos 0 :: data.drop (pos + 1) := by
  rw [List.drop_eq_getElem_cons h, List.getD_eq_getElem?_getD, List.getElem?_eq_getElem h,
    Option.getD_some]

/-- A slice off the front of what is left. -/
theorem slice_append_drop (data : Bytes) (pos len : Nat) :
    slice data pos len ++ data.drop (pos + len) = data.drop pos := by
  rw [slice, ← List.drop_drop, List.take_append_drop]

/-- A slice as a fixed-width array. -/
def octetsAt (data : Bytes) (pos n : Nat) (h : pos + n ≤ data.length) : Octets n :=
  ⟨slice data pos n, length_slice h⟩

/-! ## Big-endian `u16` -/

/-- `u16::to_be_bytes`. -/
def u16ToBe (n : UInt16) : Bytes := [UInt8.ofNat (n.toNat / 256), UInt8.ofNat (n.toNat % 256)]

/-- `u16::from_be_bytes`. -/
def u16FromBe (hi lo : UInt8) : UInt16 := UInt16.ofNat (hi.toNat * 256 + lo.toNat)

/-- The `u16` at `pos`. -/
def u16At (data : Bytes) (pos : Nat) : UInt16 :=
  u16FromBe (data.getD pos 0) (data.getD (pos + 1) 0)

/-- `u16::try_from(n).unwrap_or(u16::MAX)`. -/
def u16OrMax (n : Nat) : UInt16 := if n < 65536 then UInt16.ofNat n else 65535

@[simp] theorem length_u16ToBe (n : UInt16) : (u16ToBe n).length = 2 := rfl

theorem u16FromBe_toBe (n : UInt16) :
    u16FromBe (UInt8.ofNat (n.toNat / 256)) (UInt8.ofNat (n.toNat % 256)) = n := by
  have hn : n.toNat < 65536 := n.toNat_lt
  have hhi : (UInt8.ofNat (n.toNat / 256)).toNat = n.toNat / 256 := by
    simp only [UInt8.toNat_ofNat']
    omega
  have hlo : (UInt8.ofNat (n.toNat % 256)).toNat = n.toNat % 256 := by
    simp only [UInt8.toNat_ofNat']
    omega
  rw [u16FromBe, hhi, hlo, Nat.div_add_mod']
  exact UInt16.ofNat_toNat

theorem u16ToBe_fromBe (hi lo : UInt8) : u16ToBe (u16FromBe hi lo) = [hi, lo] := by
  have hhi : hi.toNat < 256 := hi.toNat_lt
  have hlo : lo.toNat < 256 := lo.toNat_lt
  have hn : (u16FromBe hi lo).toNat = hi.toNat * 256 + lo.toNat := by
    rw [u16FromBe, UInt16.toNat_ofNat']
    omega
  rw [u16ToBe, hn, show (hi.toNat * 256 + lo.toNat) / 256 = hi.toNat by omega,
    show (hi.toNat * 256 + lo.toNat) % 256 = lo.toNat by omega, UInt8.ofNat_toNat,
    UInt8.ofNat_toNat]

/-- The `u16` at `pos` is made of the first two bytes from there. -/
theorem u16At_eq {data : Bytes} {pos : Nat} {hi lo : UInt8} {rest : Bytes}
    (h : data.drop pos = hi :: lo :: rest) : u16At data pos = u16FromBe hi lo := by
  have h0 : data.getD pos 0 = hi := by
    rw [List.getD_eq_getElem?_getD, ← Nat.add_zero pos, ← List.getElem?_drop, h]
    rfl
  have h1 : data.getD (pos + 1) 0 = lo := by
    rw [List.getD_eq_getElem?_getD, ← List.getElem?_drop, h]
    rfl
  rw [u16At, h0, h1]

/-- A `u16` off the front of what is left. -/
theorem u16ToBe_u16At_append {data : Bytes} {pos : Nat} (h : pos + 2 ≤ data.length) :
    u16ToBe (u16At data pos) ++ data.drop (pos + 2) = data.drop pos := by
  have hdrop : data.drop pos
      = data.getD pos 0 :: data.getD (pos + 1) 0 :: data.drop (pos + 2) := by
    rw [drop_eq_getD_cons (by omega), drop_eq_getD_cons (by omega)]
  rw [u16At_eq hdrop, u16ToBe_fromBe, hdrop]
  rfl

theorem toNat_u16OrMax {n : Nat} (h : n < 65536) : (u16OrMax n).toNat = n := by
  rw [u16OrMax, if_pos h, UInt16.toNat_ofNat']
  omega

theorem toNat_u16OrMax_eq_min (n : Nat) : (u16OrMax n).toNat = min n 65535 := by
  by_cases h : n < 65536
  · rw [toNat_u16OrMax h]
    omega
  · rw [u16OrMax, if_neg h, show (65535 : UInt16).toNat = 65535 from rfl]
    omega

end Infra
