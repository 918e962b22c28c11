import Mathlib.Data.List.Lex
import Udapcfg.Udap.Hex

/-!
# The `Mac` value object

`mac.rs`: a 48-bit hardware address, its text form and the order of addresses. The six bytes are
part of the type.
-/

namespace Udap

open Infra

/-- `Mac([u8; MAC_LEN])`. -/
structure Mac where
  bytes : Octets 6
deriving DecidableEq

/-- `MacParseError`. -/
inductive MacParseError where
  | length (input : String) (got : Nat)
  | nonHex (input : String) (pos : Nat)
  | missingColon (input : String) (pos : Nat)
deriving DecidableEq

/-- `hex_nibble`. -/
def hexNibble (c : UInt8) : Option UInt8 :=
  if 0x30 ≤ c && c ≤ 0x39 then some (c - 0x30)
  else if 0x61 ≤ c && c ≤ 0x66 then some (c - 0x61 + 10)
  else if 0x41 ≤ c && c ≤ 0x46 then some (c - 0x41 + 10)
  else none

namespace Mac

/-- The all-zeros MAC: broadcast destination, and source of our own packets. -/
def zero : Mac := ⟨⟨[0, 0, 0, 0, 0, 0], rfl⟩⟩

def isZero (m : Mac) : Bool := m.bytes.toList = [0, 0, 0, 0, 0, 0]

/-- The MAC of the `last`-th device of `with_auto_devices`: `00:04:20:00:00:01` and on. -/
def auto (last : UInt8) : Mac := ⟨⟨[0x00, 0x04, 0x20, 0x00, 0x00, last], rfl⟩⟩

/-- `Display`: lowercase hex with a colon before every byte but the first. -/
def format (m : Mac) : String :=
  String.ofList (m.bytes.toList.zipIdx.flatMap fun bi =>
    (if 0 < bi.2 then [':'] else []) ++ hexByte bi.1)

/-! ## Parsing -/

/-- `MAC_LEN`. -/
def macLen : Nat := 6

/-- `MAC_STR_LEN`. -/
def macStrLen : Nat := 17

/--
The loop of `from_str`: `n` groups to go, the next one is `i`. The length has been checked, so that
no index is out of bounds.
-/
def fromStrLoop (s : String) (bytes : Bytes) : (n : Nat) → Nat → Except MacParseError (Octets n)
  | 0, _ => .ok List.Vector.nil
  | n + 1, i =>
    let base := i * 3
    match hexNibble (bytes.getD base 0) with
    | none => .error (.nonHex s base)
    | some hi =>
      match hexNibble (bytes.getD (base + 1) 0) with
      | none => .error (.nonHex s (base + 1))
      | some lo =>
        if i < macLen - 1 ∧ bytes.getD (base + 2) 0 ≠ 0x3A then .error (.missingColon s (base + 2))
        else
          match fromStrLoop s bytes n (i + 1) with
          | .error e => .error e
          | .ok rest => .ok (List.Vector.cons (hi <<< 4 ||| lo) rest)

/-- `Mac::from_str`. -/
def fromStr (s : String) : Except MacParseError Mac :=
  let bytes := strBytes s
  if bytes.length ≠ macStrLen then .error (.length s bytes.length)
  else
    match fromStrLoop s bytes macLen 0 with
    | .error e => .error e
    | .ok out => .ok ⟨out⟩

/-! ## Order -/

/-- The bytes as numbers. -/
def toNats (m : Mac) : List Nat := m.bytes.toList.map UInt8.toNat

theorem toNats_injective : Function.Injective toNats := by
  intro m m' h
  have hbytes : m.bytes.toList = m'.bytes.toList :=
    List.map_injective_iff.mpr (fun _ _ => UInt8.toNat_inj.mp) h
  cases m
  cases m'
  exact congrArg Mac.mk (Subtype.ext hbytes)

/-- The derived order: byte by byte. -/
instance : LinearOrder Mac where
  le m m' := m.toNats ≤ m'.toNats
  le_refl m := le_refl m.toNats
  le_trans _ _ _ h h' := le_trans (α := List Nat) h h'
  le_antisymm _ _ h h' := toNats_injective (le_antisymm h h')
  le_total m m' := le_total m.toNats m'.toNats
  toDecidableLE m m' := inferInstanceAs (Decidable (m.toNats ≤ m'.toNats))
  toDecidableEq := inferInstance

end Mac

end Udap
