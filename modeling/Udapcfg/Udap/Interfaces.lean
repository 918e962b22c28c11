import Mathlib.Data.List.Sort
import Udapcfg.Infra.Decimal

/-!
# Network interfaces

`interfaces.rs`: the interfaces that discovery can use, in the natural order of their names.

The loops of the source over two positions are recursions on what is left of the two names. What the
operating system reports is an argument of `enumerate`, and so is the arithmetic of `ipnet`.
-/

namespace Udap

open Infra

/-! ## Comparing names -/

/-- `[u8]::cmp`, which is also `str::cmp`. -/
def sliceCmp (left right : Bytes) : Ordering := List.compareLex compare left right

/-- `u8::is_ascii_alphabetic`. -/
def isAlphabetic (b : UInt8) : Bool := (0x41 ≤ b && b ≤ 0x5A) || (0x61 ≤ b && b ≤ 0x7A)

/-- `u8::is_ascii_alphanumeric`. -/
def isAlphanumeric (b : UInt8) : Bool := isDigit b || isAlphabetic b

/-- `u8::is_ascii_hexdigit`. -/
def isHexdigit (b : UInt8) : Bool :=
  isDigit b || (0x41 ≤ b && b ≤ 0x46) || (0x61 ≤ b && b ≤ 0x66)

/-- `HEX_IDENTIFIER_MIN_LEN`. -/
def hexIdentifierMinLen : Nat := 8

/-- `strip_leading_zeros`. At least one digit is kept. -/
def stripLeadingZeros : Bytes → Bytes
  | b :: c :: rest => if b = 0x30 then stripLeadingZeros (c :: rest) else b :: c :: rest
  | run => run

/-- `is_hex_identifier`. -/
def isHexIdentifier (token : Bytes) : Bool :=
  hexIdentifierMinLen ≤ token.length && token.all isHexdigit && token.any isAlphabetic

/-- How two digit runs compare as numbers: `by_value`. -/
def byValue (leftRun rightRun : Bytes) : Ordering :=
  let left := stripLeadingZeros leftRun
  let right := stripLeadingZeros rightRun
  (compare left.length right.length).then (sliceCmp left right)

/-- `token_cmp`. -/
def tokenCmp : Bytes → Bytes → Ordering
  | l :: left, r :: right =>
    -- two runs of digits are compared as numbers, whatever stands before them
    if isDigit l && isDigit r then
      let ordering := byValue (l :: left.takeWhile isDigit) (r :: right.takeWhile isDigit)
      if ordering ≠ .eq then ordering
      else tokenCmp (left.dropWhile isDigit) (right.dropWhile isDigit)
    else
      let byByte := compare l r
      if byByte ≠ .eq then byByte else tokenCmp left right
  | left, right => compare left.length right.length
termination_by left _ => left.length
decreasing_by
  · exact Nat.lt_succ_of_le (List.dropWhile_sublist _).length_le
  · exact Nat.lt_succ_self _

/-- How two whole tokens compare: hex identifiers as written, everything else as counters. -/
def tokenOrdering (leftToken rightToken : Bytes) : Ordering :=
  if isHexIdentifier leftToken && isHexIdentifier rightToken then sliceCmp leftToken rightToken
  else tokenCmp leftToken rightToken

/-- The loop of `iface_cmp`, and the comparison of what is left after it. -/
def ifaceLoop : Bytes → Bytes → Ordering
  | l :: left, r :: right =>
    -- two tokens are compared whole, anything else byte by byte
    if isAlphanumeric l && isAlphanumeric r then
      let ordering := tokenOrdering (l :: left.takeWhile isAlphanumeric)
        (r :: right.takeWhile isAlphanumeric)
      if ordering ≠ .eq then ordering
      else ifaceLoop (left.dropWhile isAlphanumeric) (right.dropWhile isAlphanumeric)
    else
      let byByte := compare l r
      if byByte ≠ .eq then byByte else ifaceLoop left right
  | left, right => compare left.length right.length
termination_by left _ => left.length
decreasing_by
  · exact Nat.lt_succ_of_le (List.dropWhile_sublist _).length_le
  · exact Nat.lt_succ_self _

/-- `iface_cmp`. -/
def ifaceCmp (left right : String) : Ordering :=
  (ifaceLoop (strBytes left) (strBytes right)).then (sliceCmp (strBytes left) (strBytes right))

example : ifaceCmp "enp2s0" "enp10s0" = .lt ∧ ifaceCmp "eth0.100" "eth0.99" = .gt ∧
    ifaceCmp "br-41b85cbb03f0" "br-7a918edb41cb" = .lt ∧ ifaceCmp "en7" "en007" = .gt := by
  decide +kernel

/-! ## Enumeration -/

/-- What `netdev` reports about an interface, as far as it is looked at. -/
structure OsInterface where
  name : String
  index : UInt32
  isUp : Bool
  isBroadcast : Bool
  isLoopback : Bool
  ipv4 : List (Ipv4Addr × UInt8)
deriving DecidableEq

/-- `NetInterface`. -/
structure NetInterface where
  name : String
  index : UInt32
  addr : Ipv4Addr
  broadcast : Ipv4Addr
deriving DecidableEq

/--
The broadcast address of `ipnet`, from an address and a prefix length; `none` where `Ipv4Net::new`
rejects the length.
-/
abbrev NetBroadcast := Ipv4Addr → UInt8 → Option Ipv4Addr

/-- `directed_broadcast`. -/
def directedBroadcast (net : NetBroadcast) (addr : Ipv4Addr) (prefixLen : UInt8) : Ipv4Addr :=
  (net addr prefixLen).getD addr

/-- The filter of `enumerate`: up, broadcast-capable, no loopback, and the first IPv4 address. -/
def usable (net : NetBroadcast) (iface : OsInterface) : Option NetInterface :=
  if !iface.isUp || !iface.isBroadcast || iface.isLoopback then none
  else
    match iface.ipv4 with
    | [] => none
    | (addr, prefixLen) :: _ =>
      some ⟨iface.name, iface.index, addr, directedBroadcast net addr prefixLen⟩

/-- `a` may stand before `b` in the list. -/
def ifaceLe (a b : NetInterface) : Prop := (ifaceCmp a.name b.name).isLE

instance : DecidableRel ifaceLe := fun _ _ => inferInstanceAs (Decidable (_ = true))

/--
`enumerate`, of what `netdev::get_interfaces` reports. `sort_by` is stable; where the comparison is
no total order its result is left open.
-/
def enumerate (net : NetBroadcast) (reported : List OsInterface) : List NetInterface :=
  (reported.filterMap (usable net)).insertionSort ifaceLe

end Udap
