import Udapcfg.Infra.Bytes

/-!
# Lowercase hex

`hex.rs`: two lowercase digits per byte, zero-padded.
-/

namespace Udap

open Infra

/-- One hex digit, `0` to `15`. -/
def hexDigit (n : Nat) : Char := if n < 10 then Char.ofNat (0x30 + n) else Char.ofNat (0x57 + n)

/-- `{byte:02x}`. -/
def hexByte (b : UInt8) : List Char := [hexDigit (b.toNat / 16), hexDigit (b.toNat % 16)]

namespace Hex

/-- `hex::encode`. -/
def encode (value : Bytes) : String := String.ofList (value.flatMap hexByte)

end Hex

end Udap
