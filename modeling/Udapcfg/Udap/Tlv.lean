import Udapcfg.Infra.Bytes

/-!
# Type-Length-Value codec

`tlv.rs`: one tag byte, one length byte, then that many value bytes. A truncated entry at the end
is dropped and the entries before it are kept.
-/

namespace Udap

open Infra

/-- One decoded entry. -/
structure Tlv where
  tag : UInt8
  value : Bytes
deriving DecidableEq

namespace Tlv

/-- The loop of `decode`. Every round moves `pos` by at least two, so `data.length` rounds do. -/
def decodeLoop (data : Bytes) : Nat → Nat → List Tlv
  | 0, _ => []
  | fuel + 1, pos =>
    if data.length < pos + 2 then []
    else
      let tag := data.getD pos 0
      let len := (data.getD (pos + 1) 0).toNat
      if data.length < pos + 2 + len then []
      else ⟨tag, slice data (pos + 2) len⟩ :: decodeLoop data fuel (pos + 2 + len)

/-- `tlv::decode`. -/
def decode (data : Bytes) : List Tlv := decodeLoop data data.length 0

/-- `tlv::encode_into`, as the bytes it appends. Values are cut at 255 bytes. -/
def encode (tag : UInt8) (value : Bytes) : Bytes :=
  let len := min value.length 255
  tag :: UInt8.ofNat len :: value.take len

end Tlv

end Udap
