import Udapcfg.Udap.Mac

/-!
# UDAP packet header

`protocol.rs`: the 27-byte header, its two directions (`Packet.toBytes`, `Packet.fromBytes`) and
the protocol constants. All multi-byte fields are big-endian.
-/

namespace Udap

open Infra

/-- Serialized size of the header. -/
def headerSize : Nat := 27

/-- `UDAPType` of a UCP packet. -/
def udapTypeUcp : UInt16 := 0xC001

/-- Ethernet addressing. -/
def addrTypeEth : UInt8 := 0x01

def uapClassUcp : Octets 4 := ⟨[0x00, 0x01, 0x00, 0x01], rfl⟩

/-- Byte index of `ucpFlags` in the header. -/
def ucpFlagsOffset : Nat := 20

/-- The request bit in `ucpFlags`. -/
def flagRequest : UInt8 := 0x01

/-! ## UCP method numbers -/

namespace Method

def discover : UInt16 := 0x0001
def getIp : UInt16 := 0x0002
def reset : UInt16 := 0x0004
def getData : UInt16 := 0x0005
def setData : UInt16 := 0x0006
def error : UInt16 := 0x0007
def credentialsError : UInt16 := 0x0008
def advDisc : UInt16 := 0x0009
def getUuid : UInt16 := 0x000b

end Method

/-- `ProtocolError`. -/
inductive ProtocolError where
  | tooShort (got min : Nat)
  | notUcp (udapType : UInt16)
deriving DecidableEq

/-- A packet header. `ucpMethod` is a raw number: unknown methods are reported verbatim. -/
@[ext] structure Packet where
  dstBroadcast : UInt8
  dstType : UInt8
  dstAddress : Mac
  srcBroadcast : UInt8
  srcType : UInt8
  srcAddress : Mac
  sequence : UInt16
  udapType : UInt16
  ucpFlags : UInt8
  uapClass : Octets 4
  ucpMethod : UInt16
deriving DecidableEq

namespace Packet

/-- `b[pos..pos + data.len()].copy_from_slice(data)`. -/
def copyAt (b : Bytes) (pos : Nat) (data : Bytes) : Bytes :=
  b.take pos ++ (data ++ b.drop (pos + data.length))

/-- Serializes the header, field by field at its offset. -/
def toBytes (p : Packet) : Bytes :=
  let b := zeros headerSize
  let b := b.set 0 p.dstBroadcast
  let b := b.set 1 p.dstType
  let b := copyAt b 2 p.dstAddress.bytes.toList
  let b := b.set 8 p.srcBroadcast
  let b := b.set 9 p.srcType
  let b := copyAt b 10 p.srcAddress.bytes.toList
  let b := copyAt b 16 (u16ToBe p.sequence)
  let b := copyAt b 18 (u16ToBe p.udapType)
  let b := b.set 20 p.ucpFlags
  let b := copyAt b 21 p.uapClass.toList
  copyAt b 25 (u16ToBe p.ucpMethod)

/-- Reads the fields of a buffer that is long enough. -/
def readFields (buf : Bytes) (h : headerSize ≤ buf.length) : Packet where
  dstBroadcast := buf.getD 0 0
  dstType := buf.getD 1 0
  dstAddress := ⟨octetsAt buf 2 6 (by unfold headerSize at h; omega)⟩
  srcBroadcast := buf.getD 8 0
  srcType := buf.getD 9 0
  srcAddress := ⟨octetsAt buf 10 6 (by unfold headerSize at h; omega)⟩
  sequence := u16At buf 16
  udapType := u16At buf 18
  ucpFlags := buf.getD 20 0
  uapClass := octetsAt buf 21 4 (by unfold headerSize at h; omega)
  ucpMethod := u16At buf 25

/-- Parses a header and returns it with the payload after it. -/
def fromBytes (buf : Bytes) : Except ProtocolError (Packet × Bytes) :=
  if h : buf.length < headerSize then .error (.tooShort buf.length headerSize)
  else
    let packet := readFields buf (Nat.not_lt.mp h)
    if packet.udapType ≠ udapTypeUcp then .error (.notUcp packet.udapType)
    else .ok (packet, buf.drop headerSize)

end Packet

/-- Whether `buf` has the request bit set. -/
def isRequestPacket (buf : Bytes) : Bool :=
  match buf[ucpFlagsOffset]? with
  | some flags => flags &&& flagRequest ≠ 0
  | none => false

/-! ## Layout -/

namespace Packet

/-- The fields one after another. -/
theorem toBytes_eq (p : Packet) : p.toBytes =
    [p.dstBroadcast, p.dstType] ++ (p.dstAddress.bytes.toList ++ ([p.srcBroadcast, p.srcType] ++
      (p.srcAddress.bytes.toList ++ (u16ToBe p.sequence ++ (u16ToBe p.udapType ++
        (p.ucpFlags :: (p.uapClass.toList ++ u16ToBe p.ucpMethod))))))) := by
  obtain ⟨_, _, ⟨⟨dst, hdst⟩⟩, _, _, ⟨⟨src, hsrc⟩⟩, _, _, _, ⟨uap, huap⟩, _⟩ := p
  obtain ⟨_, _, _, _, _, _, rfl⟩ := exists_of_length_six hdst
  obtain ⟨_, _, _, _, _, _, rfl⟩ := exists_of_length_six hsrc
  obtain ⟨_, _, _, _, rfl⟩ := List.length_eq_four.mp huap
  simp [toBytes, copyAt, zeros, headerSize, u16ToBe, List.replicate]

theorem length_toBytes (p : Packet) : p.toBytes.length = headerSize := by
  have hdst : p.dstAddress.bytes.toList.length = 6 := p.dstAddress.bytes.2
  have hsrc : p.srcAddress.bytes.toList.length = 6 := p.srcAddress.bytes.2
  have huap : p.uapClass.toList.length = 4 := p.uapClass.2
  simp [toBytes_eq, hdst, hsrc, huap, headerSize]

/-- The fields of a serialized header are read back, whatever follows. -/
theorem readFields_toBytes (p : Packet) (x : Bytes) (h : headerSize ≤ (p.toBytes ++ x).length) :
    readFields (p.toBytes ++ x) h = p := by
  obtain ⟨_, _, ⟨⟨dst, hdst⟩⟩, _, _, ⟨⟨src, hsrc⟩⟩, seq, typ, _, ⟨uap, huap⟩, met⟩ := p
  obtain ⟨_, _, _, _, _, _, rfl⟩ := exists_of_length_six hdst
  obtain ⟨_, _, _, _, _, _, rfl⟩ := exists_of_length_six hsrc
  obtain ⟨_, _, _, _, rfl⟩ := List.length_eq_four.mp huap
  revert h
  rw [toBytes_eq]
  intro h
  have h16 := u16FromBe_toBe seq
  have h18 := u16FromBe_toBe typ
  have h25 := u16FromBe_toBe met
  exact Packet.ext rfl rfl rfl rfl rfl rfl h16 h18 rfl rfl h25

/-- **A serialized UCP header is accepted, and the payload is split off exactly.** -/
theorem fromBytes_toBytes {p : Packet} (hucp : p.udapType = udapTypeUcp) (x : Bytes) :
    fromBytes (p.toBytes ++ x) = .ok (p, x) := by
  have hlen : headerSize ≤ (p.toBytes ++ x).length := by
    rw [List.length_append, length_toBytes]
    omega
  have hdrop : (p.toBytes ++ x).drop headerSize = x := by
    rw [← length_toBytes p]
    exact List.drop_left
  rw [fromBytes, dif_neg (Nat.not_lt.mpr hlen)]
  simp only [readFields_toBytes, hdrop]
  rw [if_neg (by simp [hucp])]

/-- What an accepted buffer says about itself. -/
theorem fromBytes_ok {buf x : Bytes} {p : Packet} (h : fromBytes buf = .ok (p, x)) :
    p.udapType = udapTypeUcp ∧ x = buf.drop headerSize := by
  unfold fromBytes at h
  split at h
  · simp at h
  · simp only [ne_eq, ite_not] at h
    split at h
    · next hucp =>
      cases h
      exact ⟨hucp, rfl⟩
    · simp at h

end Packet

end Udap
