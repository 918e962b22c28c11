import Udapcfg.Mocksbr.Responses
import Udapcfg.Udap.Session

/-!
# The header codec in both directions

`toBytes` and `fromBytes` place the fields by offsets written down twice, and `isRequestPacket`
reads one of them by a third.

* `toBytes_readFields` — the fields of a buffer, serialized, are its first 27 bytes
* `fromBytes_eq_ok_iff` — the accepted datagrams are the serialized UCP headers with their payloads
* `isRequestPacket_of_fromBytes` — the request bit is that of the parsed flags
* `header_codec` — all of it
-/

namespace Udap

open Infra

namespace Packet

/-- **Reading is injective**: the fields and the payload make up the buffer. -/
theorem toBytes_readFields {b : Bytes} (h : headerSize ≤ b.length) :
    (readFields b h).toBytes ++ b.drop headerSize = b := by
  have hlen : 27 ≤ b.length := h
  have hfields : (readFields b h).toBytes ++ b.drop headerSize
      = b.getD 0 0 :: b.getD 1 0 :: (slice b 2 6 ++ (b.getD 8 0 :: b.getD 9 0 ::
        (slice b 10 6 ++ (u16ToBe (u16At b 16) ++ (u16ToBe (u16At b 18) ++ (b.getD 20 0 ::
          (slice b 21 4 ++ (u16ToBe (u16At b 25) ++ b.drop 27)))))))) := by
    rw [toBytes_eq]
    simp only [List.append_assoc, List.cons_append, List.nil_append]
    rfl
  -- from the back, each field goes in front of what follows it
  rw [hfields, u16ToBe_u16At_append (by omega), slice_append_drop, ← drop_eq_getD_cons (by omega),
    u16ToBe_u16At_append (by omega), u16ToBe_u16At_append (by omega), slice_append_drop,
    ← drop_eq_getD_cons (by omega), ← drop_eq_getD_cons (by omega), slice_append_drop,
    ← drop_eq_getD_cons (by omega), ← drop_eq_getD_cons (by omega), List.drop_zero]

/-- What `fromBytes` makes of a header with a payload behind it. -/
theorem fromBytes_toBytes_append (p : Packet) (x : Bytes) : fromBytes (p.toBytes ++ x)
    = if p.udapType = udapTypeUcp then .ok (p, x) else .error (.notUcp p.udapType) := by
  by_cases hucp : p.udapType = udapTypeUcp
  · rw [if_pos hucp, fromBytes_toBytes hucp]
  · have hlen : headerSize ≤ (p.toBytes ++ x).length := by
      rw [List.length_append, length_toBytes]
      omega
    rw [if_neg hucp, fromBytes, dif_neg (Nat.not_lt.mpr hlen)]
    simp only [readFields_toBytes]
    rw [if_pos hucp]

/-- **The accepted datagrams** are the serialized UCP headers, each with any payload. -/
theorem fromBytes_eq_ok_iff {b x : Bytes} {p : Packet} :
    fromBytes b = .ok (p, x) ↔ p.udapType = udapTypeUcp ∧ b = p.toBytes ++ x := by
  constructor
  · intro h
    obtain ⟨hucp, rfl⟩ := fromBytes_ok h
    refine ⟨hucp, ?_⟩
    unfold fromBytes at h
    split at h
    · cases h
    · next hlen =>
      simp only at h
      split at h
      · cases h
      · cases h
        exact (toBytes_readFields (Nat.not_lt.mp hlen)).symm
  · rintro ⟨hucp, rfl⟩
    exact fromBytes_toBytes hucp x

/-- Only a buffer shorter than a header is too short. -/
theorem fromBytes_tooShort_iff {b : Bytes} :
    (∃ got min, fromBytes b = .error (.tooShort got min)) ↔ b.length < headerSize := by
  constructor
  · rintro ⟨got, min, h⟩
    unfold fromBytes at h
    split at h
    · next hlen => exact hlen
    · simp only at h
      split at h <;> cases h
  · intro h
    exact ⟨_, _, dif_pos h⟩

end Packet

/-- **The request bit** of a datagram is that of its parsed flags. -/
theorem isRequestPacket_of_fromBytes {b x : Bytes} {p : Packet}
    (h : Packet.fromBytes b = .ok (p, x)) :
    isRequestPacket b = decide (p.ucpFlags &&& flagRequest ≠ 0) := by
  obtain ⟨_, rfl⟩ := Packet.fromBytes_eq_ok_iff.mp h
  have hdst : p.dstAddress.bytes.toList.length = 6 := p.dstAddress.bytes.2
  have hsrc : p.srcAddress.bytes.toList.length = 6 := p.srcAddress.bytes.2
  have hflags : (p.toBytes ++ x)[ucpFlagsOffset]? = some p.ucpFlags := by
    simp [Packet.toBytes_eq, ucpFlagsOffset, List.getElem?_append, hdst, hsrc, u16ToBe]
  rw [isRequestPacket, hflags]

/-- What a session sends is a request, -/
theorem isRequestPacket_header {σ : Type} (s : Session σ) (dst : Mac) (ucpMethod : UInt16)
    (broadcast : Bool) (x : Bytes) :
    isRequestPacket ((s.header dst ucpMethod broadcast).1.toBytes ++ x) = true := by
  rw [isRequestPacket_of_fromBytes (Packet.fromBytes_toBytes rfl x)]
  show decide (flagRequest &&& flagRequest ≠ 0) = true
  decide

/-- and what a device sends is none. -/
theorem isRequestPacket_buildHeader (request : Packet) (cfg : Mocksbr.DeviceConfig)
    (ucpMethod : UInt16) (x : Bytes) :
    isRequestPacket ((Mocksbr.buildHeader request cfg ucpMethod).toBytes ++ x) = false := by
  rw [isRequestPacket_of_fromBytes (Packet.fromBytes_toBytes rfl x)]
  show decide ((0x00 : UInt8) &&& flagRequest ≠ 0) = false
  decide

/-- **The header codec** is a bijection onto the accepted datagrams, and the request bit it carries
tells our packets from those of a device. -/
structure HeaderCodec : Prop where
  /-- What was serialized is read back, unless it is not UCP. -/
  read : ∀ (p : Packet) (x : Bytes), Packet.fromBytes (p.toBytes ++ x)
    = if p.udapType = udapTypeUcp then .ok (p, x) else .error (.notUcp p.udapType)
  /-- What was read serializes to the datagram. -/
  write : ∀ (b x : Bytes) (p : Packet), Packet.fromBytes b = .ok (p, x) → p.toBytes ++ x = b
  tooShort : ∀ b : Bytes,
    (∃ got min, Packet.fromBytes b = .error (.tooShort got min)) ↔ b.length < 27
  request : ∀ (b x : Bytes) (p : Packet), Packet.fromBytes b = .ok (p, x) →
    (isRequestPacket b = true ↔ p.ucpFlags &&& flagRequest ≠ 0)
  /-- A session sets the bit, -/
  header : ∀ (σ : Type) (s : Session σ) (dst : Mac) (ucpMethod : UInt16) (broadcast : Bool),
    (s.header dst ucpMethod broadcast).1.ucpFlags &&& flagRequest = flagRequest
  /-- and a device clears it. -/
  buildHeader : ∀ (request : Packet) (cfg : Mocksbr.DeviceConfig) (ucpMethod : UInt16),
    (Mocksbr.buildHeader request cfg ucpMethod).ucpFlags &&& flagRequest = 0

theorem header_codec : HeaderCodec where
  read := Packet.fromBytes_toBytes_append
  write b x p h := (Packet.fromBytes_eq_ok_iff.mp h).2.symm
  tooShort _ := Packet.fromBytes_tooShort_iff
  request b x p h := by
    rw [isRequestPacket_of_fromBytes h]
    exact decide_eq_true_iff
  header _ _ _ _ _ := by
    show flagRequest &&& flagRequest = flagRequest
    decide
  buildHeader _ _ _ := by
    show (0x00 : UInt8) &&& flagRequest = 0
    decide

end Udap
