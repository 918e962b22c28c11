import Mathlib.Algebra.GroupWithZero.Nat
import Mathlib.Algebra.Order.BigOperators.Group.List
import Udapcfg.Properties.Composition
import Udapcfg.Properties.GetData
import Udapcfg.Properties.Udp
import Udapcfg.Properties.WireTrace

/-!
# The size of replies

The UDP transport reads 2048 bytes of a datagram and no more. What a device replies to a program
fits, as long as no read names a parameter twice.

* `respond_isReply` — the size of a reply
* `itemsFit_getDataPayload` — reads that name no parameter twice
* `replies_fit` — every reply to a packet of a program goes through the transport unchanged
-/

namespace Mocksbr

open Infra Udap

variable {request : Packet} {payload : Bytes} {cfg : DeviceConfig} {state : DeviceState}

/-! ## Bodies -/

theorem length_tlvEncode_le (tag : UInt8) (value : Bytes) : (Tlv.encode tag value).length ≤ 257 := by
  simp only [Tlv.encode, List.length_cons, List.length_take]
  omega

/-- What a reply can hold behind its header. -/
def bodyBound : Nat := 6 * 257

/-- A reply: a header and a body that is not too long. -/
def IsReply (request : Packet) (cfg : DeviceConfig) (bytes : Bytes) : Prop :=
  ∃ method body, bytes = (buildHeader request cfg method).toBytes ++ body ∧ body.length ≤ bodyBound

theorem isReply_discoveryResponse (request : Packet) (cfg : DeviceConfig) :
    IsReply request cfg (discoveryResponse request cfg) := by
  refine ⟨_, _, rfl, ?_⟩
  have h₁ := length_tlvEncode_le 0x0c (strBytes cfg.state)
  have h₂ := length_tlvEncode_le 0x0b (strBytes cfg.deviceId)
  have h₃ := length_tlvEncode_le 0x0a (strBytes cfg.hardware)
  have h₄ := length_tlvEncode_le 0x09 (strBytes cfg.firmware)
  have h₅ := length_tlvEncode_le 0x03 (strBytes cfg.model)
  have h₆ := length_tlvEncode_le 0x02 (strBytes cfg.name)
  simp only [List.length_append, bodyBound]
  omega

theorem isReply_errorResponse (request : Packet) (cfg : DeviceConfig) (message : String) :
    IsReply request cfg (errorResponse request cfg message) := by
  refine ⟨_, _, rfl, ?_⟩
  split
  · exact Nat.zero_le _
  · exact (length_tlvEncode_le _ _).trans (by decide)

theorem isReply_getIpResponse (request : Packet) (cfg : DeviceConfig) :
    IsReply request cfg (getIpResponse request cfg) := by
  refine ⟨_, _, rfl, ?_⟩
  have h₁ := length_tlvEncode_le 0x05 cfg.ip.octets
  have h₂ := length_tlvEncode_le 0x06 cfg.subnetMask.octets
  have h₃ := length_tlvEncode_le 0x07 cfg.gateway.octets
  simp only [List.length_append, bodyBound]
  omega

theorem isReply_getUuidResponse (request : Packet) (cfg : DeviceConfig) :
    IsReply request cfg (getUuidResponse request cfg) :=
  ⟨_, _, rfl, (length_tlvEncode_le 0x0d cfg.uuid.toList).trans (by decide)⟩

theorem isReply_setDataResponse (request : Packet) (cfg : DeviceConfig) (accepted : UInt16) :
    IsReply request cfg (setDataResponse request cfg accepted) :=
  ⟨_, _, rfl, by rw [length_u16ToBe]; decide⟩

theorem isReply_resetResponse (request : Packet) (cfg : DeviceConfig) :
    IsReply request cfg (resetResponse request cfg) :=
  ⟨_, [], (List.append_nil _).symm, Nat.zero_le _⟩

/-- The items a read is answered with leave room for the count. -/
def ItemsFit (state : DeviceState) (payload : Bytes) : Prop :=
  (encodeItems (getDataItems state payload)).length + 2 ≤ bodyBound

theorem isReply_getDataResponse (hfit : ItemsFit state payload) :
    IsReply request cfg (getDataResponse request cfg state payload) := by
  refine ⟨_, _, rfl, ?_⟩
  cases cfg.malformed with
  | oversizedCount => exact (Nat.le_of_eq (length_u16ToBe _)).trans (by decide)
  | lengthExceedsPayload =>
    simp only [List.length_append, length_u16ToBe]
    decide
  | none | unknownMethod =>
    unfold ItemsFit at hfit
    simp only [List.length_append, length_u16ToBe]
    omega

/-- **The size of a reply**, whatever the device has configured. -/
theorem respond_isReply {r : ScheduledReply}
    (hread : request.ucpMethod = Method.getData → ItemsFit state payload)
    (hr : (respond request payload cfg state).1 = some r) : IsReply request cfg r.bytes := by
  unfold respond at hr
  split at hr
  · cases hr
    exact isReply_errorResponse request cfg _
  · obtain ⟨bytes, hbytes, rfl⟩ := Option.map_eq_some_iff.mp hr
    unfold dispatch at hbytes
    simp only at hbytes
    split_ifs at hbytes with h₁ h₂ h₃ h₄ h₅ hget h₆ h₇
    · cases hbytes
      exact isReply_discoveryResponse request cfg
    · cases hbytes
      exact isReply_getIpResponse request cfg
    · cases hbytes
      exact isReply_getUuidResponse request cfg
    · cases hbytes
      exact isReply_getDataResponse (hread hget)
    · cases hbytes
      exact isReply_setDataResponse request cfg _
    · cases hbytes
      exact isReply_resetResponse request cfg

/-! ## Reads -/

/-- Items have the width of their parameter, and a parameter that does not encode has none. -/
theorem length_answers_le (state : DeviceState) (ps : List Parameter) :
    (encodeItems (ps.filterMap state.answerItem)).length
      ≤ (ps.map fun p => 4 + p.length.toNat).sum := by
  induction ps with
  | nil => exact Nat.le_refl _
  | cons p ps ih =>
    rw [List.map_cons, List.sum_cons]
    cases hanswer : state.answerItem p with
    | none =>
      rw [List.filterMap_cons_none hanswer]
      omega
    | some it =>
      have hlength : it.2.length = p.length.toNat := by
        unfold DeviceState.answerItem at hanswer
        split at hanswer
        · next henc =>
          rw [← Option.some.inj hanswer]
          exact Parameter.length_encode henc
        · cases hanswer
      rw [List.filterMap_cons_some hanswer, encodeItems_cons, List.length_append]
      simp only [encodeItem, List.length_append, length_u16ToBe]
      omega

/-- A read that names no parameter twice is answered with no more than the whole table. -/
theorem itemsFit_getDataPayload (state : DeviceState) {params : List String}
    (hnodup : (params.filterMap byName).Nodup) : ItemsFit state (getDataPayload params) := by
  rw [ItemsFit, getDataItems_getDataPayload]
  have hanswered : (answered params).Nodup :=
    ((List.perm_insertionSort _ _).nodup_iff.mpr hnodup).sublist (List.take_sublist _ _)
  obtain ⟨l, hperm, hsub⟩ := List.subperm_of_subset hanswered mem_parameters_of_answered
  have htable : ((answered params).map fun p => 4 + p.length.toNat).sum
      ≤ (parameters.map fun p => 4 + p.length.toNat).sum := by
    rw [← (hperm.map _).sum_nat]
    exact (hsub.map _).sum_le_sum fun _ _ => Nat.zero_le _
  have hsum : (parameters.map fun p => 4 + p.length.toNat).sum + 2 ≤ bodyBound := by decide
  have hanswers := length_answers_le state (answered params)
  omega

/-! ## Runs -/

/-- A reply of a network is what one of its devices answers. -/
theorem respond_of_mem_receive {n : Network} {packet : Bytes} {r : ScheduledReply}
    (hparse : Packet.fromBytes packet = .ok (request, payload)) (hr : r ∈ (n.receive packet).1) :
    ∃ cfg state, (respond request payload cfg state).1 = some r := by
  rw [(receive_eq n packet).1] at hr
  obtain ⟨⟨cfg, state⟩, _, hr⟩ := List.mem_flatMap.mp hr
  rw [deviceReceive, hparse] at hr
  simp only at hr
  split at hr
  · exact ⟨cfg, state, Option.mem_toList.mp hr⟩
  · cases hr

/-- The UDP transport hands a datagram on as it is. -/
def PassesUdp (bytes : Bytes) : Prop :=
  ∀ ip rest, UdpSocket.recvLoop (.datagram bytes ip :: rest) = (.ok (bytes, ipText ip), rest)

theorem IsReply.passesUdp {bytes : Bytes} (h : IsReply request cfg bytes) : PassesUdp bytes := by
  obtain ⟨method, body, rfl, hbody⟩ := h
  intro ip rest
  have hlength : ((buildHeader request cfg method).toBytes ++ body).length ≤ recvBuf := by
    rw [List.length_append, Packet.length_toBytes]
    unfold bodyBound at hbody
    unfold headerSize recvBuf
    omega
  rw [UdpSocket.recvLoop]
  simp only [List.take_of_length_le hlength, isRequestPacket_buildHeader]
  exact if_neg Bool.false_ne_true

/-- Every read asks for what some `get` of the run names, or for the whole table. -/
theorem reads_of_follows {device : Device} {reading : Except OpError Params} {call : Call}
    {made : List (UInt16 × Bytes)} (h : Follows device reading call made) {body : Bytes}
    (hmem : (Method.getData, body) ∈ made) :
    ∃ params, body = getDataPayload params ∧ (params = names ∨ call = .get params) := by
  cases h with
  | unencodable => cases hmem
  | get params =>
    cases List.mem_singleton.mp hmem
    exact ⟨params, rfl, .inr rfl⟩
  | getAll | unread | readUnencodable =>
    cases List.mem_singleton.mp hmem
    exact ⟨names, rfl, .inl rfl⟩
  | reset | getIp | getUuid | write =>
    have hmethod := congrArg Prod.fst (List.mem_singleton.mp hmem)
    exact absurd hmethod (by simp only; decide)
  | readWrite =>
    rcases List.mem_cons.mp hmem with hread | hwrite
    · cases hread
      exact ⟨names, rfl, .inl rfl⟩
    · have hmethod := congrArg Prod.fst (List.mem_singleton.mp hwrite)
      exact absurd hmethod (show Method.getData ≠ Method.setData by decide)

theorem reads_of_spells {σ : Type} {T : Transport σ} {m : Message}
    (hmethod : m.ucpMethod = Method.getData) : ∀ (actions : List Action) {p : Program σ}
    {said : List Message}, Spells T p actions said → m ∈ said →
    ∃ params, m.body = getDataPayload params ∧
      (params = names ∨ ∃ index, .call index (.get params) ∈ actions)
  | [], _, _, h, hmem => by
    rw [show _ = [] from h] at hmem
    cases hmem
  | action :: rest, p, _, ⟨first, others, hsaid, hfirst, hothers⟩, hmem => by
    rw [hsaid] at hmem
    rcases List.mem_append.mp hmem with hmem | hmem
    · cases hfirst with
      | discover =>
        rw [List.mem_singleton.mp hmem] at hmethod
        exact absurd hmethod (show Method.advDisc ≠ Method.getData by decide)
      | take | absent | nameless => cases hmem
      | call hheld hmac hfollows =>
        obtain ⟨⟨ucpMethod, body⟩, hcontent, rfl⟩ := List.mem_map.mp hmem
        cases hmethod
        obtain ⟨params, hbody, hparams⟩ := reads_of_follows hfollows hcontent
        refine ⟨params, hbody, hparams.imp_right ?_⟩
        rintro rfl
        exact ⟨_, List.mem_cons_self⟩
    · obtain ⟨params, hbody, hparams⟩ := reads_of_spells hmethod rest hothers hmem
      refine ⟨params, hbody, hparams.imp_right ?_⟩
      rintro ⟨index, hget⟩
      exact ⟨index, List.mem_cons_of_mem action hget⟩

/-- No `get` of a program names a parameter twice. -/
def DistinctReads (actions : List Action) : Prop :=
  ∀ index params, .call index (.get params) ∈ actions → (params.filterMap byName).Nodup

/-- **What a network replies to a program goes through the UDP transport unchanged**: to any packet
of any program, whatever its peers have answered so far and whatever state the network is in. -/
theorem replies_fit {σ : Type} (T : Transport σ) (p : Program (σ × List Bytes))
    (actions : List Action) (hreads : DistinctReads actions) (n : Network) (sent : List Bytes)
    (hsent : (p.run T.recorded actions).client.session.log = p.client.session.log ++ sent) :
    ∀ packet ∈ sent, ∀ r ∈ (n.receive packet).1, PassesUdp r.bytes := by
  intro packet hpacket r hr
  have hstart : p.client.session.sequence = p.client.session.sequence + UInt16.ofNat 0 :=
    (UInt16.add_zero _).symm
  obtain ⟨k, reqs, hsends, _, hspells⟩ := run_sends (T := T) actions p 0 hstart
  rw [hsends.log] at hsent
  rw [← List.append_cancel_left hsent] at hpacket
  obtain ⟨q, hq, hpacket⟩ := List.mem_flatMap.mp hpacket
  cases List.eq_of_mem_replicate hpacket
  obtain ⟨cfg, state, hr⟩ := respond_of_mem_receive (q.fromBytes_packet p.client.session.sequence) hr
  refine (respond_isReply ?_ hr).passesUdp
  intro hmethod
  obtain ⟨params, hbody, hparams⟩ := reads_of_spells (m := q.message) hmethod actions hspells
    (List.mem_map_of_mem hq)
  rw [hbody]
  refine itemsFit_getDataPayload state ?_
  rcases hparams with rfl | ⟨index, hget⟩
  · decide +kernel
  · exact hreads index params hget

/-- A device that is discovered, taken and read. -/
theorem replies_fit_read :
    let n := Network.new [DeviceConfig.defaultWithMac (Mac.auto 1)]
    let p : Program (MockTransport × List Bytes) :=
      ⟨Client.new (MockTransport.new n, []) 0, []⟩
    ∀ packet ∈ (p.run MockTransport.transport.recorded
        [.discover, .take (Mac.auto 1), .call 0 .getAll]).client.session.log,
      ∀ r ∈ (n.receive packet).1, PassesUdp r.bytes := by
  intro n p
  have hdistinct : DistinctReads [.discover, .take (Mac.auto 1), .call 0 .getAll] := by
    intro index params hmem
    simp at hmem
  exact replies_fit _ p _ hdistinct n _ (List.nil_append _).symm

end Mocksbr
