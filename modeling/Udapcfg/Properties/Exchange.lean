import Udapcfg.Properties.Network
import Udapcfg.Properties.Overlay
import Udapcfg.Udap.Ops.Cases

/-!
# Exchanges with a mock device

A session over a `MockTransport`, seen from one device: what a request puts in flight, and what the
operations do when nothing else is in flight and the device has no fault.

* `request_directed` — `retries + 1` sends, as many replies, one change of state
* `get_idle`, `reset_idle`, `set_idle` — one lemma for each operation on an idle session
-/

namespace Mocksbr

open Infra Udap

/-! ## Sending -/

/-- What a request puts in flight. -/
def flight (retries : Nat) (reply : Option ScheduledReply) : List Datagram :=
  (List.replicate (retries + 1) (MockTransport.datagrams reply.toList)).flatten

/-- Once a packet changes nothing any more, every send brings the same replies. -/
theorem sendLoop_steady {packet : Bytes} {replies : List ScheduledReply} {n : Network}
    (h : n.receive packet = (replies, n)) (schedule : List Pick) :
    ∀ (k successes : Nat) (inFlight : List Datagram),
    Session.sendLoop MockTransport.transport packet k none successes ⟨n, inFlight, schedule⟩
      = (none, successes + k,
        ⟨n, inFlight ++ (List.replicate k (MockTransport.datagrams replies)).flatten, schedule⟩)
  | 0, successes, inFlight => by simp [Session.sendLoop]
  | k + 1, successes, inFlight => by
    have hsend : MockTransport.transport.send packet ⟨n, inFlight, schedule⟩
        = (.ok (), ⟨n, inFlight ++ MockTransport.datagrams replies, schedule⟩) := by
      simp only [MockTransport.transport, MockTransport.send, h]
    rw [Session.sendLoop, hsend]
    simp only
    rw [sendLoop_steady h schedule k, List.replicate_succ, List.flatten_cons, List.append_assoc,
      Nat.add_assoc, Nat.add_comm 1 k]

/-- A packet whose repetition changes nothing: one change, and all replies. -/
theorem sendRetried_steady {packet : Bytes} {replies : List ScheduledReply} {n n' : Network}
    (h : n.receive packet = (replies, n')) (h' : n'.receive packet = (replies, n'))
    (inFlight : List Datagram) (schedule : List Pick) (retries : Nat) (sequence : UInt16) :
    Session.sendRetried MockTransport.transport packet
        ⟨⟨n, inFlight, schedule⟩, retries, sequence⟩
      = (.ok (), ⟨⟨n', inFlight
          ++ (List.replicate (retries + 1) (MockTransport.datagrams replies)).flatten, schedule⟩,
        retries, sequence⟩) := by
  have hsend : MockTransport.transport.send packet ⟨n, inFlight, schedule⟩
      = (.ok (), ⟨n', inFlight ++ MockTransport.datagrams replies, schedule⟩) := by
    simp only [MockTransport.transport, MockTransport.send, h]
  rw [Session.sendRetried, Session.sendLoop, hsend]
  simp only [sendLoop_steady h' schedule, List.append_assoc]
  rw [List.replicate_succ, List.flatten_cons]

variable {n : Network} {i : Nat} {cfg : DeviceConfig} {state : DeviceState} {device : Device}

/-- The header of a request with its sequence number. -/
def requestOf (device : Device) (ucpMethod : UInt16) (sequence : UInt16) : Packet where
  dstBroadcast := 0
  dstType := addrTypeEth
  dstAddress := device.mac
  srcBroadcast := 0
  srcType := addrTypeEth
  srcAddress := Mac.zero
  sequence := sequence + 1
  udapType := udapTypeUcp
  ucpFlags := flagRequest
  uapClass := uapClassUcp
  ucpMethod := ucpMethod

theorem header_eq (ucpMethod : UInt16) (t : MockTransport) (retries : Nat) (sequence : UInt16) :
    Session.header device.mac ucpMethod false ⟨t, retries, sequence⟩
      = (requestOf device ucpMethod sequence, ⟨t, retries, sequence + 1⟩) := rfl

/-- **A request to one device**: one change of state, and its reply `retries + 1` times. -/
theorem request_directed (hosts : n.Hosts i cfg state) (hmac : device.mac = cfg.mac)
    {ucpMethod : UInt16} (hmethod : ucpMethod ≠ Method.advDisc) (body : Bytes)
    (inFlight : List Datagram) (schedule : List Pick) (retries : Nat) (sequence : UInt16) :
    Session.request MockTransport.transport device ucpMethod (.ok body)
        ⟨⟨n, inFlight, schedule⟩, retries, sequence⟩
      = Session.waitForReply MockTransport.transport device
        ⟨⟨n.setState i (reply (requestOf device ucpMethod sequence) body cfg state).2,
          inFlight ++ flight retries (reply (requestOf device ucpMethod sequence) body cfg state).1,
          schedule⟩, retries, sequence + 1⟩ := by
  -- the first send changes the state, the others find it changed already
  have hfirst := receive_directed hosts (requestOf device ucpMethod sequence) rfl hmethod hmac body
  have hagain := receive_directed (hosts.setState
    (reply (requestOf device ucpMethod sequence) body cfg state).2)
    (requestOf device ucpMethod sequence) rfl hmethod hmac body
  rw [reply_idem, Network.setState_setState] at hagain
  unfold Session.request
  simp only [header_eq, sendRetried_steady hfirst hagain]
  rfl

/-! ## Receiving -/

/-- The handle talks to this device, and sees its replies as coming from the right address. -/
structure Addresses (device : Device) (cfg : DeviceConfig) : Prop where
  mac : device.mac = cfg.mac
  ip : device.ip = "" ∨ device.ip = cfg.mac.format
  nonzero : cfg.mac.isZero = false

theorem Addresses.isZero (h : Addresses device cfg) : device.mac.isZero = false := by
  rw [h.mac]
  exact h.nonzero

theorem Addresses.withParameters (h : Addresses device cfg) (m : Params) :
    Addresses { device with parameters := m } cfg := ⟨h.mac, h.ip, h.nonzero⟩

/-- A reply of the device is accepted by its handle, and read as it was built. -/
theorem accept_reply (h : Addresses device cfg) (request : Packet) (method : UInt16) (x : Bytes) :
    Session.accept device ((buildHeader request cfg method).toBytes ++ x, cfg.mac.format)
      = some (buildHeader request cfg method, x) := by
  rw [Session.accept, Packet.fromBytes_toBytes rfl]
  have hmac : (buildHeader request cfg method).srcAddress = device.mac := h.mac.symm
  simp only [hmac, ne_eq, not_true_eq_false, if_false]
  rw [if_neg]
  rintro ⟨hip, hsrc⟩
  rcases h.ip with hempty | hformat
  · exact hip hempty
  · exact hsrc hformat.symm

/-- Without a schedule the first datagram in flight is received. -/
theorem waitForReply_head {n : Network} {d : Datagram} {rest : List Datagram} {retries : Nat}
    {sequence : UInt16} {r : Packet × Bytes} (h : Session.accept device d = some r) :
    Session.waitForReply MockTransport.transport device ⟨⟨n, d :: rest, []⟩, retries, sequence⟩
      = (.ok r, ⟨⟨n, rest, []⟩, retries, sequence⟩) := by
  rw [Session.waitForReply_eq]
  simp only [MockTransport.transport, MockTransport.recv, h]

/-! ## Replies of a device without faults -/

/-- A reply under the method of the request. -/
def scheduled (request : Packet) (cfg : DeviceConfig) (x : Bytes) : ScheduledReply :=
  ⟨(buildHeader request cfg request.ucpMethod).toBytes ++ x, cfg.mac.format, cfg.slow⟩

/-- The body of a `GetData` reply. -/
def getDataBody (state : DeviceState) (payload : Bytes) : Bytes :=
  u16ToBe (u16OrMax (getDataItems state payload).length)
    ++ encodeItems (getDataItems state payload)

/-- A reachable device that is not configured to fail the operation dispatches on the method. -/
theorem reply_of_passes (hreach : cfg.unreachable = false) {request : Packet}
    (hpass : ∀ op, Op.fromMethod request.ucpMethod = some op → cfg.failsOn op = false)
    (payload : Bytes) (state : DeviceState) : reply request payload cfg state =
      ((dispatch request payload cfg state).1.map fun bytes => ⟨bytes, cfg.mac.format, cfg.slow⟩,
        (dispatch request payload cfg state).2) := by
  have hnone : (Op.fromMethod request.ucpMethod).filter cfg.failsOn = none := by
    rw [Option.filter_eq_none_iff]
    intro op hop
    simp [hpass op hop]
  rw [reply, hreach, if_neg (by simp), respond, hnone]

theorem reply_of_faultFree (h : cfg.FaultFree) (request : Packet) (payload : Bytes)
    (state : DeviceState) : reply request payload cfg state =
      ((dispatch request payload cfg state).1.map fun bytes => ⟨bytes, cfg.mac.format, cfg.slow⟩,
        (dispatch request payload cfg state).2) :=
  reply_of_passes h.unreachable (fun op _ => h.failsOn op) payload state

/-- A read is answered whatever other operations the device is configured to fail. -/
theorem reply_getData_of_passes (hreach : cfg.unreachable = false) (hfails : cfg.failsOn .get = false)
    (hmalformed : cfg.malformed = .none) {request : Packet}
    (hmethod : request.ucpMethod = Method.getData) (payload : Bytes) (state : DeviceState) :
    reply request payload cfg state
      = (some (scheduled request cfg (getDataBody state payload)), state) := by
  have hpass : ∀ op, Op.fromMethod request.ucpMethod = some op → cfg.failsOn op = false := by
    intro op hop
    rw [hmethod] at hop
    cases hop
    exact hfails
  have hbody : getDataResponse request cfg state payload
      = (buildHeader request cfg request.ucpMethod).toBytes ++ getDataBody state payload := by
    rw [getDataResponse, hmalformed]
    rfl
  rw [reply_of_passes hreach hpass, dispatch_getData payload state hmethod, hbody]
  rfl

theorem reply_getData (h : cfg.FaultFree) {request : Packet}
    (hmethod : request.ucpMethod = Method.getData) (payload : Bytes) (state : DeviceState) :
    reply request payload cfg state
      = (some (scheduled request cfg (getDataBody state payload)), state) :=
  reply_getData_of_passes h.unreachable (h.failsOn _) h.malformed hmethod payload state

/-- The device takes `SetData` requests: it is there, and not configured to fail them. -/
def DeviceConfig.takesSetData (cfg : DeviceConfig) : Bool :=
  !cfg.unreachable && !cfg.failsOn .set

theorem DeviceConfig.FaultFree.takesSetData (h : cfg.FaultFree) : cfg.takesSetData = true := by
  rw [DeviceConfig.takesSetData, h.unreachable, h.failsOn]
  rfl

theorem reply_setData (h : cfg.takesSetData = true) {request : Packet}
    (hmethod : request.ucpMethod = Method.setData) (payload : Bytes) (state : DeviceState) :
    reply request payload cfg state
      = (some (scheduled request cfg (u16ToBe (u16OrMax (parseSetDataRequest payload).length))),
        state.write payload) := by
  rw [DeviceConfig.takesSetData, Bool.and_eq_true, Bool.not_eq_true', Bool.not_eq_true'] at h
  have hpass : ∀ op, Op.fromMethod request.ucpMethod = some op → cfg.failsOn op = false := by
    intro op hop
    rw [hmethod] at hop
    cases hop
    exact h.2
  rw [reply_of_passes h.1 hpass, dispatch_setData payload state hmethod]
  rfl

theorem reply_reset (h : cfg.FaultFree) {request : Packet}
    (hmethod : request.ucpMethod = Method.reset) (payload : Bytes) (state : DeviceState) :
    reply request payload cfg state = (some (scheduled request cfg []), state.applyReset) := by
  rw [reply_of_faultFree h, dispatch_reset payload state hmethod, scheduled, List.append_nil]
  rfl

theorem reply_getIp (h : cfg.FaultFree) {request : Packet}
    (hmethod : request.ucpMethod = Method.getIp) (payload : Bytes) (state : DeviceState) :
    reply request payload cfg state = (some (scheduled request cfg
      (Tlv.encode 0x05 cfg.ip.octets ++ (Tlv.encode 0x06 cfg.subnetMask.octets ++
        Tlv.encode 0x07 cfg.gateway.octets))), state) := by
  rw [reply_of_faultFree h, dispatch_getIp payload state hmethod h.dropGetIp]
  rfl

theorem reply_getUuid (h : cfg.FaultFree) {request : Packet}
    (hmethod : request.ucpMethod = Method.getUuid) (payload : Bytes) (state : DeviceState) :
    reply request payload cfg state
      = (some (scheduled request cfg (Tlv.encode 0x0d cfg.uuid.toList)), state) := by
  rw [reply_of_faultFree h, dispatch_getUuid payload state hmethod h.dropGetUuid]
  rfl

/-! ## Operations on an idle session -/

/-- No retries, nothing in flight, and no schedule: every request is answered at once. -/
def idle (n : Network) (sequence : UInt16) : Session MockTransport := ⟨⟨n, [], []⟩, 0, sequence⟩

/-- On an idle session a request is answered by its own reply. -/
theorem request_idle (hosts : n.Hosts i cfg state) (haddr : Addresses device cfg)
    (ucpMethod sequence : UInt16) (hmethod : ucpMethod ≠ Method.advDisc) {body x : Bytes}
    {state' : DeviceState}
    (hreply : reply (requestOf device ucpMethod sequence) body cfg state
      = (some (scheduled (requestOf device ucpMethod sequence) cfg x), state')) :
    Session.request MockTransport.transport device ucpMethod (.ok body) (idle n sequence)
      = (.ok (buildHeader (requestOf device ucpMethod sequence) cfg ucpMethod, x),
        idle (n.setState i state') (sequence + 1)) := by
  rw [idle, request_directed hosts haddr.mac hmethod, hreply]
  exact waitForReply_head (accept_reply haddr _ _ _)

section Idle

variable (hosts : n.Hosts i cfg state) (haddr : Addresses device cfg) (hfault : cfg.FaultFree)

include hosts haddr hfault

theorem get_idle (params : List String) (sequence : UInt16) :
    get MockTransport.transport device params (idle n sequence)
      = (.ok (state.readout (answered params)), idle n (sequence + 1)) := by
  have hreq := request_idle hosts haddr Method.getData sequence (by decide)
    (reply_getData hfault rfl (getDataPayload params) state)
  rw [get_eq haddr.isZero, hreq, hosts.setState_self]
  have hread : getReply device (buildHeader (requestOf device Method.getData sequence) cfg
        Method.getData) (getDataBody state (getDataPayload params))
      = .ok (state.readout (answered params)) := by
    rw [getReply, getDataBody, parseResponse_getDataItems state params]
    rfl
  simp only [onReply, hread]

theorem reset_idle (sequence : UInt16) :
    reset MockTransport.transport device (idle n sequence)
      = (.ok (), idle (n.setState i state.applyReset) (sequence + 1)) := by
  have hreq := request_idle hosts haddr Method.reset sequence (by decide)
    (reply_reset hfault rfl [] state)
  rw [reset_eq haddr.isZero, hreq]
  rfl

theorem getAll_idle (sequence : UInt16) :
    getAll MockTransport.transport device (idle n sequence)
      = (.ok (), { device with
          parameters := mergeRead device.parameters (state.readout (answered names)) },
        idle n (sequence + 1)) := by
  rw [getAll, get_idle hosts haddr hfault]

/-- What the cache of a handle is when the prelude of a `set` is over. -/
def loaded (device : Device) (state : DeviceState) : Params :=
  if device.parameters.isEmpty then state.readout (answered names) else device.parameters

theorem preludeRead_idle (sequence : UInt16) :
    ∃ sequence', preludeRead MockTransport.transport device (idle n sequence)
      = (.ok (), { device with parameters := loaded device state }, idle n sequence') := by
  unfold preludeRead loaded
  split
  · next hempty =>
    rw [getAll_idle hosts haddr hfault, OrdMap.isEmpty_iff.mp hempty, mergeRead_empty]
    exact ⟨_, rfl⟩
  · exact ⟨sequence, rfl⟩

/-- **A write** that encodes is applied and cached. -/
theorem set_idle {config : Params} {body : Bytes}
    (hbody : setDataPayload ((loaded device state).extend config) = .ok body)
    (sequence : UInt16) :
    ∃ sequence', set MockTransport.transport device config (idle n sequence)
      = (.ok (), { device with parameters := (loaded device state).extend config },
        idle (n.setState i (state.write body)) sequence') := by
  obtain ⟨sequence₁, hprelude⟩ := preludeRead_idle hosts haddr hfault sequence
  have hreq := request_idle hosts (haddr.withParameters (loaded device state))
    Method.setData sequence₁ (by decide)
    (reply_setData hfault.takesSetData rfl body state)
  refine ⟨sequence₁ + 1, ?_⟩
  rw [Udap.set, if_neg (by simp [haddr.isZero]), hprelude]
  simp only [hbody, hreq]
  rfl

/-- A write that does not encode leaves the device alone. -/
theorem set_idle_error {config : Params} {e : EncodeError}
    (hbody : setDataPayload ((loaded device state).extend config) = .error e)
    (sequence : UInt16) :
    ∃ sequence', set MockTransport.transport device config (idle n sequence)
      = (.error (.encode e), { device with parameters := loaded device state },
        idle n sequence') := by
  obtain ⟨sequence₁, hprelude⟩ := preludeRead_idle hosts haddr hfault sequence
  refine ⟨sequence₁ + 1, ?_⟩
  rw [Udap.set, if_neg (by simp [haddr.isZero]), hprelude]
  simp only [hbody, Session.request]
  rfl

end Idle

/-! ## A device to run on -/

/-- The network of one device as it comes from the factory. -/
def factoryNetwork : Network := Network.new [DeviceConfig.defaultWithMac (Mac.auto 1)]

theorem factoryNetwork_hosts : factoryNetwork.Hosts 0 (DeviceConfig.defaultWithMac (Mac.auto 1))
    (DeviceState.factoryWith OrdMap.empty) :=
  ⟨rfl, rfl, List.nodup_singleton _⟩

theorem factoryNetwork_faultFree : ∀ c ∈ factoryNetwork.devices, c.FaultFree := by
  intro c hc
  rw [List.mem_singleton.mp hc]
  exact DeviceConfig.faultFree_defaultWithMac _

/-- A fresh handle of that device. -/
def freshDevice : Device := Device.withMac (Mac.auto 1)

theorem freshDevice_addresses :
    Addresses freshDevice (DeviceConfig.defaultWithMac (Mac.auto 1)) :=
  ⟨rfl, Or.inl rfl, by decide⟩

end Mocksbr
