import Udapcfg.Properties.Discovery
import Udapcfg.Properties.Exchange
import Udapcfg.Properties.TlvCodec

/-!
# Discovery of a network

What a client finds on a network of virtual devices: the reply of a device is written by one crate
and read by another, and comes as often as the request was sent.

* `parseDiscoveryResponse_discoveryResponse` — what the client makes of a device's reply
* `receive_discovery` — which devices reply
* `discover_network` — the devices of the registry
-/

namespace Mocksbr

open Infra Udap

/-! ## One reply -/

/-- What fits into an entry. -/
def cut (s : String) : Bytes := (strBytes s).take 255

/-- What discovery is to say of a device. -/
def discoveredDevice (cfg : DeviceConfig) : Device where
  mac := cfg.mac
  ip := cfg.mac.format
  name := if cfg.name = "" then strBytes "Squeezebox Device" else cut cfg.name
  model := combineModel (cut cfg.model) (cut cfg.deviceId)
  firmware := cut cfg.firmware
  hardwareRev := cut cfg.hardware
  uuid := ""
  state := cut cfg.state
  parameters := OrdMap.empty

/-- The entries of a reply, as they are read. -/
def discoveryEntries (cfg : DeviceConfig) : List Tlv :=
  [⟨0x0c, cut cfg.state⟩, ⟨0x0b, cut cfg.deviceId⟩, ⟨0x0a, cut cfg.hardware⟩,
    ⟨0x09, cut cfg.firmware⟩, ⟨0x03, cut cfg.model⟩, ⟨0x02, cut cfg.name⟩]

theorem length_cut_le (s : String) : (cut s).length ≤ 255 := by
  rw [cut, List.length_take]
  omega

theorem cut_isEmpty (s : String) : (cut s).isEmpty = decide (s = "") := by
  by_cases h : s = ""
  · subst h
    rfl
  · have hne : strBytes s ≠ [] := fun hnil => h (strBytes_injective (hnil.trans rfl))
    obtain ⟨b, bs, hbytes⟩ := List.exists_cons_of_ne_nil hne
    rw [cut, hbytes, decide_eq_false h]
    rfl

theorem discoveryResponse_eq (request : Packet) (cfg : DeviceConfig) :
    discoveryResponse request cfg = (buildHeader request cfg request.ucpMethod).toBytes
      ++ Tlv.encodeAll (discoveryEntries cfg) := by
  unfold discoveryResponse
  rw [Tlv.encode_eq_take _ (strBytes cfg.state), Tlv.encode_eq_take _ (strBytes cfg.deviceId),
    Tlv.encode_eq_take _ (strBytes cfg.hardware), Tlv.encode_eq_take _ (strBytes cfg.firmware),
    Tlv.encode_eq_take _ (strBytes cfg.model), Tlv.encode_eq_take _ (strBytes cfg.name)]
  simp only [Tlv.encodeAll, discoveryEntries, List.flatMap_cons, List.flatMap_nil, List.append_nil,
    cut]

theorem decode_discoveryEntries (cfg : DeviceConfig) :
    Tlv.decode (Tlv.encodeAll (discoveryEntries cfg)) = discoveryEntries cfg := by
  have hfits : ∀ e ∈ discoveryEntries cfg, e.value.length ≤ 255 := by
    simp [discoveryEntries, length_cut_le]
  have h := Tlv.decode_encodeAll_append hfits []
  rw [List.append_nil] at h
  rw [h]
  exact List.append_nil _

theorem foldl_discoveryEntries (cfg : DeviceConfig) (device : Device) :
    (discoveryEntries cfg).foldl Described.applyEntry ⟨device, [], []⟩
      = ⟨{ device with
            name := cut cfg.name
            firmware := cut cfg.firmware
            hardwareRev := cut cfg.hardware
            state := cut cfg.state }, cut cfg.model, cut cfg.deviceId⟩ := rfl

/-- **What the client makes of a device's reply.** -/
theorem parseDiscoveryResponse_discoveryEntries (cfg : DeviceConfig) {packet : Packet}
    (hmac : packet.srcAddress = cfg.mac) : parseDiscoveryResponse
      (Tlv.encodeAll (discoveryEntries cfg)) cfg.mac.format packet = discoveredDevice cfg := by
  unfold parseDiscoveryResponse
  simp only [decode_discoveryEntries, foldl_discoveryEntries, cut_isEmpty, hmac, decide_eq_true_eq]
  unfold discoveredDevice
  by_cases hname : cfg.name = ""
  · rw [if_pos hname, if_pos hname]
    rfl
  · rw [if_neg hname, if_neg hname]
    rfl

/-- A reply announces the device, and nothing else. -/
theorem announces_discoveryResponse_iff (request : Packet) (cfg : DeviceConfig) (mac : Mac)
    (device : Device) : Announces (discoveryResponse request cfg, cfg.mac.format) mac device ↔
      cfg.mac = mac ∧ device = discoveredDevice cfg := by
  have hparse : Packet.fromBytes (discoveryResponse request cfg)
      = .ok (buildHeader request cfg request.ucpMethod, Tlv.encodeAll (discoveryEntries cfg)) := by
    rw [discoveryResponse_eq, Packet.fromBytes_toBytes rfl]
  have hrequest : isRequestPacket (discoveryResponse request cfg) = false := by
    rw [discoveryResponse_eq, isRequestPacket_buildHeader]
  rw [Announces, hparse, hrequest]
  constructor
  · rintro ⟨_, packet, payload, heq, _, hmac, rfl⟩
    cases heq
    exact ⟨hmac, parseDiscoveryResponse_discoveryEntries cfg rfl⟩
  · rintro ⟨hmac, rfl⟩
    exact ⟨rfl, _, _, rfl, rfl, hmac, (parseDiscoveryResponse_discoveryEntries cfg rfl).symm⟩

/-! ## Which devices reply -/

/-- The device is there and not configured to fail discovery. -/
def DeviceConfig.answersDiscovery (cfg : DeviceConfig) : Bool :=
  !cfg.unreachable && !cfg.failsOn .discover

theorem respond_discovery {request : Packet} (hmethod : request.ucpMethod = Method.advDisc)
    (payload : Bytes) {cfg : DeviceConfig} (hfails : cfg.failsOn .discover = false)
    (state : DeviceState) : respond request payload cfg state
      = (some ⟨discoveryResponse request cfg, cfg.mac.format, cfg.slow⟩, state) := by
  have hop : Op.fromMethod request.ucpMethod = some .discover := by
    rw [hmethod]
    rfl
  rw [respond, hop, Option.filter_some, hfails]
  simp only [Bool.false_eq_true, if_false]
  rw [dispatch, if_pos hmethod]
  rfl

/-- The replies of some devices to a discovery request. -/
def discoveryReplies (request : Packet) (devices : List DeviceConfig) : List ScheduledReply :=
  (devices.filter DeviceConfig.answersDiscovery).map fun cfg =>
    ⟨discoveryResponse request cfg, cfg.mac.format, cfg.slow⟩

theorem receiveFrom_discovery {request : Packet} (hmethod : request.ucpMethod = Method.advDisc)
    (payload : Bytes) (index : Nat) (devices : List DeviceConfig) (states : List DeviceState)
    (hlen : index + devices.length ≤ states.length) :
    receiveFrom request payload index devices states
      = (discoveryReplies request devices, states) := by
  induction devices generalizing index with
  | nil => rfl
  | cons cfg rest ih =>
    rw [List.length_cons] at hlen
    have haddr : isAddressed request cfg = cfg.answersDiscovery := by
      simp [isAddressed, hmethod, DeviceConfig.answersDiscovery]
    have hrest := ih (index + 1) (by omega)
    rw [receiveFrom, haddr, discoveryReplies, List.filter_cons]
    split
    · next hanswers =>
      have hfails : cfg.failsOn .discover = false := by
        rw [DeviceConfig.answersDiscovery, Bool.and_eq_true, Bool.not_eq_true'] at hanswers
        simpa using hanswers.2
      rw [List.getElem?_eq_getElem (by omega)]
      simp only [respond_discovery hmethod payload hfails, List.set_getElem_self, hrest]
      rfl
    · exact hrest

/-- **Discovery is answered** by the devices that are to answer it, and changes none. -/
theorem receive_discovery (n : Network) {request : Packet} (hucp : request.udapType = udapTypeUcp)
    (hmethod : request.ucpMethod = Method.advDisc) :
    n.receive request.toBytes = (discoveryReplies request n.devices, n) := by
  have hparse := Packet.fromBytes_toBytes hucp []
  rw [List.append_nil] at hparse
  have hpass := receiveFrom_discovery hmethod [] 0 n.devices n.state
    (by rw [Nat.zero_add]; exact Nat.le_of_eq n.aligned.symm)
  rw [Network.receive, hparse]
  simp only [hpass]

/-! ## What is received -/

/-- Only the token ends receiving, and it takes nothing. -/
theorem recv_error {t t' : MockTransport} {e : TransportError}
    (h : MockTransport.recv t = (.error e, t')) : e = .cancelled ∧ t'.inFlight = t.inFlight := by
  unfold MockTransport.recv at h
  split at h
  · split at h
    · cases h
      exact ⟨rfl, rfl⟩
    · cases h
  · cases h
    exact ⟨rfl, rfl⟩
  · split at h
    · cases h
      exact ⟨rfl, rfl⟩
    · cases h

/-- **Receiving takes datagrams out of flight**, in some order, until the token fires. -/
theorem drainLoop_perm (fuel : Nat) (t : MockTransport) (h : t.inFlight.length < fuel) :
    (MockTransport.transport.drainLoop fuel t).2.1 = .cancelled ∧
      t.inFlight.Perm ((MockTransport.transport.drainLoop fuel t).1
        ++ (MockTransport.transport.drainLoop fuel t).2.2.inFlight) := by
  induction fuel generalizing t with
  | zero => exact absurd h (Nat.not_lt_zero _)
  | succ fuel ih =>
    unfold Transport.drainLoop
    rcases hrecv : MockTransport.transport.recv t with ⟨result, t'⟩
    cases result with
    | error e =>
      obtain ⟨rfl, hsame⟩ := recv_error hrecv
      refine ⟨rfl, ?_⟩
      show t.inFlight.Perm t'.inFlight
      rw [hsame]
    | ok d =>
      obtain ⟨index, hget, hrest, _⟩ := MockTransport.recv_ok hrecv
      obtain ⟨hlt, hd⟩ := List.getElem?_eq_some_iff.mp hget
      have hlen : t'.inFlight.length < fuel := by
        rw [hrest, List.length_eraseIdx_of_lt hlt]
        omega
      obtain ⟨hcancelled, hperm⟩ := ih t' hlen
      refine ⟨hcancelled, ?_⟩
      have hcons : t.inFlight.Perm (d :: t'.inFlight) := by
        rw [hrest, ← hd]
        exact (List.getElem_cons_eraseIdx_perm hlt).symm
      exact hcons.trans (hperm.cons d)

/-- The schedule hands out `k` datagrams before the token fires. Without a schedule all are handed
out. -/
def Delivers : List Pick → Nat → Prop
  | _, 0 => True
  | [], _ + 1 => True
  | .cancel :: _, _ + 1 => False
  | .deliver index :: schedule, k + 1 => index ≤ k ∧ Delivers schedule k

/-- Where all that is in flight is handed out, a receive takes one datagram. -/
theorem recv_delivers {t : MockTransport} (hne : t.inFlight ≠ [])
    (h : Delivers t.schedule t.inFlight.length) : ∃ d t', MockTransport.recv t = (.ok d, t') ∧
      t'.inFlight.length + 1 = t.inFlight.length ∧ Delivers t'.schedule t'.inFlight.length := by
  obtain ⟨network, inFlight, schedule⟩ := t
  obtain ⟨d, rest, rfl⟩ := List.exists_cons_of_ne_nil hne
  simp only [List.length_cons] at h
  match schedule, h with
  | [], _ => exact ⟨d, _, rfl, rfl, by cases rest <;> trivial⟩
  | .deliver index :: schedule, ⟨hindex, h⟩ =>
    have hlt : index < (d :: rest).length := Nat.lt_succ_of_le hindex
    have hlen : ((d :: rest).eraseIdx index).length = rest.length := by
      rw [List.length_eraseIdx_of_lt hlt]
      rfl
    refine ⟨(d :: rest)[index], ⟨network, (d :: rest).eraseIdx index, schedule⟩, ?_, ?_, ?_⟩
    · simp only [MockTransport.recv, List.getElem?_eq_getElem hlt]
    · simp only [hlen, List.length_cons]
    · simpa only [hlen] using h

/-- **Nothing is left in flight** where all is handed out. -/
theorem inFlight_drain {t : MockTransport} (h : Delivers t.schedule t.inFlight.length) :
    (MockTransport.transport.drain t).2.2.inFlight = [] := by
  induction hn : t.inFlight.length generalizing t with
  | zero =>
    have hnil := List.length_eq_zero_iff.mp hn
    rw [Transport.drain_eq]
    rcases hrecv : MockTransport.transport.recv t with ⟨e | d, t'⟩
    · exact (recv_error hrecv).2.trans hnil
    · obtain ⟨index, hget, _⟩ := MockTransport.recv_ok hrecv
      rw [hnil] at hget
      cases hget
  | succ k ih =>
    obtain ⟨d, t', hrecv, hlen, h'⟩ := recv_delivers (List.ne_nil_of_length_eq_add_one hn) h
    rw [Transport.drain_eq, show MockTransport.transport.recv t = (.ok d, t') from hrecv]
    exact ih h' (by omega)

/-- Where all that is in flight is handed out, it is received. -/
theorem mem_drain_iff {t : MockTransport} (h : Delivers t.schedule t.inFlight.length) :
    (MockTransport.transport.drain t).2.1 = .cancelled ∧
      ∀ d, d ∈ (MockTransport.transport.drain t).1 ↔ d ∈ t.inFlight := by
  obtain ⟨hcancelled, hperm⟩ : (MockTransport.transport.drain t).2.1 = .cancelled ∧
      t.inFlight.Perm ((MockTransport.transport.drain t).1
        ++ (MockTransport.transport.drain t).2.2.inFlight) :=
    drainLoop_perm _ t (Nat.lt_succ_self _)
  rw [inFlight_drain h, List.append_nil] at hperm
  exact ⟨hcancelled, fun d => hperm.mem_iff.symm⟩

/-! ## Discovery -/

variable {n : Network}

/-- What is in flight after the sends. -/
theorem sendDiscovery_mock (n : Network) (schedule : List Pick) (retries : Nat) :
    let c := Client.new (⟨n, [], schedule⟩ : MockTransport) retries
    c.sendDiscovery MockTransport.transport = (.ok (), ⟨⟨n, (List.replicate (retries + 1)
      (MockTransport.datagrams (discoveryReplies c.discoveryPacket n.devices))).flatten, schedule⟩,
        retries, 1⟩) := by
  intro c
  have hreceive : n.receive c.discoveryPacket.toBytes
      = (discoveryReplies c.discoveryPacket n.devices, n) := receive_discovery n rfl rfl
  exact sendRetried_steady hreceive hreceive [] schedule retries 1

/-- The devices of the registry when the replies of some devices have come, in any order and any
number. -/
theorem devices_perm (hdistinct : (n.devices.map DeviceConfig.mac).Nodup) (request : Packet)
    {ds : List Datagram} (hds : ∀ d, d ∈ ds ↔
      d ∈ MockTransport.datagrams (discoveryReplies request n.devices)) :
    (ds.foldl Registry.handleDiscoveryReply Registry.empty).devices.Perm
      ((n.devices.filter DeviceConfig.answersDiscovery).map discoveredDevice) := by
  have hmem : ∀ d, d ∈ ds ↔ ∃ cfg ∈ n.devices, cfg.answersDiscovery = true ∧
      (discoveryResponse request cfg, cfg.mac.format) = d := by
    intro d
    rw [hds, MockTransport.datagrams, discoveryReplies, List.map_map, List.mem_map]
    simp only [List.mem_filter, and_assoc]
    rfl
  -- datagrams that announce one MAC are of one device
  have hagree : ∀ mac, ∀ d ∈ ds, ∀ d' ∈ ds, ∀ device device', Announces d mac device →
      Announces d' mac device' → device = device' := by
    intro mac d hd d' hd' device device' h h'
    obtain ⟨cfg, hcfg, _, rfl⟩ := (hmem d).mp hd
    obtain ⟨cfg', hcfg', _, rfl⟩ := (hmem d').mp hd'
    obtain ⟨hmac, rfl⟩ := (announces_discoveryResponse_iff request cfg mac device).mp h
    obtain ⟨hmac', rfl⟩ := (announces_discoveryResponse_iff request cfg' mac device').mp h'
    rw [List.inj_on_of_nodup_map hdistinct hcfg hcfg' (hmac.trans hmac'.symm)]
  have hexpected : ((n.devices.filter DeviceConfig.answersDiscovery).map discoveredDevice).Nodup := by
    refine List.Nodup.of_map Device.mac ?_
    rw [List.map_map]
    exact hdistinct.sublist (List.filter_sublist.map _)
  refine (List.perm_ext_iff_of_nodup (devices_nodup _) hexpected).mpr ?_
  intro device
  rw [mem_devices, get?_foldl_empty_iff (hagree device.mac), List.mem_map]
  constructor
  · rintro ⟨d, hd, hannounces⟩
    obtain ⟨cfg, hcfg, hanswers, rfl⟩ := (hmem d).mp hd
    obtain ⟨_, hdevice⟩ := (announces_discoveryResponse_iff request cfg _ device).mp hannounces
    exact ⟨cfg, List.mem_filter.mpr ⟨hcfg, hanswers⟩, hdevice.symm⟩
  · rintro ⟨cfg, hcfg, rfl⟩
    obtain ⟨hcfg, hanswers⟩ := List.mem_filter.mp hcfg
    exact ⟨_, (hmem _).mpr ⟨cfg, hcfg, hanswers, rfl⟩,
      (announces_discoveryResponse_iff request cfg _ _).mpr ⟨rfl, rfl⟩⟩

/-- How many replies a discovery brings. -/
def Network.replyCount (n : Network) (retries : Nat) : Nat :=
  (retries + 1) * (n.devices.filter DeviceConfig.answersDiscovery).length

/-- **Discovery end to end**: on a network of devices with distinct MACs, if every reply is handed
out before the token fires, a fresh client finds each device that is to answer, and no other. -/
theorem discover_network (hdistinct : (n.devices.map DeviceConfig.mac).Nodup) (schedule : List Pick)
    (retries : Nat) (hdelivers : Delivers schedule (n.replyCount retries)) :
    let found := (Client.new (⟨n, [], schedule⟩ : MockTransport) retries).discover
      MockTransport.transport
    found.1 = .ok () ∧ found.2.devices.devices.Perm
      ((n.devices.filter DeviceConfig.answersDiscovery).map discoveredDevice) ∧
      found.2.session.transport.inFlight = [] := by
  intro found
  let c := Client.new (⟨n, [], schedule⟩ : MockTransport) retries
  let t : MockTransport := ⟨n, (List.replicate (retries + 1)
    (MockTransport.datagrams (discoveryReplies c.discoveryPacket n.devices))).flatten, schedule⟩
  have heq := Client.discover_eq MockTransport.transport (sendDiscovery_mock n schedule retries)
  have hcount : t.inFlight.length = n.replyCount retries := by
    simp [t, Network.replyCount, MockTransport.datagrams, discoveryReplies]
  have hall : Delivers t.schedule t.inFlight.length := by
    rw [hcount]
    exact hdelivers
  obtain ⟨hcancelled, hreceived⟩ := mem_drain_iff hall
  rw [show found = _ from heq]
  refine ⟨congrArg Client.ended hcancelled, devices_perm hdistinct c.discoveryPacket ?_,
    inFlight_drain hall⟩
  intro d
  refine (hreceived d).trans ?_
  -- each reply was in flight `retries + 1` times
  simp [t, List.mem_flatten, List.mem_replicate]

/-- Two devices are found, whose replies come last first. -/
theorem discover_network_reversed :
    let n := Network.new [Network.autoDevice 1, Network.autoDevice 2]
    let schedule := [.deliver 3, .deliver 2, .deliver 1, .deliver 0, .cancel]
    let found := (Client.new (⟨n, [], schedule⟩ : MockTransport) 1).discover MockTransport.transport
    found.1 = .ok () ∧ found.2.devices.devices.Perm
      ((n.devices.filter DeviceConfig.answersDiscovery).map discoveredDevice) ∧
      found.2.session.transport.inFlight = [] := by
  intro n schedule
  refine discover_network (n := n) (by decide) schedule 1 ?_
  have hcount : n.replyCount 1 = 4 := by decide
  rw [hcount]
  exact ⟨by decide, by decide, by decide, by decide, trivial⟩

end Mocksbr
