import Udapcfg.Properties.Composition
import Udapcfg.Properties.Exchange

/-!
# `get` returns what was asked for

On an idle session, a `get` for names the table knows reads the value of each, and nothing else.

* `receive_first` — a directed request is answered first by the first device of its MAC
* `get_first` — so is a `get`
* `get_exact` — what it returns, in any state that a history of datagrams leads to
-/

namespace Mocksbr

open Infra Udap

/-- Device number `i` is the first of its MAC, and the network has come where it is by datagrams. -/
structure Network.First (n : Network) (i : Nat) (cfg : DeviceConfig) (state : DeviceState) :
    Prop where
  reachable : n.Reachable
  device : n.devices[i]? = some cfg
  state : n.state[i]? = some state
  first : ∀ j < i, ∀ c, n.devices[j]? = some c → c.mac ≠ cfg.mac

theorem Network.Reachable.exists_after {n : Network} (h : n.Reachable) :
    ∃ devices packets, n = (Network.new devices).after packets := by
  induction h with
  | new devices => exact ⟨devices, [], rfl⟩
  | @receive n packet _ ih =>
    obtain ⟨devices, packets, rfl⟩ := ih
    exact ⟨devices, packets ++ [packet], (Network.after_append _ packets [packet]).symm⟩

variable {n : Network} {i : Nat} {cfg : DeviceConfig} {state : DeviceState} {device : Device}

/-- **A directed request** is answered first by the first device of its MAC. -/
theorem receive_first (h : n.First i cfg state) (hreach : cfg.unreachable = false)
    {request : Packet} (hucp : request.udapType = udapTypeUcp)
    (hmethod : request.ucpMethod ≠ Method.advDisc) (hmac : request.dstAddress = cfg.mac)
    (payload : Bytes) : ∃ more, (n.receive (request.toBytes ++ payload)).1
      = (reply request payload cfg state).1.toList ++ more := by
  obtain ⟨devices, packets, rfl⟩ := h.reachable.exists_after
  obtain ⟨hdevices, hstates⟩ := after_new devices packets
  have hparse := Packet.fromBytes_toBytes hucp payload
  have hdevice := h.device
  have hfirst := h.first
  have hstate := h.state
  rw [hdevices] at hdevice hfirst
  rw [hstates, List.getElem?_map, hdevice] at hstate
  cases hstate
  have hlt := (List.getElem?_eq_some_iff.mp hdevice).1
  have hsplit : devices = devices.take i ++ cfg :: devices.drop (i + 1) := by
    have hget := (List.getElem?_eq_some_iff.mp hdevice).2
    rw [← hget, ← List.drop_eq_getElem_cons hlt, List.take_append_drop]
  -- those before it have other MACs
  have hbefore : ((devices.take i).flatMap fun c => (deviceReceive (request.toBytes ++ payload) c
      (deviceState packets c)).1) = [] := by
    rw [List.flatMap_eq_nil_iff]
    intro c hc
    obtain ⟨j, hj⟩ := List.mem_iff_getElem?.mp hc
    obtain ⟨hjlt, _⟩ := List.getElem?_eq_some_iff.mp hj
    rw [List.length_take] at hjlt
    rw [List.getElem?_take_of_lt (by omega)] at hj
    rw [deviceReceive_of_elsewhere ⟨request, payload, hparse, hmethod, ?_⟩]
    rw [hmac]
    exact fun heq => hfirst j (by omega) c hj heq.symm
  have hself : (deviceReceive (request.toBytes ++ payload) cfg (deviceState packets cfg)).1
      = (reply request payload cfg (deviceState packets cfg)).1.toList := by
    rw [deviceReceive, hparse, reply, if_neg (by rw [hreach]; exact Bool.false_ne_true)]
    show (if isAddressed request cfg then _ else _ : List ScheduledReply × DeviceState).1 = _
    rw [isAddressed_of_mac hmethod hmac, hreach]
    rfl
  rw [receive_after, hsplit, List.flatMap_append, hbefore, List.nil_append, List.flatMap_cons, hself]
  exact ⟨_, rfl⟩

/-- A `get` on an idle session reads what the device reports. -/
theorem get_first (h : n.First i cfg state) (haddr : Addresses device cfg)
    (hfault : cfg.FaultFree) (params : List String) (sequence : UInt16) :
    (get MockTransport.transport device params (idle n sequence)).1
      = .ok (state.readout (answered params)) := by
  obtain ⟨more, hreplies⟩ := receive_first h hfault.unreachable
    (show (requestOf device Method.getData sequence).udapType = udapTypeUcp from rfl)
    (show Method.getData ≠ Method.advDisc by decide) haddr.mac (getDataPayload params)
  rw [reply_getData hfault rfl] at hreplies
  have hreq : Session.request MockTransport.transport device Method.getData
        (.ok (getDataPayload params)) (idle n sequence)
      = (.ok (buildHeader (requestOf device Method.getData sequence) cfg Method.getData,
          getDataBody state (getDataPayload params)),
        ⟨⟨(n.receive ((requestOf device Method.getData sequence).toBytes ++
          getDataPayload params)).2, MockTransport.datagrams more, []⟩, 0, sequence + 1⟩) := by
    rw [idle, Session.request]
    simp only [header_eq, Session.sendRetried, Session.sendLoop, MockTransport.transport,
      MockTransport.send, hreplies]
    exact waitForReply_head (accept_reply haddr _ _ _)
  rw [get_eq haddr.isZero, hreq]
  have hread : getReply device (buildHeader (requestOf device Method.getData sequence) cfg
        Method.getData) (getDataBody state (getDataPayload params))
      = .ok (state.readout (answered params)) := by
    rw [getReply, getDataBody, parseResponse_getDataItems state params]
    rfl
  simp only [onReply, hread]

/-- The map holds the known parameters that were asked for, each under its canonical name and with
the rendering of its stored value, and nothing else. -/
def Exactly (state : DeviceState) (params : List String) (m : Params) : Prop :=
  ∀ k w, m.get? k = some w ↔ ∃ p v b, p.name = k ∧ (∃ name ∈ params, byName name = some p) ∧
    state.get k = some v ∧ p.encode v = .ok b ∧ GetData.formatValue b = w

/-- A readout is exact, as no value is missing from the memory. -/
theorem exactly_readout (hfull : state.Full) {params : List String} (hlen : params.length ≤ 65535) :
    Exactly state params (state.readout (answered params)) := by
  intro k w
  by_cases hk : k ∈ names
  · obtain ⟨p, hp, rfl⟩ := mem_names_iff.mp hk
    obtain ⟨v, hv⟩ := Option.ne_none_iff_exists'.mp (hfull p hp).1
    have hget : state.get p.name = some v := hv
    have hanswer : state.answer p = p.render v := by
      rw [DeviceState.answer, hget, Option.getD_some]
    rw [get?_readout state mem_parameters_of_answered hp]
    constructor
    · intro h
      split at h
      · next hin =>
        rw [hanswer] at h
        obtain ⟨b, hb, hw⟩ := Parameter.encode_of_render h
        exact ⟨p, v, b, rfl, (mem_answered hlen).mp hin, hget, hb, hw⟩
      · cases h
    · rintro ⟨q, v', b, hname, ⟨name, hmem, hq⟩, hv', hb, rfl⟩
      have hqp : q = p := eq_of_name_eq (byName_mem hq) hp hname
      subst hqp
      rw [hget] at hv'
      cases hv'
      rw [if_pos ((mem_answered hlen).mpr ⟨name, hmem, hq⟩), hanswer, Parameter.render_of_encode hb]
  · rw [get?_readout_of_not_mem state mem_parameters_of_answered hk]
    constructor
    · intro h
      cases h
    · rintro ⟨q, _, _, rfl, ⟨_, _, hq⟩, _⟩
      exact absurd (mem_names_iff.mpr ⟨q, byName_mem hq, rfl⟩) hk

/-- **`get` returns what was asked for**, in any order and however often. -/
theorem get_exact (h : n.First i cfg state) (haddr : Addresses device cfg)
    (hfault : cfg.FaultFree) {params : List String} (hlen : params.length ≤ 65535)
    (sequence : UInt16) :
    ∃ m, (get MockTransport.transport device params (idle n sequence)).1 = .ok m ∧
      Exactly state params m ∧
      ∀ params' : List String, params'.length ≤ 65535 → (∀ name, name ∈ params' ↔ name ∈ params) →
        (get MockTransport.transport device params' (idle n sequence)).1 = .ok m := by
  have hfull : state.Full := h.reachable.full state (List.mem_of_getElem? h.state)
  refine ⟨_, get_first h haddr hfault params sequence, exactly_readout hfull hlen, ?_⟩
  intro params' hlen' hsame
  rw [get_first h haddr hfault params' sequence]
  congr 1
  refine (readout_eq_iff mem_parameters_of_answered mem_parameters_of_answered).mpr ?_
  intro p _ _
  simp only [mem_answered hlen', mem_answered hlen, hsame]

theorem factoryNetwork_first : factoryNetwork.First 0 (DeviceConfig.defaultWithMac (Mac.auto 1))
    (DeviceState.factoryWith OrdMap.empty) :=
  ⟨.new _, rfl, rfl, fun j hj => absurd hj (Nat.not_lt_zero j)⟩

/-- An alias twice and an unknown name, from the factory. -/
theorem get_exact_factory : ∃ m, (get MockTransport.transport freshDevice
      ["slimserver_address", "no_such_name", "slimserver_address"] (idle factoryNetwork 0)).1 = .ok m ∧
    Exactly (DeviceState.factoryWith OrdMap.empty)
      ["slimserver_address", "no_such_name", "slimserver_address"] m ∧
    ∀ params' : List String, params'.length ≤ 65535 →
      (∀ name, name ∈ params' ↔
        name ∈ ["slimserver_address", "no_such_name", "slimserver_address"]) →
      (get MockTransport.transport freshDevice params' (idle factoryNetwork 0)).1 = .ok m :=
  get_exact factoryNetwork_first freshDevice_addresses (DeviceConfig.faultFree_defaultWithMac _)
    (by decide) 0

end Mocksbr
