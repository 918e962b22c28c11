import Udapcfg.Mocksbr.Shared
import Udapcfg.Properties.Composition
import Udapcfg.Properties.Simulation
import Udapcfg.Properties.WireTrace

/-!
# Programs on one network

Several programs are on one network at a time, and their packets come in any order. As long as no
two of them hold the same device, none notices the others.

* `Spares` — a datagram that changes none of some devices
* `SentElsewhere` — what other programs send, which spares all devices but their own
* `isolated_agrees` — a transport among datagrams that spare its devices is as good as alone
* `program_isolated` — programs with different devices
-/

namespace Mocksbr

open Infra Udap

variable {D : Mac → Prop} {packet : Bytes}

/-! ## What a datagram leaves alone -/

/-- Of the devices in `D` the datagram neither writes one nor resets it. -/
def Spares (D : Mac → Prop) (packet : Bytes) : Prop :=
  ∀ request payload, Packet.fromBytes packet = .ok (request, payload) →
    request.ucpMethod = Method.setData ∨ request.ucpMethod = Method.reset → ¬ D request.dstAddress

theorem respond_state {request : Packet} (hset : request.ucpMethod ≠ Method.setData)
    (hreset : request.ucpMethod ≠ Method.reset) (payload : Bytes) (cfg : DeviceConfig)
    (state : DeviceState) : (respond request payload cfg state).2 = state := by
  unfold respond
  split
  · rfl
  · exact dispatch_state payload state hset hreset

theorem dst_of_isAddressed {request : Packet} {cfg : DeviceConfig}
    (hmethod : request.ucpMethod ≠ Method.advDisc) (h : isAddressed request cfg = true) :
    request.dstAddress = cfg.mac := by
  by_contra hne
  rw [isAddressed_of_ne hmethod hne] at h
  cases h

/-- A device in `D` stays as it is. -/
theorem Spares.deviceReceive (h : Spares D packet) {cfg : DeviceConfig} (hcfg : D cfg.mac)
    (state : DeviceState) : (deviceReceive packet cfg state).2 = state := by
  unfold Mocksbr.deviceReceive
  split
  · rfl
  · next request payload hparse =>
    split
    · next haddressed =>
      have hspared : ¬ (request.ucpMethod = Method.setData ∨ request.ucpMethod = Method.reset) := by
        intro hmethod
        have hne : request.ucpMethod ≠ Method.advDisc := by
          rcases hmethod with hset | hreset
          · rw [hset]
            decide
          · rw [hreset]
            decide
        exact h request payload hparse hmethod (dst_of_isAddressed hne haddressed ▸ hcfg)
      obtain ⟨hset, hreset⟩ := not_or.mp hspared
      exact respond_state hset hreset payload cfg state
    · rfl

/-- What a device that is not in `D` replies to a client does not depend on its state. -/
theorem reply_of_notMem (h : ClientPacket D packet) {cfg : DeviceConfig} (hcfg : ¬ D cfg.mac)
    (state state' : DeviceState) :
    (deviceReceive packet cfg state).1 = (deviceReceive packet cfg state').1 := by
  cases h with
  | discovery s =>
    have hparse : Packet.fromBytes (s.header Mac.zero Method.advDisc true).1.toBytes
        = .ok ((s.header Mac.zero Method.advDisc true).1, []) := by
      rw [← Packet.fromBytes_toBytes (p := (s.header Mac.zero Method.advDisc true).1) rfl [],
        List.append_nil]
    have hmethod : (s.header Mac.zero Method.advDisc true).1.ucpMethod = Method.advDisc := rfl
    simp only [Mocksbr.deviceReceive, hparse]
    split
    · unfold respond
      split
      · rfl
      · simp only [dispatch, hmethod, if_true]
    · rfl
  | @request s mac ucpMethod body hmac hmethod =>
    have hne : mac ≠ cfg.mac := by
      rintro rfl
      exact hcfg hmac
    have hpassed : isAddressed (s.header mac ucpMethod false).1 cfg = false :=
      isAddressed_of_ne hmethod hne
    simp only [Mocksbr.deviceReceive, Packet.fromBytes_toBytes (p := (s.header mac ucpMethod false).1) rfl,
      hpassed]
    rfl

/-! ## Networks that agree on some devices -/

/-- The same devices, and those in `D` in the same states. -/
structure SameOn (D : Mac → Prop) (n n' : Network) : Prop where
  devices : n.devices = n'.devices
  state : ∀ {i : Nat} {cfg : DeviceConfig}, n'.devices[i]? = some cfg → D cfg.mac →
    n.state[i]? = n'.state[i]?

/-- A device after a datagram. -/
theorem state_receive (n : Network) (packet : Bytes) {i : Nat} {cfg : DeviceConfig}
    (hcfg : n.devices[i]? = some cfg) :
    (n.receive packet).2.state[i]? = n.state[i]?.map fun state => (deviceReceive packet cfg state).2 := by
  rw [(receive_eq n packet).2.2, List.getElem?_map, List.zip_eq_zipWith, List.getElem?_zipWith, hcfg]
  cases n.state[i]? <;> rfl

section SameOn

variable {n n' : Network}

theorem SameOn.spared (h : SameOn D n n') (hpacket : Spares D packet) :
    SameOn D (n.receive packet).2 n' where
  devices := (receive_eq n packet).2.1.trans h.devices
  state {i cfg} hcfg hmac := by
    have hunchanged : (fun state => (deviceReceive packet cfg state).2) = id :=
      funext fun state => hpacket.deviceReceive hmac state
    rw [state_receive n packet (h.devices ▸ hcfg), hunchanged, Option.map_id, id, h.state hcfg hmac]

/-- What the others do does not matter, -/
theorem SameOn.meanwhile (h : SameOn D n n') {packets : List Bytes}
    (hpackets : ∀ packet ∈ packets, Spares D packet) :
    SameOn D (SharedTransport.meanwhile n packets) n' := by
  induction packets generalizing n with
  | nil => exact h
  | cons packet rest ih =>
    exact ih (h.spared (hpackets packet List.mem_cons_self)) fun p hp =>
      hpackets p (List.mem_cons_of_mem packet hp)

/-- and what a client sends is answered alike. -/
theorem SameOn.receive (h : SameOn D n n') (hpacket : ClientPacket D packet) :
    (n.receive packet).1 = (n'.receive packet).1 ∧
      SameOn D (n.receive packet).2 (n'.receive packet).2 := by
  obtain ⟨hreplies, hdevices, _⟩ := receive_eq n packet
  obtain ⟨hreplies', hdevices', _⟩ := receive_eq n' packet
  refine ⟨?_, ⟨hdevices.trans (h.devices.trans hdevices'.symm), ?_⟩⟩
  · rw [hreplies, hreplies', List.flatMap_def, List.flatMap_def]
    refine congrArg List.flatten (List.ext_getElem? fun i => ?_)
    rw [List.getElem?_map, List.getElem?_map, List.zip_eq_zipWith, List.zip_eq_zipWith,
      List.getElem?_zipWith, List.getElem?_zipWith, h.devices]
    cases hcfg : n'.devices[i]? with
    | none => rfl
    | some cfg =>
      by_cases hmac : D cfg.mac
      · rw [h.state hcfg hmac]
      · -- the states may differ, and both devices are there
        have hlt := (List.getElem?_eq_some_iff.mp hcfg).1
        have hs : i < n.state.length := by rw [n.aligned, h.devices]; exact hlt
        have hs' : i < n'.state.length := by rw [n'.aligned]; exact hlt
        rw [List.getElem?_eq_getElem hs, List.getElem?_eq_getElem hs']
        exact congrArg some (reply_of_notMem hpacket hmac _ _)
  · intro i cfg hcfg hmac
    rw [hdevices'] at hcfg
    rw [state_receive n packet (h.devices ▸ hcfg), state_receive n' packet hcfg, h.state hcfg hmac]

end SameOn

/-! ## What other programs send -/

/-- A packet of a program on whatever transport that ends up without a device in `D`. -/
inductive SentElsewhere (D : Mac → Prop) : Bytes → Prop
  | log {σ : Type} {T : Transport σ} {q : Program (σ × List Bytes)} {actions : List Action}
    {packet : Bytes} : q.client.session.log = [] →
    packet ∈ (q.run T.recorded actions).client.session.log →
    (∀ device ∈ (q.run T.recorded actions).held, device.mac.isZero = false → ¬ D device.mac) →
    SentElsewhere D packet

/-- A program writes and resets the devices it holds, and no others. -/
theorem SentElsewhere.spares (h : SentElsewhere D packet) : Spares D packet := by
  obtain @⟨σ, T, q, actions, _, hempty, hsent, hheld⟩ := h
  have hstart : q.client.session.sequence = q.client.session.sequence + UInt16.ofNat 0 :=
    (UInt16.add_zero _).symm
  obtain ⟨_, reqs, hsends, _, hspells⟩ := run_sends (T := T) actions q 0 hstart
  rw [hsends.log, hempty, List.nil_append] at hsent
  obtain ⟨req, hreq, hpacket⟩ := List.mem_flatMap.mp hsent
  rw [List.eq_of_mem_replicate hpacket]
  intro request payload hparse hmethod
  rw [req.fromBytes_packet] at hparse
  obtain ⟨rfl, rfl⟩ := Prod.mk.inj (Except.ok.inj hparse)
  rcases reaches_of_spells actions hspells (List.mem_map_of_mem hreq) with
    hdiscovery | ⟨_, hmac, hdst⟩
  · -- a discovery does neither
    have hrequest : (req.header q.client.session.sequence).ucpMethod = Method.advDisc :=
      congrArg Message.ucpMethod hdiscovery
    rw [hrequest] at hmethod
    exact absurd hmethod (by decide)
  · obtain ⟨device, hdevice, hsame⟩ := List.mem_map.mp hdst
    rw [← hsame] at hmac
    have hspared := hheld device hdevice hmac
    rwa [hsame] at hspared

/-! ## A transport among others -/

/-- A transport among datagrams that spare the devices in `D`, and one alone. -/
structure Isolated (D : Mac → Prop) (s : SharedTransport) (t : MockTransport) : Prop where
  network : SameOn D s.own.network t.network
  inFlight : t.inFlight = s.own.inFlight
  schedule : t.schedule = s.own.schedule
  others : ∀ packets ∈ s.others, ∀ packet ∈ packets, Spares D packet

theorem isolated_send (hpacket : ClientPacket D packet) :
    SharedTransport.transport.SendsAlike MockTransport.transport (Isolated D) packet := by
  rintro ⟨own, others⟩ t h
  have hbefore : ∀ p ∈ others.headD [], Spares D p := by
    cases others with
    | nil => exact fun p hp => by cases hp
    | cons packets rest => exact h.others packets List.mem_cons_self
  obtain ⟨hreplies, hnetwork⟩ := (h.network.meanwhile hbefore).receive hpacket
  refine ⟨rfl, hnetwork, ?_, h.schedule, fun packets hp => h.others packets (List.mem_of_mem_tail hp)⟩
  exact congrArg₂ (· ++ ·) h.inFlight (congrArg MockTransport.datagrams hreplies.symm)

theorem isolated_recv :
    SharedTransport.transport.RecvsAlike MockTransport.transport (Isolated D) := by
  rintro ⟨⟨network, inFlight, schedule⟩, others⟩ ⟨network', inFlight', schedule'⟩ h
  obtain ⟨hnetwork, hflight, hschedule, hothers⟩ := h
  simp only at hflight hschedule
  subst hflight hschedule
  cases schedule' with
  | nil => cases inFlight' <;> exact ⟨rfl, hnetwork, rfl, rfl, hothers⟩
  | cons pick rest =>
    cases pick with
    | cancel => exact ⟨rfl, hnetwork, rfl, rfl, hothers⟩
    | deliver index =>
      simp only [SharedTransport.transport, MockTransport.transport, SharedTransport.recv,
        MockTransport.recv]
      cases inFlight'[index]? with
      | none => exact ⟨rfl, hnetwork, rfl, rfl, hothers⟩
      | some d => exact ⟨rfl, hnetwork, rfl, rfl, hothers⟩

/-- **For a client** a transport among others is as good as one alone. -/
theorem isolated_agrees (D : Mac → Prop) :
    SharedTransport.transport.Agrees MockTransport.transport D (Isolated D) :=
  isolated_recv.agrees isolated_send

/-! ## Programs -/

/-- The program without the others. -/
def alone (p : Program SharedTransport) : Program MockTransport where
  client.session.transport := p.client.session.transport.own
  client.session.retries := p.client.session.retries
  client.session.sequence := p.client.session.sequence
  client.devices := p.client.devices
  held := p.held

/-- **Programs with different devices** do not notice each other: whatever other programs send that
hold none of its devices, and whenever they send it, a program is answered, knows and holds what it
would alone, and leaves its devices as it would alone. -/
theorem program_isolated (p : Program SharedTransport) (actions : List Action)
    (hothers : ∀ packets ∈ p.client.session.transport.others, ∀ packet ∈ packets,
      SentElsewhere D packet)
    (hheld : ∀ device ∈ p.held, device.mac.isZero = false → D device.mac)
    (htakes : TakesIn D actions) :
    p.answers SharedTransport.transport actions
      = (alone p).answers MockTransport.transport actions ∧
    let p₁ := p.run SharedTransport.transport actions
    let p₂ := (alone p).run MockTransport.transport actions
    p₂.client.devices = p₁.client.devices ∧ p₂.held = p₁.held ∧
      SameOn D p₁.client.session.transport.own.network p₂.client.session.transport.network := by
  have hisolated : Isolated D p.client.session.transport p.client.session.transport.own :=
    ⟨⟨rfl, fun _ _ => rfl⟩, rfl, rfl, fun packets hp packet hmem =>
      (hothers packets hp packet hmem).spares⟩
  obtain ⟨hanswers, hend⟩ := program_alike (isolated_agrees D) (p := p) (q := alone p)
    ⟨⟨hisolated, rfl, rfl⟩, rfl, rfl, hheld⟩ actions htakes
  exact ⟨hanswers, hend.devices, hend.held, hend.session.transport.network⟩

/-- Another program resets its device before each packet of ours. -/
theorem program_isolated_reset :
    let ours := Device.withMac (Mac.auto 1)
    let q : Program (Script × List Bytes) :=
      ⟨Client.new (⟨[], []⟩, []) 0, [Device.withMac (Mac.auto 2)]⟩
    let packets := (q.run Script.transport.recorded [.discover, .call 0 .reset]).client.session.log
    let network := Network.new [Network.autoDevice 1, Network.autoDevice 2]
    let p : Program SharedTransport :=
      ⟨Client.new ⟨MockTransport.new network, [packets, packets]⟩ 0, [ours]⟩
    packets ≠ [] ∧ p.answers SharedTransport.transport [.discover, .call 0 .reset]
      = (alone p).answers MockTransport.transport [.discover, .call 0 .reset] := by
  intro ours q packets network p
  refine ⟨by decide, (program_isolated (D := (· = Mac.auto 1)) p _ ?_ ?_ ?_).1⟩
  · intro packets' hpackets packet hpacket
    have hsame : packets' = packets := by
      simpa [p, Client.new] using hpackets
    subst hsame
    refine .log rfl hpacket ?_
    have hheld : (q.run Script.transport.recorded [.discover, .call 0 .reset]).held
        = [Device.withMac (Mac.auto 2)] := rfl
    intro device hdevice _
    rw [hheld, List.mem_singleton] at hdevice
    subst hdevice
    decide
  · intro device hdevice _
    rw [List.mem_singleton.mp hdevice]
    rfl
  · intro mac htake
    simp at htake

end Mocksbr
