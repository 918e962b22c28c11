import Mathlib.Data.List.FinRange
import Udapcfg.Properties.ClientHistory
import Udapcfg.Properties.Service

/-!
# Programs on a network

A whole program on virtual devices with any faults: it discovers, takes devices and works with them,
with several handles to one device if it takes it again. Without the wire it is a `World`: what is
known, what is held, and a memory for each device, which its handles share.

* `World.step` — an action, without the wire
* `act_stands` — the client and the network come to it
* `program_served` — so do whole programs
-/

namespace Mocksbr

open Infra Udap

/-! ## Worlds -/

/-- A device of the network. -/
abbrev Place (cfgs : List DeviceConfig) := Fin cfgs.length

/-- The device with a MAC. -/
def place (cfgs : List DeviceConfig) (mac : Mac) : Option (Place cfgs) :=
  (List.finRange cfgs.length).find? fun i => cfgs[i].mac = mac

/-- What a program knows and holds of a network, and what the network holds. -/
structure World (cfgs : List DeviceConfig) where
  /-- Discovered, and not taken since. -/
  known : Place cfgs → Bool
  /-- Taken, each with what is cached of it. -/
  held : List (Place cfgs × Params)
  memory : Place cfgs → DeviceState

namespace World

variable {cfgs : List DeviceConfig}

/-- Nothing is known yet. -/
def start (memory : Place cfgs → DeviceState) : World cfgs := ⟨fun _ => false, [], memory⟩

/-- The device that `take_device` takes. -/
def taken (w : World cfgs) (mac : Mac) : Option (Place cfgs) := (place cfgs mac).filter w.known

/-- One action. -/
def step : Action → World cfgs → Answer × World cfgs
  | .discover, w =>
    (.discovered (.ok ()), { w with known := fun i => cfgs[i].answersDiscovery || w.known i })
  | .take mac, w =>
    match w.taken mac with
    | none => (.taken none, w)
    | some i => (.taken (some (discoveredDevice cfgs[i])),
        ⟨Function.update w.known i false, w.held ++ [(i, OrdMap.empty)], w.memory⟩)
  | .call index call, w =>
    match w.held[index]? with
    | none => (.called none, w)
    | some (i, cache) =>
      let r := Service.step cfgs[i] call ⟨cache, w.memory i⟩
      (.called (some r.1), ⟨w.known, w.held.set index (i, r.2.cache),
        Function.update w.memory i r.2.memory⟩)

/-- The handle that a program holds. -/
def handle (h : Place cfgs × Params) : Device :=
  { discoveredDevice cfgs[h.1] with parameters := h.2 }

end World

/-! ## Discovery on an idle session -/

variable {n : Network}

theorem drain_inFlight (n : Network) (ds : List Datagram) :
    MockTransport.transport.drain ⟨n, ds, []⟩ = (ds, .cancelled, ⟨n, [], []⟩) := by
  induction ds with
  | nil =>
    rw [Transport.drain_eq]
    rfl
  | cons d ds ih =>
    rw [Transport.drain_eq]
    show (d :: (MockTransport.transport.drain ⟨n, ds, []⟩).1,
      (MockTransport.transport.drain ⟨n, ds, []⟩).2) = _
    rw [ih]

theorem discover_idle (r : Registry) (sequence : UInt16) : ∃ request,
    (⟨idle n sequence, r⟩ : Client MockTransport).discover MockTransport.transport = (.ok (),
      ⟨idle n (sequence + 1),
        (MockTransport.datagrams (discoveryReplies request n.devices)).foldl
          Registry.handleDiscoveryReply r⟩) := by
  let c : Client MockTransport := ⟨idle n sequence, r⟩
  refine ⟨c.discoveryPacket, ?_⟩
  have hreceive : n.receive c.discoveryPacket.toBytes
      = (discoveryReplies c.discoveryPacket n.devices, n) := receive_discovery n rfl rfl
  have hsend : c.sendDiscovery MockTransport.transport = (.ok (),
      ⟨⟨n, MockTransport.datagrams (discoveryReplies c.discoveryPacket n.devices), []⟩, 0,
        sequence + 1⟩) := by
    have hsteady := sendRetried_steady hreceive hreceive [] [] 0 (sequence + 1)
    rw [List.nil_append, Nat.zero_add, List.replicate_one, List.flatten_singleton] at hsteady
    exact hsteady
  have hfound := Client.discover_eq MockTransport.transport hsend
  rw [drain_inFlight] at hfound
  exact hfound

/-! ## Places -/

section Places

variable {cfgs : List DeviceConfig} (hdistinct : (cfgs.map DeviceConfig.mac).Nodup)

theorem mac_of_place {mac : Mac} {i : Place cfgs} (h : place cfgs mac = some i) :
    cfgs[i].mac = mac :=
  of_decide_eq_true (List.find?_some (p := fun i : Place cfgs => decide (cfgs[i].mac = mac)) h)

include hdistinct

theorem place_mac (i : Place cfgs) : place cfgs cfgs[i].mac = some i := by
  cases hplace : place cfgs cfgs[i].mac with
  | none =>
    have hnone := List.find?_eq_none.mp hplace i (List.mem_finRange i)
    simp at hnone
  | some j =>
    have hmac := mac_of_place hplace
    have hi : i.val < (cfgs.map DeviceConfig.mac).length := by simp
    have hj : j.val < (cfgs.map DeviceConfig.mac).length := by simp
    have hsame : (cfgs.map DeviceConfig.mac)[j.val] = (cfgs.map DeviceConfig.mac)[i.val] := by
      simpa using hmac
    rw [Fin.ext (hdistinct.getElem_inj_iff.mp hsame)]

/-- What a discovery announces of a MAC. -/
theorem lastAnnounced_discovery (request : Packet) (mac : Mac) :
    lastAnnounced (MockTransport.datagrams (discoveryReplies request cfgs)) mac
      = ((place cfgs mac).filter fun i => cfgs[i].answersDiscovery).map fun i =>
        discoveredDevice cfgs[i] := by
  let ds := MockTransport.datagrams (discoveryReplies request cfgs)
  let r := ds.foldl Registry.handleDiscoveryReply Registry.empty
  have hperm : r.devices.Perm ((cfgs.filter DeviceConfig.answersDiscovery).map discoveredDevice) :=
    devices_perm (n := Network.new cfgs) hdistinct request fun _ => Iff.rfl
  have hget : r.byMac.get? mac = lastAnnounced ds mac := by
    rw [get?_foldl_handleDiscoveryReply]
    exact Option.or_none
  rw [← hget]
  ext device
  simp only [Option.map_eq_some_iff, Option.filter_eq_some_iff]
  constructor
  · intro hdevice
    have hmac := r.keyed mac device hdevice
    rw [← hmac] at hdevice
    obtain ⟨cfg, hcfg, rfl⟩ := List.mem_map.mp (hperm.mem_iff.mp (mem_devices.mpr hdevice))
    obtain ⟨hcfg, hanswers⟩ := List.mem_filter.mp hcfg
    obtain ⟨i, hi, rfl⟩ := List.getElem_of_mem hcfg
    exact ⟨⟨i, hi⟩, ⟨hmac ▸ place_mac hdistinct ⟨i, hi⟩, hanswers⟩, rfl⟩
  · rintro ⟨i, ⟨hplace, hanswers⟩, rfl⟩
    have hmem : discoveredDevice cfgs[i] ∈ r.devices := by
      refine hperm.mem_iff.mpr (List.mem_map_of_mem (List.mem_filter.mpr ⟨?_, hanswers⟩))
      exact List.getElem_mem _
    have hdevice := mem_devices.mp hmem
    rwa [show (discoveredDevice cfgs[i]).mac = mac from mac_of_place hplace] at hdevice

end Places

/-! ## Actions -/

/-- A program stands where a world does. -/
structure Stands (n : Network) (p : Program MockTransport) (w : World n.devices) : Prop where
  session : ∃ sequence network, p.client.session = idle network sequence ∧
    network.devices = n.devices ∧
    ∀ i : Place n.devices, network.state[i.val]? = some (w.memory i)
  known : ∀ mac, p.client.devices.byMac.get? mac
    = (w.taken mac).map fun i => discoveredDevice n.devices[i]
  held : p.held = w.held.map World.handle

section Actions

variable {p : Program MockTransport} {w : World n.devices}

theorem filter_map_or {α β : Type} (p q : α → Bool) (f : α → β) (x : Option α) :
    ((x.filter p).map f).or ((x.filter q).map f) = (x.filter fun a => p a || q a).map f := by
  cases x with
  | none => rfl
  | some a =>
    simp only [Option.filter_some]
    cases p a with
    | true => rfl
    | false => cases q a <;> rfl

theorem Stands.discover (hdistinct : (n.devices.map DeviceConfig.mac).Nodup) (h : Stands n p w) :
    p.answer MockTransport.transport .discover = (World.step .discover w).1 ∧
      Stands n (p.act MockTransport.transport .discover) (World.step .discover w).2 := by
  obtain ⟨⟨session, r⟩, held⟩ := p
  obtain ⟨⟨sequence, network, rfl, hdevices, hmemory⟩, hknown, hheld⟩ := h
  obtain ⟨request, hfound⟩ := discover_idle (n := network) r sequence
  rw [hdevices] at hfound
  simp only [Program.answer, Program.act, hfound]
  refine ⟨rfl, ⟨_, network, rfl, hdevices, hmemory⟩, ?_, hheld⟩
  intro mac
  rw [get?_foldl_handleDiscoveryReply, lastAnnounced_discovery hdistinct]
  exact (congrArg _ (hknown mac)).trans (filter_map_or _ _ _ _)

theorem Stands.take (h : Stands n p w) (mac : Mac) :
    p.answer MockTransport.transport (.take mac) = (World.step (.take mac) w).1 ∧
      Stands n (p.act MockTransport.transport (.take mac)) (World.step (.take mac) w).2 := by
  obtain ⟨hsession, hknown, hheld⟩ := h
  have hremoved (mac' : Mac) : (p.client.devices.remove mac).byMac.get? mac'
      = Function.update p.client.devices.byMac.get? mac none mac' := get?_remove _ mac mac'
  simp only [Program.answer, Program.act, Client.takeDevice, World.step, hknown]
  cases htaken : w.taken mac with
  | none =>
    -- there was nothing to remove
    refine ⟨rfl, hsession, ?_, ?_⟩
    · intro mac'
      rw [hremoved, ← hknown]
      by_cases hmac : mac' = mac
      · subst hmac
        rw [Function.update_self, hknown, htaken]
        rfl
      · rw [Function.update_of_ne hmac]
    · rw [hheld]
      exact List.append_nil _
  | some i =>
    have hplace : place n.devices mac = some i := (Option.filter_eq_some_iff.mp htaken).1
    refine ⟨rfl, hsession, ?_, ?_⟩
    · intro mac'
      rw [hremoved]
      by_cases hmac : mac' = mac
      · subst hmac
        rw [Function.update_self, World.taken, hplace]
        simp
      · rw [Function.update_of_ne hmac, hknown, World.taken, World.taken]
        cases hplace' : place n.devices mac' with
        | none => rfl
        | some j =>
          have hij : j ≠ i := by
            rintro rfl
            exact hmac ((mac_of_place hplace').symm.trans (mac_of_place hplace))
          simp only [Option.filter_some, Function.update_of_ne hij]
    · rw [hheld, List.map_append]
      rfl

theorem Stands.call (hdistinct : (n.devices.map DeviceConfig.mac).Nodup)
    (hnonzero : ∀ cfg ∈ n.devices, cfg.mac.isZero = false) (h : Stands n p w) (index : Nat)
    (call : Call) :
    p.answer MockTransport.transport (.call index call) = (World.step (.call index call) w).1 ∧
      Stands n (p.act MockTransport.transport (.call index call))
        (World.step (.call index call) w).2 := by
  obtain ⟨⟨session, r⟩, held⟩ := p
  obtain ⟨⟨sequence, network, rfl, hdevices, hmemory⟩, hknown, hheld⟩ := h
  simp only at hheld hknown
  subst hheld
  simp only [Program.answer, Program.act, World.step, List.getElem?_map, Client.call_eq]
  cases hheld : w.held[index]? with
  | none => exact ⟨rfl, ⟨sequence, network, rfl, hdevices, hmemory⟩, hknown, rfl⟩
  | some held =>
    obtain ⟨i, cache⟩ := held
    have hosts : network.Hosts i.val n.devices[i] (w.memory i) := by
      refine ⟨?_, hmemory i, ?_⟩
      · rw [hdevices]
        exact List.getElem?_eq_getElem i.isLt
      · rw [hdevices]
        exact hdistinct
    have haddr : Addresses (World.handle (i, cache)) n.devices[i] :=
      ⟨rfl, .inr rfl, hnonzero _ (List.getElem_mem _)⟩
    obtain ⟨sequence', hstep⟩ := call_step hosts haddr call sequence
    simp only [Option.map_some, hstep]
    refine ⟨rfl, ⟨sequence', _, rfl, hdevices, ?_⟩, hknown, ?_⟩
    · intro j
      by_cases hj : j = i
      · subst hj
        simp only [Function.update_self]
        exact (hosts.setState _).state
      · simp only [Function.update_of_ne hj]
        exact (List.getElem?_set_ne fun hij => hj (Fin.ext hij.symm)).trans (hmemory j)
    · rw [List.map_set]
      rfl

/-- **One action** of a program is one step of its world. -/
theorem act_stands (hdistinct : (n.devices.map DeviceConfig.mac).Nodup)
    (hnonzero : ∀ cfg ∈ n.devices, cfg.mac.isZero = false) :
    Simulates (Program.step MockTransport.transport) World.step (Stands n) := by
  intro action p w h
  cases action with
  | discover => exact h.discover hdistinct
  | take mac => exact h.take mac
  | call index call => exact h.call hdistinct hnonzero index call

end Actions

/-! ## Programs -/

/-- Where a program starts. -/
theorem stands_start (n : Network) : Stands n ⟨Client.new (MockTransport.new n) 0, []⟩
    (World.start fun i => n.state.get (i.cast n.aligned.symm)) where
  session := ⟨0, n, rfl, rfl, fun i => List.getElem?_eq_getElem _⟩
  known mac := by
    rw [World.taken]
    cases place n.devices mac <;> rfl
  held := rfl

/-- **A program on a network of virtual devices**, with any faults configured, gets the answers it
would get without a wire, and leaves the devices in the states they would be in: whatever it
discovers and takes, in whatever order it works with its devices, and however many handles to one
device it has. -/
theorem program_served (hdistinct : (n.devices.map DeviceConfig.mac).Nodup)
    (hnonzero : ∀ cfg ∈ n.devices, cfg.mac.isZero = false) (actions : List Action) :
    let p : Program MockTransport := ⟨Client.new (MockTransport.new n) 0, []⟩
    let world := run World.step (World.start fun i => n.state.get (i.cast n.aligned.symm)) actions
    p.answers MockTransport.transport actions = world.1 ∧ ∀ i : Place n.devices,
      (p.run MockTransport.transport actions).client.session.transport.network.state[i.val]?
        = some (world.2.memory i) := by
  intro p world
  obtain ⟨hanswers, hend⟩ := (act_stands hdistinct hnonzero).run actions (stands_start n)
  rw [Program.run_step] at hanswers hend
  obtain ⟨sequence, network, hsession, _, hmemory⟩ := hend.session
  refine ⟨hanswers, ?_⟩
  intro i
  rw [show (p.run MockTransport.transport actions).client.session = _ from hsession]
  exact hmemory i

/-- A device that is taken twice. -/
theorem program_served_twice :
    let n := Network.new [DeviceConfig.defaultWithMac (Mac.auto 1)]
    let p : Program MockTransport := ⟨Client.new (MockTransport.new n) 0, []⟩
    let actions := [.discover, .take (Mac.auto 1), .discover, .take (Mac.auto 1),
      .call 0 (.set (single "hostname" "sbr")), .call 1 .getAll]
    p.answers MockTransport.transport actions = (run World.step
      (World.start fun i : Place n.devices => n.state.get (i.cast n.aligned.symm)) actions).1 :=
  (program_served (n := Network.new [DeviceConfig.defaultWithMac (Mac.auto 1)]) (by decide) (by decide)
    _).1

end Mocksbr
