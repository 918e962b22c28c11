import Udapcfg.Properties.Network

/-!
# The network as the parallel composition of its devices

`Network::receive` is one loop over all devices that reads and writes a shared state vector. No
device notices the others: what it answers and what it holds is what it would be alone.

* `receiveFrom_zip`, `receive_eq` — the loop, device by device
* `after_eq`, `receive_after` — a network after any datagrams, and what it answers to the next
* `composition` — the network is the composition of its one-device networks, and which datagrams
  change nothing
-/

namespace Mocksbr

open Infra Udap

/-! ## One device alone -/

/-- What a device makes of a datagram. -/
def deviceReceive (packet : Bytes) (cfg : DeviceConfig) (state : DeviceState) :
    List ScheduledReply × DeviceState :=
  match Packet.fromBytes packet with
  | .error _ => ([], state)
  | .ok (request, payload) =>
    if isAddressed request cfg then
      ((respond request payload cfg state).1.toList, (respond request payload cfg state).2)
    else ([], state)

/-- The state of a device after some datagrams. -/
def deviceAfter (packets : List Bytes) (cfg : DeviceConfig) (state : DeviceState) : DeviceState :=
  packets.foldl (fun state packet => (deviceReceive packet cfg state).2) state

/-- The same, from the state a network starts it in. -/
def deviceState (packets : List Bytes) (cfg : DeviceConfig) : DeviceState :=
  deviceAfter packets cfg (DeviceState.factoryWith cfg.nvram)

/-- The network after some datagrams. -/
def Network.after (n : Network) (packets : List Bytes) : Network :=
  packets.foldl (fun n packet => (n.receive packet).2) n

theorem Network.after_append (n : Network) (packets packets' : List Bytes) :
    n.after (packets ++ packets') = (n.after packets).after packets' := List.foldl_append

/-! ## The loop -/

/-- **The loop over the devices** does for each what it does alone. -/
theorem receiveFrom_zip {packet payload : Bytes} {request : Packet}
    (h : Packet.fromBytes packet = .ok (request, payload)) (devices : List DeviceConfig)
    (before states : List DeviceState) (hlen : states.length = devices.length) :
    receiveFrom request payload before.length devices (before ++ states)
      = ((devices.zip states).flatMap fun d => (deviceReceive packet d.1 d.2).1,
        before ++ (devices.zip states).map fun d => (deviceReceive packet d.1 d.2).2) := by
  induction devices generalizing before states with
  | nil =>
    cases states with
    | nil => rfl
    | cons _ _ => cases hlen
  | cons cfg rest ih =>
    cases states with
    | nil => cases hlen
    | cons state states =>
      have hstate : (before ++ state :: states)[before.length]? = some state := by
        rw [List.getElem?_append_right (Nat.le_refl _), Nat.sub_self]
        rfl
      -- the pass over the other devices, this one being in any state
      have hrest : ∀ state', receiveFrom request payload (before.length + 1) rest
            (before ++ state' :: states)
          = ((rest.zip states).flatMap fun d => (deviceReceive packet d.1 d.2).1,
            before ++ state' :: (rest.zip states).map fun d => (deviceReceive packet d.1 d.2).2) := by
        intro state'
        have hnext := ih (before ++ [state']) states (Nat.succ.inj hlen)
        rw [List.length_append, List.append_assoc, List.append_assoc] at hnext
        exact hnext
      rw [List.zip_cons_cons, List.flatMap_cons, List.map_cons]
      unfold receiveFrom
      by_cases haddr : isAddressed request cfg = true
      · -- the device answers, and its state goes where it was
        have hset : ∀ state', (before ++ state :: states).set before.length state'
            = before ++ state' :: states := by
          intro state'
          rw [List.set_append_right _ _ (Nat.le_refl _), Nat.sub_self, List.set_cons_zero]
        have hself : deviceReceive packet cfg state = ((respond request payload cfg state).1.toList,
            (respond request payload cfg state).2) := by
          rw [deviceReceive, h]
          exact if_pos haddr
        rw [if_pos haddr, hstate]
        simp only [hset, hrest, hself]
      · -- the device is passed over
        have hself : deviceReceive packet cfg state = ([], state) := by
          rw [deviceReceive, h]
          exact if_neg haddr
        rw [if_neg haddr, hrest, hself]
        rfl

/-- **A datagram to a network** goes to each device with its state. -/
theorem receive_eq (n : Network) (packet : Bytes) :
    (n.receive packet).1
        = (n.devices.zip n.state).flatMap (fun d => (deviceReceive packet d.1 d.2).1) ∧
      (n.receive packet).2.devices = n.devices ∧
      (n.receive packet).2.state
        = (n.devices.zip n.state).map fun d => (deviceReceive packet d.1 d.2).2 := by
  unfold Network.receive
  split
  · next e h =>
    -- junk is dropped by all
    have hself : ∀ cfg state, deviceReceive packet cfg state = ([], state) := by
      intro cfg state
      rw [deviceReceive, h]
    simp only [hself, true_and]
    refine ⟨(List.flatMap_eq_nil_iff.mpr fun _ _ => rfl).symm, ?_⟩
    exact (List.map_snd_zip (Nat.le_of_eq n.aligned)).symm
  · next request payload h =>
    have hpass := receiveFrom_zip h n.devices [] n.state n.aligned
    rw [List.nil_append] at hpass
    show (receiveFrom request payload 0 n.devices n.state).1 = _ ∧ n.devices = n.devices ∧
      (receiveFrom request payload 0 n.devices n.state).2 = _
    rw [show (0 : Nat) = ([] : List DeviceState).length from rfl, hpass]
    exact ⟨rfl, rfl, rfl⟩

/-! ## Runs -/

/-- A datagram to a network whose states are those of its devices alone. -/
theorem receive_of_map {n : Network} {f : DeviceConfig → DeviceState}
    (hstate : n.state = n.devices.map f) (packet : Bytes) :
    (n.receive packet).1 = n.devices.flatMap (fun cfg => (deviceReceive packet cfg (f cfg)).1) ∧
      (n.receive packet).2.devices = n.devices ∧
      (n.receive packet).2.state = n.devices.map fun cfg => (deviceReceive packet cfg (f cfg)).2 := by
  have hzip : n.devices.zip n.state = n.devices.map fun cfg => (cfg, f cfg) := by
    have h := List.zip_map' (f := fun cfg : DeviceConfig => cfg) (g := f) (l := n.devices)
    rwa [List.map_id', ← hstate] at h
  obtain ⟨hreplies, hdevices, hnext⟩ := receive_eq n packet
  rw [hzip, List.flatMap_map] at hreplies
  rw [hzip, List.map_map] at hnext
  exact ⟨hreplies, hdevices, hnext⟩

/-- **A network after any datagrams**: every device is where it would be alone. -/
theorem after_of_map {n : Network} {f : DeviceConfig → DeviceState} (packets : List Bytes)
    (hstate : n.state = n.devices.map f) : (n.after packets).devices = n.devices ∧
      (n.after packets).state = n.devices.map fun cfg => deviceAfter packets cfg (f cfg) := by
  induction packets generalizing n f with
  | nil => exact ⟨rfl, hstate⟩
  | cons packet packets ih =>
    obtain ⟨_, hdevices, hnext⟩ := receive_of_map hstate packet
    rw [← hdevices] at hnext
    obtain ⟨hdevices', hstate'⟩ := ih hnext
    exact ⟨hdevices'.trans hdevices, hstate'.trans (by rw [hdevices]; rfl)⟩

theorem after_new (devices : List DeviceConfig) (packets : List Bytes) :
    ((Network.new devices).after packets).devices = devices ∧
      ((Network.new devices).after packets).state = devices.map (deviceState packets) :=
  after_of_map packets rfl

/-- What a network answers to the next datagram. -/
theorem receive_after (devices : List DeviceConfig) (packets : List Bytes) (packet : Bytes) :
    (((Network.new devices).after packets).receive packet).1
      = devices.flatMap fun cfg => (deviceReceive packet cfg (deviceState packets cfg)).1 := by
  obtain ⟨hdevices, hstate⟩ := after_new devices packets
  have hstep := receive_of_map (n := (Network.new devices).after packets)
    (f := deviceState packets) (by rw [hdevices]; exact hstate) packet
  rw [hstep.1, hdevices]

/-! ## What changes nothing -/

/-- A fault is injected into the answer of a device. -/
def Faulted (packet : Bytes) (cfg : DeviceConfig) : Prop :=
  ∃ request payload op, Packet.fromBytes packet = .ok (request, payload) ∧
    Op.fromMethod request.ucpMethod = some op ∧ cfg.failsOn op = true

/-- A directed request that names another device. -/
def Elsewhere (packet : Bytes) (cfg : DeviceConfig) : Prop :=
  ∃ request payload, Packet.fromBytes packet = .ok (request, payload) ∧
    request.ucpMethod ≠ Method.advDisc ∧ request.dstAddress ≠ cfg.mac

/-- A request that is not answered has no effect. -/
theorem dispatch_of_none {request : Packet} {payload : Bytes} {cfg : DeviceConfig}
    {state : DeviceState} (h : (dispatch request payload cfg state).1 = none) :
    (dispatch request payload cfg state).2 = state := by
  refine dispatch_state payload state ?_ ?_
  · intro hset
    rw [dispatch_setData payload state hset] at h
    cases h
  · intro hreset
    rw [dispatch_reset payload state hreset] at h
    cases h

theorem deviceReceive_of_nil {packet : Bytes} {cfg : DeviceConfig} {state : DeviceState}
    (h : (deviceReceive packet cfg state).1 = []) : (deviceReceive packet cfg state).2 = state := by
  unfold deviceReceive at h ⊢
  cases hparse : Packet.fromBytes packet with
  | error e => rfl
  | ok r =>
    obtain ⟨request, payload⟩ := r
    by_cases haddr : isAddressed request cfg = true
    · simp only [hparse, if_pos haddr] at h ⊢
      have hnone : (respond request payload cfg state).1 = none := Option.toList_eq_nil_iff.mp h
      unfold respond at hnone ⊢
      split
      · rfl
      · next hpass =>
        rw [hpass] at hnone
        exact dispatch_of_none (Option.map_eq_none_iff.mp hnone)
    · simp only [if_neg haddr]

theorem deviceReceive_of_faulted {packet : Bytes} {cfg : DeviceConfig} (h : Faulted packet cfg)
    (state : DeviceState) : (deviceReceive packet cfg state).2 = state := by
  obtain ⟨request, payload, op, hparse, hop, hfails⟩ := h
  rw [deviceReceive, hparse]
  show (if isAddressed request cfg then _ else _ : List ScheduledReply × DeviceState).2 = state
  split
  · rw [respond, hop, Option.filter_some, if_pos hfails]
  · rfl

theorem deviceReceive_of_elsewhere {packet : Bytes} {cfg : DeviceConfig} (h : Elsewhere packet cfg)
    (state : DeviceState) : deviceReceive packet cfg state = ([], state) := by
  obtain ⟨request, payload, hparse, hmethod, hmac⟩ := h
  rw [deviceReceive, hparse]
  exact if_neg (by rw [isAddressed_of_ne hmethod hmac]; exact Bool.false_ne_true)

/-! ## The composition -/

/-- **The network is the parallel composition of its devices**, after any datagrams. -/
structure Composition (devices : List DeviceConfig) (packets : List Bytes) : Prop where
  /-- The replies to a datagram are those of the devices alone, in device order. -/
  replies : ∀ packet, (((Network.new devices).after packets).receive packet).1
    = devices.flatMap fun cfg => (((Network.new [cfg]).after packets).receive packet).1
  /-- Each device is in the state it would be in alone. -/
  alone : ∀ (i : Nat) (cfg : DeviceConfig), devices[i]? = some cfg →
    ((Network.new devices).after packets).state[i]?
      = ((Network.new [cfg]).after packets).state[0]?
  /-- A datagram for another device might as well not have been sent. -/
  elsewhere : ∀ (cfg : DeviceConfig) (packet : Bytes) (later : List Bytes), Elsewhere packet cfg →
    (((Network.new [cfg]).after packets).receive packet).1 = [] ∧
      (Network.new [cfg]).after (packets ++ packet :: later)
        = (Network.new [cfg]).after (packets ++ later)
  /-- What is not answered, or answered with an injected failure, changes nothing. -/
  unchanged : ∀ (cfg : DeviceConfig) (packet : Bytes),
    (((Network.new [cfg]).after packets).receive packet).1 = [] ∨ Faulted packet cfg →
    (((Network.new [cfg]).after packets).receive packet).2 = (Network.new [cfg]).after packets

/-- A datagram that leaves a device alone leaves its network alone. -/
theorem receive_singleton {cfg : DeviceConfig} {packets : List Bytes} {packet : Bytes}
    (h : (deviceReceive packet cfg (deviceState packets cfg)).2 = deviceState packets cfg) :
    (((Network.new [cfg]).after packets).receive packet).2 = (Network.new [cfg]).after packets := by
  obtain ⟨hdevices, hstate⟩ := after_new [cfg] packets
  obtain ⟨_, hdevices', hstate'⟩ := receive_of_map (n := (Network.new [cfg]).after packets)
    (f := deviceState packets) (by rw [hdevices]; exact hstate) packet
  refine Network.ext' hdevices' ?_
  rw [hstate', hdevices, hstate, List.map_singleton, List.map_singleton, h]

theorem composition (devices : List DeviceConfig) (packets : List Bytes) :
    Composition devices packets where
  replies packet := by
    rw [receive_after]
    refine List.flatMap_congr ?_
    intro cfg _
    rw [receive_after, List.flatMap_singleton]
  alone i cfg hi := by
    rw [(after_new devices packets).2, (after_new [cfg] packets).2, List.getElem?_map, hi]
    rfl
  elsewhere cfg packet later h := by
    have hself := deviceReceive_of_elsewhere h (deviceState packets cfg)
    refine ⟨by rw [receive_after, List.flatMap_singleton, hself], ?_⟩
    rw [Network.after_append, Network.after_append]
    show (((Network.new [cfg]).after packets).receive packet).2.after later = _
    rw [receive_singleton (by rw [hself])]
  unchanged cfg packet h := by
    refine receive_singleton ?_
    rcases h with h | h
    · rw [receive_after, List.flatMap_singleton] at h
      exact deviceReceive_of_nil h
    · exact deviceReceive_of_faulted h _

end Mocksbr
