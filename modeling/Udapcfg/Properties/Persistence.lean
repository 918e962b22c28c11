import Udapcfg.Properties.Composition

/-!
# Repeated and inserted datagrams

A client sends a request several times and takes it that this changes nothing. A device saves every
write at once, so that a reset finds what was there already.

* `deliveries_eq` — delivering a datagram again changes nothing and brings the same replies
* `persistent` — memories agree and are complete at every point, so that resets make no difference
-/

namespace Mocksbr

open Infra Udap

/-! ## Delivering a datagram again -/

/-- What a network answers to one datagram, delivered `k` times in a row, and the
network after it. -/
def Network.deliveries (packet : Bytes) : Nat → Network → List (List ScheduledReply) × Network
  | 0, n => ([], n)
  | k + 1, n =>
    let r := n.receive packet
    let rs := deliveries packet k r.2
    (r.1 :: rs.1, rs.2)

theorem deviceReceive_idem (packet : Bytes) (cfg : DeviceConfig) (state : DeviceState) :
    deviceReceive packet cfg (deviceReceive packet cfg state).2 = deviceReceive packet cfg state := by
  unfold deviceReceive
  cases Packet.fromBytes packet with
  | error e => rfl
  | ok r =>
    simp only
    split
    · rw [respond_idem]
    · rfl

/-- **One delivery is as good as two.** -/
theorem receive_idem (n : Network) (packet : Bytes) :
    (n.receive packet).2.receive packet = n.receive packet := by
  obtain ⟨hreplies, hdevices, hstate⟩ := receive_eq n packet
  obtain ⟨hreplies', hdevices', hstate'⟩ := receive_eq (n.receive packet).2 packet
  -- device by device, the state is what the first delivery made of it
  have hzip : (n.receive packet).2.devices.zip (n.receive packet).2.state
      = (n.devices.zip n.state).map fun d => (d.1, (deviceReceive packet d.1 d.2).2) := by
    rw [hdevices, hstate]
    calc n.devices.zip ((n.devices.zip n.state).map fun d => (deviceReceive packet d.1 d.2).2)
        = ((n.devices.zip n.state).map Prod.fst).zip
            ((n.devices.zip n.state).map fun d => (deviceReceive packet d.1 d.2).2) := by
          rw [List.map_fst_zip (Nat.le_of_eq n.aligned.symm)]
      _ = _ := List.zip_map'
  rw [hzip, List.flatMap_map] at hreplies'
  rw [hzip, List.map_map] at hstate'
  refine Prod.ext ?_ (Network.ext' hdevices' ?_)
  · rw [hreplies', hreplies]
    exact List.flatMap_congr fun d _ => by rw [deviceReceive_idem]
  · rw [hstate', hstate]
    exact List.map_congr_left fun d _ => by
      show (deviceReceive packet d.1 (deviceReceive packet d.1 d.2).2).2 = _
      rw [deviceReceive_idem]

/-- **Retransmission**: delivered `k + 1` times in a row, a datagram leaves the network as the first
delivery does, and every delivery is answered as the first. -/
theorem deliveries_eq (n : Network) (packet : Bytes) (k : Nat) :
    n.deliveries packet (k + 1)
      = (List.replicate (k + 1) (n.receive packet).1, (n.receive packet).2) := by
  induction k generalizing n with
  | zero => rfl
  | succ k ih =>
    have hagain := ih (n.receive packet).2
    rw [receive_idem] at hagain
    rw [Network.deliveries]
    simp only [hagain]
    rw [List.replicate_succ (n := k + 1)]

/-! ## Resets -/

/-- Decides whether a datagram is a reset request. -/
def isReset (packet : Bytes) : Bool :=
  match Packet.fromBytes packet with
  | .ok (request, _) => request.ucpMethod = Method.reset
  | .error _ => false

/-- What a network answers to each of some datagrams. -/
def Network.answers : Network → List Bytes → List (Bytes × List ScheduledReply)
  | _, [] => []
  | n, packet :: packets =>
    (packet, (n.receive packet).1) :: answers (n.receive packet).2 packets

/-- The answers to all but the reset requests. -/
def otherAnswers (answers : List (Bytes × List ScheduledReply)) :
    List (Bytes × List ScheduledReply) :=
  answers.filter fun a => !isReset a.1

/-- A device whose memories agree is left alone by a reset. -/
theorem deviceReceive_reset {packet : Bytes} (h : isReset packet = true) (cfg : DeviceConfig)
    {state : DeviceState} (hsettled : state.Settled) :
    (deviceReceive packet cfg state).2 = state := by
  unfold isReset at h
  split at h
  · next request payload hparse =>
    have hmethod : request.ucpMethod = Method.reset := of_decide_eq_true h
    rw [deviceReceive, hparse]
    simp only
    split
    · unfold respond
      split
      · rfl
      · show (dispatch request payload cfg state).2 = state
        rw [dispatch_reset payload state hmethod]
        exact hsettled.applyReset
    · rfl
  · cases h

theorem receive_reset {n : Network} (hreach : n.Reachable) {packet : Bytes}
    (h : isReset packet = true) : (n.receive packet).2 = n := by
  obtain ⟨_, hdevices, hstate⟩ := receive_eq n packet
  refine Network.ext' hdevices ?_
  rw [hstate]
  have hself : ∀ d ∈ n.devices.zip n.state, (deviceReceive packet d.1 d.2).2 = d.2 :=
    fun d hd => deviceReceive_reset h d.1 (hreach.settled d.2 (List.of_mem_zip hd).2)
  rw [List.map_congr_left hself]
  exact List.map_snd_zip (Nat.le_of_eq n.aligned)

/-- Without the resets the other datagrams are answered the same. -/
theorem otherAnswers_eq {n : Network} (hreach : n.Reachable) (packets : List Bytes) :
    otherAnswers (n.answers packets) = n.answers (packets.filter fun packet => !isReset packet) := by
  induction packets generalizing n with
  | nil => rfl
  | cons packet packets ih =>
    have hnext := ih (hreach.receive packet)
    rw [otherAnswers] at hnext ⊢
    rw [Network.answers, List.filter_cons, List.filter_cons, hnext]
    cases hreset : isReset packet with
    | true =>
      rw [receive_reset hreach hreset]
      rfl
    | false => rfl

/-- **What is saved at once stays**, at every point of a history of datagrams. -/
structure Persistent (devices : List DeviceConfig) (packets : List Bytes) : Prop where
  /-- Working memory is what is in NVRAM, -/
  settled : ∀ state ∈ ((Network.new devices).after packets).state, state.working = state.nvram
  /-- and has a value for every parameter. -/
  full : ∀ state ∈ ((Network.new devices).after packets).state, ∀ name ∈ names,
    state.get name ≠ none
  /-- Histories that differ in resets only bring the same answers to everything else. -/
  resets : ∀ packets' : List Bytes,
    packets'.filter (fun packet => !isReset packet) = packets.filter (fun packet => !isReset packet) →
    otherAnswers ((Network.new devices).answers packets')
      = otherAnswers ((Network.new devices).answers packets)

theorem reachable_after {n : Network} (h : n.Reachable) (packets : List Bytes) :
    (n.after packets).Reachable := by
  induction packets generalizing n with
  | nil => exact h
  | cons packet packets ih => exact ih (h.receive packet)

theorem persistent (devices : List DeviceConfig) (packets : List Bytes) :
    Persistent devices packets where
  settled := (reachable_after (.new devices) packets).settled
  full state hstate name hname := by
    obtain ⟨p, hp, rfl⟩ := mem_names_iff.mp hname
    exact ((reachable_after (.new devices) packets).full state hstate p hp).1
  resets packets' hsame := by
    rw [otherAnswers_eq (.new devices), otherAnswers_eq (.new devices), hsame]

end Mocksbr
