import Mathlib.Data.List.Nodup
import Udapcfg.Properties.HeaderCodec
import Udapcfg.Udap.Client

/-!
# Discovery as a fold

`discover` receives until the first error. What it keeps of a MAC is the last datagram that
announces it.

* `drain` — what a transport hands out until its first error
* `discover_eq` — discovery is a fold over that
* `get?_foldl_handleDiscoveryReply` — the last announcement of a MAC is kept
* `discover_discovered` — all that is said of a registry after discovery
-/

namespace Udap

open Infra

variable {σ : Type} (T : Transport σ)

/-! ## What is received -/

namespace Transport

/-- What is received until the first error, which is in `fuel` rounds. -/
def drainLoop : Nat → σ → List Datagram × TransportError × σ
  | 0, t => ([], .cancelled, t)
  | fuel + 1, t =>
    match T.recv t with
    | (.ok d, t) => (d :: (drainLoop fuel t).1, (drainLoop fuel t).2)
    | (.error e, t) => ([], e, t)

/-- What is received until the first error. -/
def drain (t : σ) : List Datagram × TransportError × σ := drainLoop T (T.inFlight t + 1) t

theorem drainLoop_fuel : ∀ (fuel fuel' : Nat) (t : σ), T.inFlight t < fuel → T.inFlight t < fuel' →
    drainLoop T fuel t = drainLoop T fuel' t
  | fuel + 1, fuel' + 1, t, h, h' => by
    unfold drainLoop
    split
    · next d t' hrecv =>
      have hlt : T.inFlight t' < T.inFlight t := T.recv_lt hrecv
      rw [drainLoop_fuel fuel fuel' t' (by omega) (by omega)]
    · rfl

/-- **Receiving without a bound.** -/
theorem drain_eq (t : σ) : drain T t =
    match T.recv t with
    | (.ok d, t) => (d :: (drain T t).1, (drain T t).2)
    | (.error e, t) => ([], e, t) := by
  rw [drain, drainLoop]
  rcases hrecv : T.recv t with ⟨result, t'⟩
  cases result with
  | error e => rfl
  | ok d =>
    have hlt : T.inFlight t' < T.inFlight t := T.recv_lt hrecv
    simp only
    rw [drain, drainLoop_fuel T (T.inFlight t) (T.inFlight t' + 1) t' hlt (by omega)]

end Transport

/-- Any datagrams and any error can come. -/
theorem drain_script (sends : List (Except TransportError Unit)) (e : TransportError)
    (rest : List (Except TransportError Datagram)) (ds : List Datagram) :
    Script.transport.drain ⟨sends, ds.map .ok ++ .error e :: rest⟩ = (ds, e, ⟨sends, rest⟩) := by
  induction ds with
  | nil =>
    rw [Transport.drain_eq]
    rfl
  | cons d ds ih =>
    rw [Transport.drain_eq]
    show (d :: (Script.transport.drain ⟨sends, ds.map .ok ++ .error e :: rest⟩).1,
      (Script.transport.drain ⟨sends, ds.map .ok ++ .error e :: rest⟩).2) = _
    rw [ih]

/-! ## Announcements -/

/-- The device a datagram announces, if `handle_discovery_reply` takes it for one. -/
def announced (d : Datagram) : Option Device :=
  if isRequestPacket d.1 then none
  else
    match Packet.fromBytes d.1 with
    | .error _ => none
    | .ok (packet, payload) =>
      if packet.srcType ≠ addrTypeEth then none
      else some (parseDiscoveryResponse payload d.2 packet)

/-- The datagram has the request bit clear, parses as a UCP packet, comes from an Ethernet address,
which is `mac`, and describes `device`. -/
def Announces (d : Datagram) (mac : Mac) (device : Device) : Prop :=
  isRequestPacket d.1 = false ∧ ∃ packet payload, Packet.fromBytes d.1 = .ok (packet, payload) ∧
    packet.srcType = addrTypeEth ∧ packet.srcAddress = mac ∧
    device = parseDiscoveryResponse payload d.2 packet

namespace Described

theorem mac_applyEntry (acc : Described) (entry : Tlv) :
    (acc.applyEntry entry).device.mac = acc.device.mac := by
  simp only [applyEntry, apply_ite Described.device, apply_ite Device.mac, ite_self]

theorem mac_foldl (entries : List Tlv) (acc : Described) :
    (entries.foldl applyEntry acc).device.mac = acc.device.mac := by
  induction entries generalizing acc with
  | nil => rfl
  | cons entry entries ih => rw [List.foldl_cons, ih, mac_applyEntry]

end Described

/-- A device is described under the MAC of the header. -/
theorem mac_parseDiscoveryResponse (payload : Bytes) (src : String) (packet : Packet) :
    (parseDiscoveryResponse payload src packet).mac = packet.srcAddress := by
  unfold parseDiscoveryResponse
  simp only
  split
  · exact Described.mac_foldl (Tlv.decode payload) _
  · exact Described.mac_foldl (Tlv.decode payload) _

theorem announced_eq_some_iff {d : Datagram} {device : Device} :
    announced d = some device ↔ Announces d device.mac device := by
  unfold announced Announces
  cases hrequest : isRequestPacket d.1 with
  | true => simp
  | false =>
    cases hparse : Packet.fromBytes d.1 with
    | error e => simp
    | ok r =>
      obtain ⟨packet, payload⟩ := r
      by_cases heth : packet.srcType = addrTypeEth
      · simp only [heth, ne_eq, not_true_eq_false, if_false, Bool.false_eq_true, true_and,
          Option.some.injEq, Except.ok.injEq, Prod.mk.injEq]
        constructor
        · rintro rfl
          exact ⟨packet, payload, ⟨rfl, rfl⟩, heth, (mac_parseDiscoveryResponse _ _ _).symm, rfl⟩
        · rintro ⟨_, _, ⟨rfl, rfl⟩, _, _, rfl⟩
          rfl
      · simp only [heth, ne_eq, not_false_eq_true, if_true, Bool.false_eq_true, if_false, true_and,
          Except.ok.injEq, Prod.mk.injEq]
        constructor
        · intro h
          cases h
        · rintro ⟨_, _, ⟨rfl, rfl⟩, heth', _⟩
          exact absurd heth' heth

theorem announces_mac {d : Datagram} {mac : Mac} {device : Device} (h : Announces d mac device) :
    device.mac = mac := by
  obtain ⟨_, packet, payload, _, _, rfl, rfl⟩ := h
  exact mac_parseDiscoveryResponse payload d.2 packet

/-- A datagram is recorded if it announces a device. -/
theorem handleDiscoveryReply_eq (r : Registry) (d : Datagram) : r.handleDiscoveryReply d =
    match announced d with
    | some device => r.insert device
    | none => r := by
  unfold Registry.handleDiscoveryReply announced
  cases isRequestPacket d.1 with
  | true => rfl
  | false =>
    cases Packet.fromBytes d.1 with
    | error e => rfl
    | ok packet =>
      by_cases heth : packet.1.srcType = addrTypeEth
      · simp [heth]
      · simp [heth]

/-- The device it announces under `mac`. -/
def announcedAs (mac : Mac) (d : Datagram) : Option Device :=
  (announced d).filter fun device => device.mac = mac

theorem announcedAs_eq_some_iff {mac : Mac} {d : Datagram} {device : Device} :
    announcedAs mac d = some device ↔ Announces d mac device := by
  rw [announcedAs, Option.filter_eq_some_iff, announced_eq_some_iff, decide_eq_true_eq]
  constructor
  · rintro ⟨h, rfl⟩
    exact h
  · intro h
    have hmac := announces_mac h
    subst hmac
    exact ⟨h, rfl⟩

theorem announcedAs_eq_none_iff {mac : Mac} {d : Datagram} :
    announcedAs mac d = none ↔ ∀ device, ¬ Announces d mac device := by
  rw [Option.eq_none_iff_forall_ne_some]
  exact forall_congr' fun device => not_congr announcedAs_eq_some_iff

/-! ## The fold -/

/-- The last device under `mac` that some datagrams announce. -/
def lastAnnounced (ds : List Datagram) (mac : Mac) : Option Device :=
  ds.reverse.findSome? (announcedAs mac)

theorem lastAnnounced_eq_some_iff {ds : List Datagram} {mac : Mac} {device : Device} :
    lastAnnounced ds mac = some device ↔ ∃ before d after, ds = before ++ d :: after ∧
      Announces d mac device ∧ ∀ d' ∈ after, ∀ device', ¬ Announces d' mac device' := by
  rw [lastAnnounced, List.findSome?_eq_some_iff]
  constructor
  · rintro ⟨after, d, before, hsplit, hd, hafter⟩
    refine ⟨before.reverse, d, after.reverse, ?_, announcedAs_eq_some_iff.mp hd, ?_⟩
    · have hreverse := congrArg List.reverse hsplit
      simpa using hreverse
    · intro d' hd'
      exact announcedAs_eq_none_iff.mp (hafter d' (List.mem_reverse.mp hd'))
  · rintro ⟨before, d, after, rfl, hd, hafter⟩
    refine ⟨after.reverse, d, before.reverse, by simp, announcedAs_eq_some_iff.mpr hd, ?_⟩
    intro d' hd'
    exact announcedAs_eq_none_iff.mpr (hafter d' (List.mem_reverse.mp hd'))

theorem lastAnnounced_eq_none_iff {ds : List Datagram} {mac : Mac} :
    lastAnnounced ds mac = none ↔ ∀ d ∈ ds, ∀ device, ¬ Announces d mac device := by
  rw [lastAnnounced, List.findSome?_eq_none_iff]
  simp only [List.mem_reverse, announcedAs_eq_none_iff]

theorem byMac_foldl (r : Registry) (ds : List Datagram) :
    (ds.foldl Registry.handleDiscoveryReply r).byMac
      = r.byMac.insertAll ((ds.filterMap announced).map fun device => (device.mac, device)) := by
  induction ds generalizing r with
  | nil => rfl
  | cons d ds ih =>
    rw [List.foldl_cons, ih, handleDiscoveryReply_eq, List.filterMap_cons]
    cases announced d <;> rfl

/-- **The last announcement of a MAC is kept**, and what was known before if there is none. -/
theorem get?_foldl_handleDiscoveryReply (r : Registry) (ds : List Datagram) (mac : Mac) :
    (ds.foldl Registry.handleDiscoveryReply r).byMac.get? mac
      = (lastAnnounced ds mac).or (r.byMac.get? mac) := by
  have hlast : ((ds.filterMap announced).filter fun device => device.mac = mac).getLast?
      = lastAnnounced ds mac := by
    rw [List.filter_filterMap, List.getLast?_filterMap]
    rfl
  rw [byMac_foldl, OrdMap.get?_insertAll, OrdMap.lookup_reverse, List.filter_map, List.getLast?_map,
    Option.map_map, ← hlast]
  exact congrArg (Option.or · _) Option.map_id'

/-- What some datagrams leave of `mac`: the device of the last that announces it, or the
prior one. -/
def Leaves (prior : Registry) (ds : List Datagram) (mac : Mac) (device : Device) : Prop :=
  (∃ before d after, ds = before ++ d :: after ∧ Announces d mac device ∧
    ∀ d' ∈ after, ∀ device', ¬ Announces d' mac device') ∨
  ((∀ d ∈ ds, ∀ device', ¬ Announces d mac device') ∧ prior.byMac.get? mac = some device)

theorem get?_foldl_iff {prior : Registry} {ds : List Datagram} {mac : Mac} {device : Device} :
    (ds.foldl Registry.handleDiscoveryReply prior).byMac.get? mac = some device
      ↔ Leaves prior ds mac device := by
  rw [get?_foldl_handleDiscoveryReply, Leaves, ← lastAnnounced_eq_some_iff,
    ← lastAnnounced_eq_none_iff]
  cases lastAnnounced ds mac <;> simp

/-- Where announcements of one MAC agree, the order they come in does not matter. -/
theorem get?_foldl_empty_iff {ds : List Datagram} {mac : Mac} {device : Device}
    (hagree : ∀ d ∈ ds, ∀ d' ∈ ds, ∀ device device', Announces d mac device →
      Announces d' mac device' → device = device') :
    (ds.foldl Registry.handleDiscoveryReply Registry.empty).byMac.get? mac = some device
      ↔ ∃ d ∈ ds, Announces d mac device := by
  have hget := get?_foldl_handleDiscoveryReply Registry.empty ds mac
  have hempty : Registry.empty.byMac.get? mac = none := rfl
  rw [hget, hempty, Option.or_none]
  constructor
  · intro h
    obtain ⟨before, d, after, hds, hd, _⟩ := lastAnnounced_eq_some_iff.mp h
    exact ⟨d, by rw [hds]; exact List.mem_append_right _ List.mem_cons_self, hd⟩
  · rintro ⟨d, hmem, hd⟩
    cases hlast : lastAnnounced ds mac with
    | none => exact absurd hd (lastAnnounced_eq_none_iff.mp hlast d hmem device)
    | some device' =>
      obtain ⟨before, d', after, hds, hd', _⟩ := lastAnnounced_eq_some_iff.mp hlast
      have hmem' : d' ∈ ds := by
        rw [hds]
        exact List.mem_append_right _ List.mem_cons_self
      rw [hagree d' hmem' d hmem device' device hd' hd]

/-- The datagram parses, and carries this source address. -/
def sentBy (mac : Mac) (d : Datagram) : Bool :=
  match Packet.fromBytes d.1 with
  | .ok (packet, _) => packet.srcAddress = mac
  | .error _ => false

theorem announcedAs_of_not_sentBy {mac : Mac} {d : Datagram} (h : sentBy mac d = false) :
    announcedAs mac d = none := by
  rw [announcedAs_eq_none_iff]
  rintro device ⟨_, packet, payload, hparse, _, hmac, _⟩
  rw [sentBy, hparse] at h
  exact of_decide_eq_false h hmac

/-- Only what a MAC sent decides on its entry. -/
theorem lastAnnounced_filter (ds : List Datagram) (mac : Mac) :
    lastAnnounced (ds.filter (sentBy mac)) mac = lastAnnounced ds mac := by
  rw [lastAnnounced, lastAnnounced, ← List.filter_reverse]
  induction ds.reverse with
  | nil => rfl
  | cons d ds ih =>
    rw [List.filter_cons]
    cases hsent : sentBy mac d with
    | true => rw [if_pos rfl, List.findSome?_cons, List.findSome?_cons, ih]
    | false =>
      rw [if_neg Bool.false_ne_true, List.findSome?_cons, announcedAs_of_not_sentBy hsent, ih]

/-! ## Discovery -/

namespace Client

/-- What `discover` makes of the error that ends it. -/
def ended : TransportError → Except ClientError Unit
  | .cancelled => .ok ()
  | e => .error (.recv e)

theorem discoverLoop_eq_drainLoop (fuel : Nat) (r : Registry) (t : σ) (h : T.inFlight t < fuel) :
    discoverLoop T fuel r t = (ended (T.drainLoop fuel t).2.1,
      (T.drainLoop fuel t).1.foldl Registry.handleDiscoveryReply r, (T.drainLoop fuel t).2.2) := by
  induction fuel generalizing r t with
  | zero => exact absurd h (Nat.not_lt_zero _)
  | succ fuel ih =>
    unfold discoverLoop Transport.drainLoop
    rcases hrecv : T.recv t with ⟨result, t'⟩
    cases result with
    | error e => cases e <;> rfl
    | ok d =>
      have hlt : T.inFlight t' < T.inFlight t := T.recv_lt hrecv
      simp only
      rw [ih _ t' (by omega), List.foldl_cons]

/-- The packet that `discover` broadcasts. -/
def discoveryPacket (c : Client σ) : Packet := (c.session.header Mac.zero Method.advDisc true).1

/-- The sends of `discover`. -/
def sendDiscovery (c : Client σ) : Except TransportError Unit × Session σ :=
  (c.session.header Mac.zero Method.advDisc true).2.sendRetried T c.discoveryPacket.toBytes

/-- **Discovery is a fold** over what is received until the first error. -/
theorem discover_eq {c : Client σ} {s : Session σ} (hsend : c.sendDiscovery T = (.ok (), s)) :
    discover T c = (ended (T.drain s.transport).2.1,
      ⟨{ s with transport := (T.drain s.transport).2.2 },
        (T.drain s.transport).1.foldl Registry.handleDiscoveryReply c.devices⟩) := by
  have hloop := discoverLoop_eq_drainLoop T (T.inFlight s.transport + 1) c.devices s.transport
    (Nat.lt_succ_self _)
  unfold discover
  unfold sendDiscovery discoveryPacket at hsend
  simp only [hsend, hloop]
  rfl

end Client

/-- Devices are listed by MAC. -/
theorem devices_sorted (r : Registry) : (r.devices.map Device.mac).Pairwise (· < ·) := by
  rw [Registry.devices, List.map_map, List.pairwise_map]
  refine r.byMac.sorted.imp_of_mem ?_
  rintro ⟨mac, device⟩ ⟨mac', device'⟩ h h' hlt
  show device.mac < device'.mac
  rw [r.keyed mac device (OrdMap.mem_entries_iff.mp h),
    r.keyed mac' device' (OrdMap.mem_entries_iff.mp h')]
  exact hlt

theorem mem_devices {r : Registry} {device : Device} :
    device ∈ r.devices ↔ r.byMac.get? device.mac = some device := by
  rw [Registry.devices, List.mem_map]
  constructor
  · rintro ⟨⟨mac, device⟩, hmem, rfl⟩
    have hget := OrdMap.mem_entries_iff.mp hmem
    rw [r.keyed mac device hget]
    exact hget
  · intro h
    exact ⟨(device.mac, device), OrdMap.mem_entries_iff.mpr h, rfl⟩

theorem devices_nodup (r : Registry) : r.devices.Nodup := by
  refine List.Nodup.of_map Device.mac ?_
  exact (devices_sorted r).imp fun hlt => ne_of_lt hlt

/-- None of our own packets announces a device. -/
theorem not_announces_header {τ : Type} (s : Session τ) (dst : Mac) (ucpMethod : UInt16)
    (broadcast : Bool) (body : Bytes) (src : String) (mac : Mac) (device : Device) :
    ¬ Announces ((s.header dst ucpMethod broadcast).1.toBytes ++ body, src) mac device := by
  rintro ⟨hrequest, _⟩
  rw [isRequestPacket_header] at hrequest
  cases hrequest

open Client

/-- **The registry after discovery.** -/
structure Discovered (c : Client σ) (s : Session σ) : Prop where
  /-- Cancellation is success, any other error is reported. -/
  result : (discover T c).1 = ended (T.drain s.transport).2.1
  /-- The entry of a MAC is the device of the last datagram that announces it, or the prior one. -/
  entry : ∀ mac device, (discover T c).2.devices.byMac.get? mac = some device ↔
    (∃ before d after, (T.drain s.transport).1 = before ++ d :: after ∧
      Announces d mac device ∧ ∀ d' ∈ after, ∀ device', ¬ Announces d' mac device') ∨
    ((∀ d ∈ (T.drain s.transport).1, ∀ device', ¬ Announces d mac device') ∧
      c.devices.byMac.get? mac = some device)
  keyed : ∀ mac device, (discover T c).2.devices.byMac.get? mac = some device → device.mac = mac
  sorted : ((discover T c).2.devices.devices.map Device.mac).Pairwise (· < ·)
  /-- Our own packets are not recorded. -/
  own : ∀ (τ : Type) (s : Session τ) (dst : Mac) (ucpMethod : UInt16) (broadcast : Bool)
    (body : Bytes) (src : String) (mac : Mac) (device : Device),
    ¬ Announces ((s.header dst ucpMethod broadcast).1.toBytes ++ body, src) mac device
  /-- Only the order of datagrams with the same source address counts. -/
  permuted : ∀ (τ : Type) (T' : Transport τ) (c' : Client τ) (s' : Session τ),
    c'.devices = c.devices → c'.sendDiscovery T' = (.ok (), s') →
    (∀ mac, (T'.drain s'.transport).1.filter (sentBy mac)
      = (T.drain s.transport).1.filter (sentBy mac)) →
    (discover T' c').2.devices = (discover T c).2.devices

theorem discover_discovered {c : Client σ} {s : Session σ}
    (hsend : c.sendDiscovery T = (.ok (), s)) : Discovered T c s where
  result := by rw [discover_eq T hsend]
  entry mac device := by
    rw [discover_eq T hsend]
    exact get?_foldl_iff
  keyed := (discover T c).2.devices.keyed
  sorted := devices_sorted _
  own _ := not_announces_header
  permuted τ T' c' s' hprior hsend' hsame := by
    rw [discover_eq T hsend, discover_eq T' hsend']
    show List.foldl _ c'.devices _ = List.foldl _ c.devices _
    ext mac
    rw [get?_foldl_handleDiscoveryReply, get?_foldl_handleDiscoveryReply, hprior,
      ← lastAnnounced_filter, hsame, lastAnnounced_filter]

/-- A client with one reply on the way. -/
def expectant : Client Script :=
  ⟨⟨⟨[], [.ok (Mocksbr.discoveryResponse ((⟨(), 0, 0⟩ : Session Unit).header Mac.zero Method.advDisc
    true).1 (.defaultWithMac (Mac.auto 1)), "10.0.0.5"), .error .cancelled]⟩, 0, 0⟩, Registry.empty⟩

theorem discover_discovered_expectant :
    Discovered Script.transport expectant ⟨expectant.session.transport, 0, 1⟩ :=
  discover_discovered Script.transport rfl

end Udap
