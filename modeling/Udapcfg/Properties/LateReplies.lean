import Udapcfg.Properties.Discovery

/-!
# Late replies during discovery

`handle_discovery_reply` tests the request bit, the header and the source type, but not the method,
which every other operation looks at. A reply that belongs to another operation is read as if it
were an announcement, tag by tag.

* `foldl_filter_isDiscovery` — other replies make no difference where discovery replies come last
* `discover_ignores_iff` — and only there, whatever the payloads say
* `discover_overwritten` — an error reply that makes one
-/

namespace Udap

open Infra

/-- The datagram has no parsed method other than that of advanced discovery. -/
def isDiscovery (d : Datagram) : Bool :=
  match Packet.fromBytes d.1 with
  | .ok (packet, _) => packet.ucpMethod = Method.advDisc
  | .error _ => true

/-- The datagram passes the tests of `handle_discovery_reply`, and comes from `mac`. -/
def Passes (mac : Mac) (d : Datagram) : Prop :=
  isRequestPacket d.1 = false ∧ ∃ packet payload, Packet.fromBytes d.1 = .ok (packet, payload) ∧
    packet.srcType = addrTypeEth ∧ packet.srcAddress = mac

/-- Of the datagrams from a MAC that pass, the last is a discovery reply. -/
def LastIsDiscovery (ds : List Datagram) : Prop :=
  ∀ before d after mac, ds = before ++ d :: after → Passes mac d → (∀ d' ∈ after, ¬ Passes mac d') →
    isDiscovery d = true

theorem passes_iff {mac : Mac} {d : Datagram} : Passes mac d ↔ ∃ device, Announces d mac device := by
  constructor
  · rintro ⟨hrequest, packet, payload, hparse, heth, hmac⟩
    exact ⟨_, hrequest, packet, payload, hparse, heth, hmac, rfl⟩
  · rintro ⟨_, hrequest, packet, payload, hparse, heth, hmac, _⟩
    exact ⟨hrequest, packet, payload, hparse, heth, hmac⟩

/-- A discovery reply that is the last announcement stays the last without the others. -/
theorem lastAnnounced_filter_isDiscovery {before after : List Datagram} {d : Datagram} {mac : Mac}
    {device : Device} (hd : Announces d mac device)
    (hafter : ∀ d' ∈ after, ∀ device', ¬ Announces d' mac device') (hdisc : isDiscovery d = true) :
    lastAnnounced ((before ++ d :: after).filter isDiscovery) mac = some device := by
  rw [lastAnnounced_eq_some_iff, List.filter_append, List.filter_cons, if_pos hdisc]
  exact ⟨_, d, _, rfl, hd, fun d' hd' => hafter d' (List.mem_filter.mp hd').1⟩

/-- **Where discovery replies come last** the others make no difference. -/
theorem foldl_filter_isDiscovery {ds : List Datagram} (h : LastIsDiscovery ds) (prior : Registry) :
    ds.foldl Registry.handleDiscoveryReply prior
      = (ds.filter isDiscovery).foldl Registry.handleDiscoveryReply prior := by
  ext mac : 1
  rw [get?_foldl_handleDiscoveryReply, get?_foldl_handleDiscoveryReply]
  cases hlast : lastAnnounced ds mac with
  | none =>
    -- nothing announces the MAC, and nothing does without the others
    have hnone := lastAnnounced_eq_none_iff.mp hlast
    have hnone' : lastAnnounced (ds.filter isDiscovery) mac = none :=
      lastAnnounced_eq_none_iff.mpr fun d hd => hnone d (List.mem_filter.mp hd).1
    rw [hnone']
  | some device =>
    obtain ⟨before, d, after, hds, hd, hafter⟩ := lastAnnounced_eq_some_iff.mp hlast
    have hdisc : isDiscovery d = true := by
      refine h before d after mac hds (passes_iff.mpr ⟨device, hd⟩) ?_
      intro d' hd' hpasses
      obtain ⟨device', hannounces⟩ := passes_iff.mp hpasses
      exact hafter d' hd' device' hannounces
    rw [hds, lastAnnounced_filter_isDiscovery hd hafter hdisc]

/-! ## Headers and payloads -/

/-- A datagram but for its payload. -/
def headerOf (d : Datagram) : Bytes × String := (d.1.take headerSize, d.2)

/-- The same header with another payload is parsed alike. -/
theorem fromBytes_of_headerOf {d d' : Datagram} (h : headerOf d' = headerOf d) {packet : Packet}
    {payload : Bytes} (hparse : Packet.fromBytes d.1 = .ok (packet, payload)) :
    ∃ payload', Packet.fromBytes d'.1 = .ok (packet, payload') := by
  obtain ⟨hucp, hd⟩ := Packet.fromBytes_eq_ok_iff.mp hparse
  have htake : d'.1.take headerSize = packet.toBytes := by
    rw [show d'.1.take headerSize = d.1.take headerSize from congrArg Prod.fst h, hd,
      ← Packet.length_toBytes packet]
    exact List.take_left
  refine ⟨d'.1.drop headerSize, Packet.fromBytes_eq_ok_iff.mpr ⟨hucp, ?_⟩⟩
  rw [← htake, List.take_append_drop]

theorem Passes.of_headerOf {mac : Mac} {d d' : Datagram} (h : headerOf d' = headerOf d)
    (hd : Passes mac d) : Passes mac d' := by
  obtain ⟨hrequest, packet, payload, hparse, heth, hmac⟩ := hd
  obtain ⟨payload', hparse'⟩ := fromBytes_of_headerOf h hparse
  rw [isRequestPacket_of_fromBytes hparse] at hrequest
  refine ⟨?_, packet, payload', hparse', heth, hmac⟩
  rw [isRequestPacket_of_fromBytes hparse']
  exact hrequest

theorem isDiscovery_of_headerOf {d d' : Datagram} (h : headerOf d' = headerOf d)
    (hd : isDiscovery d = true) : isDiscovery d' = true := by
  unfold isDiscovery
  split
  · next packet payload hparse =>
    obtain ⟨payload', hparse'⟩ := fromBytes_of_headerOf h.symm hparse
    rwa [isDiscovery, hparse'] at hd
  · rfl

/-- Payloads do not decide on what comes last. -/
theorem LastIsDiscovery.of_headerOf {ds ds' : List Datagram}
    (h : ds'.map headerOf = ds.map headerOf) (hds : LastIsDiscovery ds) : LastIsDiscovery ds' := by
  intro before' d' after' mac hsplit hd' hafter'
  rw [hsplit, List.map_append, List.map_cons] at h
  obtain ⟨before, rest, rfl, _, hrest⟩ := List.map_eq_append_iff.mp h.symm
  obtain ⟨d, after, rfl, hd, hafter⟩ := List.map_eq_cons_iff.mp hrest
  refine isDiscovery_of_headerOf hd.symm (hds before d after mac rfl (hd'.of_headerOf hd) ?_)
  intro d₁ hd₁ hpasses
  have hmem : headerOf d₁ ∈ after'.map headerOf := hafter ▸ List.mem_map_of_mem hd₁
  obtain ⟨d₂, hd₂, hsame⟩ := List.mem_map.mp hmem
  exact hafter' d₂ hd₂ (hpasses.of_headerOf hsame)

/-! ## Discovery -/

/-- A client that receives some datagrams and is then cancelled. -/
def receiving (ds : List Datagram) : Client Script :=
  Client.new ⟨[], ds.map .ok ++ [.error .cancelled]⟩ 0

theorem sendDiscovery_receiving (ds : List Datagram) : (receiving ds).sendDiscovery Script.transport
    = (.ok (), ⟨⟨[], ds.map .ok ++ [.error .cancelled]⟩, 0, 1⟩) := rfl

theorem devices_receiving (ds : List Datagram) :
    ((receiving ds).discover Script.transport).2.devices
      = ds.foldl Registry.handleDiscoveryReply Registry.empty := by
  rw [Client.discover_eq Script.transport (sendDiscovery_receiving ds)]
  simp only [drain_script]
  rfl

/-- Of clients that know the same and send their requests, one that receives these datagrams ends up
with the registry of one that receives the discovery replies among them. -/
def Ignores (ds : List Datagram) : Prop :=
  ∀ (σ τ : Type) (T : Transport σ) (T' : Transport τ) (c : Client σ) (c' : Client τ) (s : Session σ)
    (s' : Session τ), c'.devices = c.devices → c.sendDiscovery T = (.ok (), s) →
    c'.sendDiscovery T' = (.ok (), s') → (T.drain s.transport).1 = ds →
    (T'.drain s'.transport).1 = ds.filter isDiscovery →
    (c.discover T).2.devices = (c'.discover T').2.devices

theorem ignores_of_lastIsDiscovery {ds : List Datagram} (h : LastIsDiscovery ds) : Ignores ds := by
  intro σ τ T T' c c' s s' hprior hsend hsend' hdrain hdrain'
  rw [Client.discover_eq T hsend, Client.discover_eq T' hsend']
  show List.foldl _ _ (T.drain s.transport).1 = List.foldl _ c'.devices (T'.drain s'.transport).1
  rw [hprior, hdrain, hdrain']
  exact foldl_filter_isDiscovery h c.devices

theorem Ignores.foldl {ds : List Datagram} (h : Ignores ds) :
    ds.foldl Registry.handleDiscoveryReply Registry.empty
      = (ds.filter isDiscovery).foldl Registry.handleDiscoveryReply Registry.empty := by
  have hsame := h Script Script Script.transport Script.transport (receiving ds)
    (receiving (ds.filter isDiscovery)) _ _ rfl (sendDiscovery_receiving ds)
    (sendDiscovery_receiving _) (by simp only [drain_script]) (by simp only [drain_script])
  rwa [devices_receiving, devices_receiving] at hsame

/-- The last announcement is what is known, whatever comes before it. -/
theorem get?_foldl_last (before : List Datagram) {after : List Datagram} {d : Datagram} {mac : Mac}
    {device : Device} (hd : Announces d mac device) (hafter : ∀ d' ∈ after, ¬ Passes mac d') :
    ((before ++ d :: after).foldl Registry.handleDiscoveryReply Registry.empty).byMac.get? mac
      = some device := by
  refine get?_foldl_iff.mpr (.inl ⟨before, d, after, rfl, hd, ?_⟩)
  intro d' hd' device' hannounces
  exact hafter d' hd' (passes_iff.mpr ⟨device', hannounces⟩)

/-- **When other replies make no difference to discovery**: with these headers they make none,
whatever the payloads say, if and only if of the datagrams from each MAC that pass the last is a
discovery reply. -/
theorem discover_ignores_iff (ds : List Datagram) : LastIsDiscovery ds ↔
    ∀ ds' : List Datagram, ds'.map headerOf = ds.map headerOf → Ignores ds' := by
  constructor
  · intro h ds' hsame
    exact ignores_of_lastIsDiscovery (h.of_headerOf hsame)
  · intro h before d after mac hds hd hafter
    by_contra hlate
    obtain ⟨hrequest, packet, payload, hparse, heth, hmac⟩ := hd
    obtain ⟨hucp, hbytes⟩ := Packet.fromBytes_eq_ok_iff.mp hparse
    -- the late reply with another payload
    let late (payload : Bytes) : Datagram := (packet.toBytes ++ payload, d.2)
    have hheader (payload : Bytes) : headerOf (late payload) = headerOf d := by
      rw [headerOf, headerOf, hbytes, ← Packet.length_toBytes packet, List.take_left, List.take_left]
    have hother (payload : Bytes) : isDiscovery (late payload) = false :=
      Bool.eq_false_iff.mpr fun hdisc => hlate (isDiscovery_of_headerOf (hheader payload).symm hdisc)
    have hannounces (payload : Bytes) :
        Announces (late payload) mac (parseDiscoveryResponse payload d.2 packet) := by
      obtain ⟨hrequest', _⟩ := Passes.of_headerOf (hheader payload)
        (⟨hrequest, packet, _, hparse, heth, hmac⟩ : Passes mac d)
      exact ⟨hrequest', packet, payload, Packet.fromBytes_toBytes hucp payload, heth, hmac, rfl⟩
    -- it is all that is known of the device, and does not count
    have hknown (payload : Bytes) : ((before ++ after).filter isDiscovery |>.foldl
        Registry.handleDiscoveryReply Registry.empty).byMac.get? mac
          = some (parseDiscoveryResponse payload d.2 packet) := by
      have hsame : (before ++ late payload :: after).map headerOf = ds.map headerOf := by
        rw [hds, List.map_append, List.map_append, List.map_cons, List.map_cons, hheader]
      rw [← get?_foldl_last before (hannounces payload) hafter,
        (h _ hsame).foldl, List.filter_append, List.filter_append, List.filter_cons, hother]
      rfl
    have hunnamed : (parseDiscoveryResponse [] d.2 packet).name = strBytes "Squeezebox Device" := rfl
    have hnamed : (parseDiscoveryResponse [0x02, 1, 0x61] d.2 packet).name = strBytes "a" := rfl
    have hnames := congrArg Device.name
      (Option.some.inj ((hknown []).symm.trans (hknown [0x02, 1, 0x61])))
    rw [hunnamed, hnamed] at hnames
    exact absurd hnames (by decide)

/-! ## A late error -/

/-- A device announces itself, and then answers an earlier `GetData` with an error. -/
def lateError : List Datagram :=
  let cfg := Mocksbr.DeviceConfig.defaultWithMac (Mac.auto 1)
  let request ucpMethod := ((⟨(), 0, 0⟩ : Session Unit).header cfg.mac ucpMethod true).1
  [(Mocksbr.discoveryResponse (request Method.advDisc) cfg, cfg.mac.format),
    (Mocksbr.errorResponse (request Method.getData) cfg "busy", cfg.mac.format)]

theorem devices_lateError :
    ((receiving (lateError.filter isDiscovery)).discover Script.transport).2.devices.devices.map
        (fun device => (device.name, device.model))
      = [(strBytes "Mock SBR", "Squeezebox Receiver")] ∧
    ((receiving lateError).discover Script.transport).2.devices.devices.map
        (fun device => (device.name, device.model))
      = [(strBytes "Squeezebox Device", "busy")] := by
  decide +kernel

/-- **The error overwrites the device**: its message becomes the model, and the name is lost. -/
theorem discover_overwritten :
    ((receiving lateError).discover Script.transport).2.devices
      ≠ ((receiving (lateError.filter isDiscovery)).discover Script.transport).2.devices := by
  intro h
  have hlist := devices_lateError.2
  rw [h, devices_lateError.1] at hlist
  exact absurd hlist (by decide +kernel)

end Udap
