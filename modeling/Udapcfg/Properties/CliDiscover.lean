import Udapcfg.Properties.Cli
import Udapcfg.Properties.Clock

/-!
# The command line on a mock network

`udapcfg discover --timeout T`, with a client on virtual devices and the timer of its token on their
clock.

* `discover_lists` — what it prints are the devices that answer within `T`
* `discover_auto` — of devices with sequential MACs it is all of them, to the letter
-/

namespace UdapCli

open Infra Udap Mocksbr

/-- The token of a timed transport fires so long after now. -/
def clockTimer : Timer TimedTransport := fun wait t => { t with token := t.queue.now + wait }

/-- A factory for clients on virtual devices, whatever the interface. -/
def mockFactory (n : Network) (retries : Nat) (runtime : Runtime) : ClientFactory TimedTransport :=
  fun _ => return .ok (Client.new (TimedTransport.new n 0 runtime) retries)

theorem withToken_mock (n : Network) (retries : Nat) (runtime : Runtime) (timeout : Int64) :
    withToken clockTimer timeout (Client.new (TimedTransport.new n 0 runtime) retries)
      = Client.new (TimedTransport.new n (waitDuration timeout) runtime) retries := by
  simp [withToken, clockTimer, Client.new, TimedTransport.new]

/-- What an invocation comes to. -/
theorem invoke_mock {n : Network} (hdistinct : (n.devices.map DeviceConfig.mac).Nodup) (retries : Nat)
    (texts : Texts) (host : Host) {cli : Cli} (hdiscover : cli.command = .discover)
    (husable : ∀ name, cli.bindInterface = some name →
      ∃ iface ∈ enumerate host.net (host.sweep 0), iface.name = name)
    {lag : Nat} {runtime : Runtime}
    (hprompt : TimedTransport.PromptRuntime lag (waitDuration cli.timeout) runtime) :
    ∃ (r : Registry) (iface : Option NetInterface) (fx : Effects) (due : DeviceConfig → Prop),
      invoke TimedTransport.transport clockTimer texts host cli (mockFactory n retries runtime)
        = (0, listed texts cli.timeout r.devices fx) ∧ Resolved host cli.bindInterface iface fx ∧
      (∀ device, device ∈ r.devices ↔ ∃ cfg, due cfg ∧ device = discoveredDevice cfg) ∧
      (∀ cfg ∈ n.devices, cfg.answersDiscovery = true → cfg.slow + lag < waitDuration cli.timeout →
        due cfg) ∧
      ∀ cfg, due cfg → cfg ∈ n.devices ∧ cfg.answersDiscovery = true ∧
        cfg.slow ≤ waitDuration cli.timeout + lag := by
  obtain ⟨hok, _, due, hdevices, hquick, hdue⟩ := discover_due hdistinct retries hprompt
  have hinvoked : Invoked TimedTransport.transport clockTimer texts host cli
      (mockFactory n retries runtime) _ := invoked hdiscover
  have hmade (iface : Option NetInterface) (fx : Effects) : mockFactory n retries runtime iface fx
      = (.ok (Client.new (TimedTransport.new n 0 runtime) retries), fx) := rfl
  generalize invoke TimedTransport.transport clockTimer texts host cli (mockFactory n retries runtime)
    = r at hinvoked
  cases hinvoked with
  | unresolved hbind hunknown =>
    obtain ⟨iface, hiface, hname⟩ := husable _ hbind
    exact absurd hname (hunknown iface hiface)
  | unopened _ made =>
    rw [hmade] at made
    cases made
  | failed _ made discovered =>
    rw [hmade] at made
    cases made
    rw [withToken_mock, hok] at discovered
    cases discovered
  | listed resolved made _ =>
    rw [hmade] at made
    cases made
    rw [withToken_mock]
    exact ⟨_, _, _, due, rfl, resolved, hdevices, hquick, hdue⟩

/-- **`udapcfg discover`**, on a runtime that is late by `lag` at most, lists the devices that
answer so much before the timeout, and none that answers so much after it. A negative timeout is
none at all. -/
theorem discover_lists {n : Network} (hdistinct : (n.devices.map DeviceConfig.mac).Nodup)
    (retries : Nat) (texts : Texts) (host : Host) {cli : Cli} (hdiscover : cli.command = .discover)
    (husable : ∀ name, cli.bindInterface = some name →
      ∃ iface ∈ enumerate host.net (host.sweep 0), iface.name = name)
    {lag : Nat} {runtime : Runtime}
    (hprompt : TimedTransport.PromptRuntime lag (waitDuration cli.timeout) runtime) :
    let r := invoke TimedTransport.transport clockTimer texts host cli (mockFactory n retries runtime)
    r.1 = 0 ∧ ∃ macs, Listing texts cli.timeout r.2 macs ∧
      (∀ cfg ∈ n.devices, cfg.answersDiscovery = true → cfg.slow + lag < waitDuration cli.timeout →
        cfg.mac ∈ macs) ∧
      ∀ mac ∈ macs, ∃ cfg ∈ n.devices, cfg.answersDiscovery = true ∧
        cfg.slow ≤ waitDuration cli.timeout + lag ∧ cfg.mac = mac := by
  intro r
  obtain ⟨registry, iface, fx, due, hr, _, hdevices, hquick, hdue⟩ :=
    invoke_mock hdistinct retries texts host hdiscover husable hprompt
  rw [show r = _ from hr]
  refine ⟨rfl, _, listing_listed texts cli.timeout _ _, ?_, ?_⟩
  · intro cfg hcfg hanswers hslow
    exact List.mem_map.mpr ⟨_, (hdevices _).mpr ⟨cfg, hquick cfg hcfg hanswers hslow, rfl⟩, rfl⟩
  · intro mac hmac
    obtain ⟨device, hdevice, rfl⟩ := List.mem_map.mp hmac
    obtain ⟨cfg, hcfg, rfl⟩ := (hdevices device).mp hdevice
    obtain ⟨hmem, hanswers, hslow⟩ := hdue cfg hcfg
    exact ⟨cfg, hmem, hanswers, hslow, rfl⟩

/-- `udapcfg --bind-interface en0 --timeout 50ms discover`. -/
def discoverBriefly (name : Option String) : Cli := ⟨50000000, 0, name, false, .discover⟩

/-- Of two devices one is listed. -/
theorem discover_lists_two :
    let n := Network.new [slowDevice 2 (90 * TimedTransport.ms), slowDevice 1 (20 * TimedTransport.ms)]
    let cli := discoverBriefly (some "en0")
    let wait := waitDuration cli.timeout
    let r := invoke TimedTransport.transport clockTimer plainTexts quietHost cli
      (mockFactory n 0 (TimedTransport.startPaused wait))
    r.1 = 0 ∧ ∃ macs, Listing plainTexts cli.timeout r.2 macs ∧
      (∀ cfg ∈ n.devices, cfg.answersDiscovery = true → cfg.slow + TimedTransport.ms < wait →
        cfg.mac ∈ macs) ∧
      ∀ mac ∈ macs, ∃ cfg ∈ n.devices, cfg.answersDiscovery = true ∧
        cfg.slow ≤ wait + TimedTransport.ms ∧ cfg.mac = mac := by
  intro n cli wait r
  have hdiscover : cli.command = .discover := rfl
  refine discover_lists (n := n) (by decide) 0 plainTexts quietHost hdiscover ?_
    (TimedTransport.promptRuntime_startPaused wait)
  intro name hname
  exact ⟨⟨"en0", 4, ⟨192, 168, 1, 50⟩, ⟨192, 168, 1, 50⟩⟩, by decide, Option.some.inj hname⟩

/-! ## Automatic devices -/

theorem auto_lt_auto {a b : UInt8} (h : a < b) : Mac.auto a < Mac.auto b := by
  have hlast : [a.toNat] < [b.toNat] := List.Lex.rel (UInt8.lt_iff_toNat_lt.mp h)
  have hlt : (Mac.auto a).toNats < (Mac.auto b).toNats := by
    show [0, 4, 32, 0, 0, a.toNat] < [0, 4, 32, 0, 0, b.toNat]
    simpa using hlast
  refine lt_of_not_ge fun hle => not_le_of_gt hlt ?_
  exact hle

/-- The MACs of automatic devices, in order. -/
def autoMacs (count : Nat) : List Mac := (List.range' 1 count).map fun i => Mac.auto (UInt8.ofNat i)

/-- No MAC wraps around. -/
theorem autoMacs_sorted {count : Nat} (h : count ≤ 255) : (autoMacs count).Pairwise (· < ·) := by
  rw [autoMacs, List.pairwise_map]
  refine (List.pairwise_lt_range' 1).imp_of_mem ?_
  intro i j hi hj hij
  rw [List.mem_range'_1] at hi hj
  refine auto_lt_auto (UInt8.lt_iff_toNat_lt.mpr ?_)
  rw [UInt8.toNat_ofNat', UInt8.toNat_ofNat', Nat.mod_eq_of_lt, Nat.mod_eq_of_lt]
  · exact hij
  · omega
  · omega

theorem mac_autoDevices (count : Nat) :
    ((List.range' 1 count).map Network.autoDevice).map DeviceConfig.mac = autoMacs count := by
  rw [List.map_map]
  rfl

/-- **`udapcfg discover` on automatic devices** prints them all, one on a line, in order, if the
timeout is longer than the runtime is ever late. Where there are none it says so. -/
theorem discover_auto {count : Nat} {n : Network} (hcount : Network.withAutoDevices count = some n)
    (retries : Nat) (texts : Texts) (host : Host) {cli : Cli} (hdiscover : cli.command = .discover)
    (hunbound : cli.bindInterface = none) {lag : Nat} (hlonger : lag < waitDuration cli.timeout)
    {runtime : Runtime}
    (hprompt : TimedTransport.PromptRuntime lag (waitDuration cli.timeout) runtime) :
    invoke TimedTransport.transport clockTimer texts host cli (mockFactory n retries runtime)
      = (0, ⟨Effects.start, unlines ((autoMacs count).map Mac.format),
          if count = 0 then note texts cli.timeout else ""⟩) := by
  rw [Network.withAutoDevices] at hcount
  split at hcount
  · next hle =>
    cases hcount
    have hsorted := autoMacs_sorted hle
    have hdistinct : (((List.range' 1 count).map Network.autoDevice).map DeviceConfig.mac).Nodup := by
      rw [mac_autoDevices]
      exact hsorted.imp ne_of_lt
    obtain ⟨r, iface, fx, due, hr, hresolved, hdevices, hquick, hdue⟩ :=
      invoke_mock (n := Network.new _) hdistinct retries texts host hdiscover
        (fun name hname => by rw [hunbound] at hname; cases hname) hprompt
    have hmacs : r.devices.map Device.mac = autoMacs count := by
      refine (devices_sorted r).eq_of_mem_iff hsorted ?_
      intro mac
      rw [← mac_autoDevices, List.mem_map, List.mem_map]
      constructor
      · rintro ⟨device, hdevice, rfl⟩
        obtain ⟨cfg, hcfg, rfl⟩ := (hdevices device).mp hdevice
        exact ⟨cfg, (hdue cfg hcfg).1, rfl⟩
      · rintro ⟨cfg, hcfg, rfl⟩
        obtain ⟨i, _, rfl⟩ := List.mem_map.mp hcfg
        have hquick' := hquick _ hcfg rfl ((Nat.zero_add lag).trans_lt hlonger)
        exact ⟨_, (hdevices _).mpr ⟨_, hquick', rfl⟩, rfl⟩
    rw [hunbound] at hresolved
    cases hresolved
    rw [hr, listed]
    have hempty : r.devices = [] ↔ count = 0 := by
      rw [← List.map_eq_nil_iff, hmacs, autoMacs, List.map_eq_nil_iff, List.range'_eq_nil_iff]
    have hlines : r.devices.map (fun device => device.mac.format)
        = (autoMacs count).map Mac.format := by
      rw [← hmacs, List.map_map]
      rfl
    simp only [hempty, hlines]
  · cases hcount

/-- Three of them. -/
theorem discover_auto_three : ∃ n, Network.withAutoDevices 3 = some n ∧
    invoke TimedTransport.transport clockTimer plainTexts quietHost (discoverBriefly none)
      (mockFactory n 0 (TimedTransport.startPaused (waitDuration (discoverBriefly none).timeout)))
      = (0, ⟨Effects.start, unlines ((autoMacs 3).map Mac.format),
          if 3 = 0 then note plainTexts (discoverBriefly none).timeout else ""⟩) := by
  have hcount : Network.withAutoDevices 3
      = some (Network.new ((List.range' 1 3).map Network.autoDevice)) := rfl
  have hdiscover : (discoverBriefly none).command = .discover := rfl
  exact ⟨_, hcount, discover_auto hcount 0 plainTexts quietHost hdiscover rfl (by decide)
    (TimedTransport.promptRuntime_startPaused _)⟩

example : unlines ((autoMacs 3).map Mac.format)
    = "00:04:20:00:00:01\n00:04:20:00:00:02\n00:04:20:00:00:03\n" := by decide +kernel

end UdapCli
