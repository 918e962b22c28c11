import Udapcfg.Properties.Cli
import Udapcfg.Properties.SharedDiscovery
import Udapcfg.Properties.Udp

/-!
# The process

`main`, on whatever host: which sockets it opens, what it does with them, and what it prints.

* `openClient_opened` — the client that the flags describe, and the sockets it took
* `main_sockets` — one sweep of the interfaces at most, and one attempt at a socket for each it is
  about
* `main_byName` — what looking twice would come to
* `main_lists` — what is listed was heard, and what else there is to say
-/

namespace UdapCli

open Infra Udap

/-! ## Clients -/

variable {host : Host} {cli : Cli} {texts : Texts}

/-- What sockets are opened for, when this is the interface that was named. -/
def targets (host : Host) (cli : Cli) : Option NetInterface → List (Option NetInterface)
  | some iface => [some iface]
  | none => if cli.allInterfaces then (enumerate host.net (host.sweep 0)).map some else [none]

/-- The transport on the sockets that are bound. -/
def transportOn (host : Host) (cli : Cli) (iface : Option NetInterface) (bound : List Nat) :
    BoxedTransport :=
  if iface = none ∧ cli.allInterfaces = true then .inr (host.multi bound) else .inl (host.traffic 0)

/-- Why there is no client. -/
inductive Unopened (host : Host) (cli : Cli) (iface : Option NetInterface) : OpenError → Prop
  | bind {target : Option NetInterface} {source : TransportError}
      (one : ¬ (iface = none ∧ cli.allInterfaces = true)) (only : targets host cli iface = [target])
      (unbound : (host.socketFor port 0 target).1 = .error source) :
      Unopened host cli iface (.bind source)
  | noInterfaces (all : iface = none ∧ cli.allInterfaces = true)
      (unusable : enumerate host.net (host.sweep 0) = []) :
      Unopened host cli iface .noUsableInterfaces
  | noneBound (all : iface = none ∧ cli.allInterfaces = true)
      (usable : enumerate host.net (host.sweep 0) ≠ [])
      (unbound : host.boundFrom port 0 (targets host cli iface) = []) :
      Unopened host cli iface .noInterfaceBound

/-- What becomes of a client, and of the sockets for it. -/
structure Opened (host : Host) (cli : Cli) (iface : Option NetInterface)
    (r : Except OpenError (Client BoxedTransport) × Effects) : Prop where
  sweeps : r.2.sweeps ≤ 1
  sockets : r.2.sockets = (host.socketsFrom port 0 (targets host cli iface)).map Prod.snd
  /-- There is a client if a socket is bound, -/
  bound : host.boundFrom port 0 (targets host cli iface) ≠ [] →
    r.1 = .ok (Client.new (transportOn host cli iface
      (host.boundFrom port 0 (targets host cli iface))) 0)
  /-- and otherwise there is none. -/
  unbound : host.boundFrom port 0 (targets host cli iface) = [] →
    ∃ e, r.1 = .error e ∧ Unopened host cli iface e

/-- One socket. -/
theorem opened_one {iface target : Option NetInterface} {fx : Effects}
    (htargets : targets host cli iface = [target]) (hone : ¬ (iface = none ∧ cli.allInterfaces = true))
    (hsweeps : fx.sweeps ≤ 1) (hsockets : fx.sockets = []) :
    Opened host cli iface
      (host.onSocket ((host.socketFor port 0 target).1.map fun _ => 0),
        ⟨fx.sweeps, fx.sockets ++ [(host.socketFor port 0 target).2]⟩) := by
  have hmade : host.socketsFrom port 0 (targets host cli iface) = [host.socketFor port 0 target] := by
    rw [htargets]
    rfl
  cases hfirst : (host.socketFor port 0 target).1 with
  | error e =>
    have hbound : host.boundFrom port 0 (targets host cli iface) = [] := by
      rw [htargets, Host.boundFrom_cons_error hfirst]
      rfl
    refine ⟨hsweeps, ?_, fun hne => absurd hbound hne, fun _ => ⟨_, rfl, .bind hone htargets hfirst⟩⟩
    rw [hmade, hsockets]
    rfl
  | ok u =>
    have hbound : host.boundFrom port 0 (targets host cli iface) = [0] := by
      rw [htargets, Host.boundFrom_cons_ok hfirst]
      rfl
    refine ⟨hsweeps, ?_, fun _ => ?_, fun hnil => ?_⟩
    · rw [hmade, hsockets]
      rfl
    · rw [transportOn, if_neg hone]
      rfl
    · rw [hbound] at hnil
      cases hnil

/-- A socket for every interface. -/
theorem opened_all (hall : cli.allInterfaces = true) :
    Opened host cli none (host.forAllInterfaces port Effects.start) := by
  have htargets : targets host cli none = (enumerate host.net (host.sweep 0)).map some := by
    rw [targets, if_pos hall]
  have hbindAll : host.bindAll port (enumerate host.net (host.sweep 0)) ⟨1, []⟩
      = (host.boundFrom port 0 (targets host cli none),
        ⟨1, (host.socketsFrom port 0 (targets host cli none)).map Prod.snd⟩) := by
    rw [htargets]
    exact Host.bindAll_eq _ _
  rw [Host.forAllInterfaces, bind_apply, Host.enumerate_start]
  cases hempty : (enumerate host.net (host.sweep 0)).isEmpty with
  | true =>
    have hnone : targets host cli none = [] := by
      rw [htargets, List.isEmpty_iff.mp hempty]
      rfl
    refine ⟨Nat.le_refl 1, ?_, fun hne => ?_,
      fun _ => ⟨_, rfl, .noInterfaces ⟨rfl, hall⟩ (List.isEmpty_iff.mp hempty)⟩⟩
    · rw [hnone]
      rfl
    · rw [hnone] at hne
      exact absurd rfl hne
  | false =>
    have hsome : enumerate host.net (host.sweep 0) ≠ [] := by
      intro hnil
      rw [hnil] at hempty
      cases hempty
    simp only [Bool.false_eq_true, if_false, bind_apply, hbindAll]
    cases hbound : (host.boundFrom port 0 (targets host cli none)).isEmpty with
    | true =>
      refine ⟨Nat.le_refl 1, rfl, fun hne => ?_,
        fun hnil => ⟨_, rfl, .noneBound ⟨rfl, hall⟩ hsome hnil⟩⟩
      exact absurd (List.isEmpty_iff.mp hbound) hne
    | false =>
      refine ⟨Nat.le_refl 1, rfl, fun _ => ?_, fun hnil => ?_⟩
      · have htransport : transportOn host cli none (host.boundFrom port 0 (targets host cli none))
            = .inr (host.multi (host.boundFrom port 0 (targets host cli none))) := if_pos ⟨rfl, hall⟩
        rw [htransport]
        rfl
      · rw [hnil] at hbound
        cases hbound

theorem openClient_opened {iface : Option NetInterface} {fx : Effects}
    (h : Resolved host cli.bindInterface iface fx) :
    Opened host cli iface (openClient host cli.allInterfaces port iface fx) := by
  generalize cli.bindInterface = name at h
  cases h with
  | bound found => exact opened_one rfl (by simp) (Nat.le_refl 1) rfl
  | unbound =>
    rw [openClient]
    by_cases hall : cli.allInterfaces = true
    · rw [if_pos hall]
      exact opened_all hall
    · rw [if_neg hall]
      exact opened_one (if_neg hall) (by simp [hall]) (Nat.zero_le 1) rfl

/-- A client that was built is one that was opened. -/
theorem openClient_of_built {allInterfaces : Bool} {retries : Nat} {iface : Option NetInterface}
    {fx fx' : Effects} {client : Client BoxedTransport}
    (h : buildClient texts host allInterfaces retries port iface fx = (.ok client, fx')) :
    ∃ client', openClient host allInterfaces port iface fx = (.ok client', fx') ∧
      client = setRetries retries client' := by
  rw [buildClient, bind_apply] at h
  rcases hopen : openClient host allInterfaces port iface fx with ⟨e | client', fx''⟩
  · rw [hopen] at h
    cases h
  · rw [hopen] at h
    cases h
    exact ⟨client', rfl, rfl⟩

theorem openClient_of_not_built {allInterfaces : Bool} {retries : Nat}
    {iface : Option NetInterface} {fx fx' : Effects} {message : String}
    (h : buildClient texts host allInterfaces retries port iface fx = (.error message, fx')) :
    ∃ e, openClient host allInterfaces port iface fx = (.error e, fx') ∧
      message = e.display texts.printable := by
  rw [buildClient, bind_apply] at h
  rcases hopen : openClient host allInterfaces port iface fx with ⟨e | client', fx''⟩
  · rw [hopen] at h
    cases h
    exact ⟨e, rfl, rfl⟩
  · rw [hopen] at h
    cases h

/-! ## Sockets -/

/-- What `main` does with sockets: it tries each that it is about, and goes on if it gets one. -/
structure Tried (host : Host) (cli : Cli) (r : UInt8 × Console) : Prop where
  /-- Later sweeps would make no difference. -/
  frugal : r.2.effects.sweeps ≤ 1
  /-- An interface that is not usable is a matter for the caller, and nothing is tried. -/
  usage : r.1 = 1 → r.2.effects.sockets = [] ∧ ∃ name, cli.bindInterface = some name ∧
    ∀ iface ∈ enumerate host.net (host.sweep 0), iface.name ≠ name
  /-- Otherwise a socket is tried for each target, as far as it goes. -/
  tried : r.1 ≠ 1 → ∃ iface fx, Resolved host cli.bindInterface iface fx ∧
    ∃ results : List (Except TransportError Unit × List SocketCall),
      r.2.effects.sockets = results.map Prod.snd ∧
      results.length = (targets host cli iface).length ∧
      (∀ k target result, (targets host cli iface)[k]? = some target → results[k]? = some result →
        UdpTransport.Built (host.socket k) host.platform port target result.1 result.2) ∧
      (r.1 = 0 → ∃ result ∈ results, result.1 = .ok ())

theorem Opened.tried {iface : Option NetInterface} {fx : Effects}
    {r : Except OpenError (Client BoxedTransport) × Effects} (h : Opened host cli iface r)
    (hresolved : Resolved host cli.bindInterface iface fx) {code : UInt8} {out err : String}
    (hcode : code ≠ 1) (hok : code = 0 → ∃ client, r.1 = .ok client) :
    Tried host cli (code, ⟨r.2, out, err⟩) where
  frugal := h.sweeps
  usage hone := absurd hone hcode
  tried _ := by
    refine ⟨iface, fx, hresolved, host.socketsFrom port 0 (targets host cli iface), h.sockets,
      ?_, ?_, ?_⟩
    · rw [Host.socketsFrom, List.length_map, List.length_zipIdx]
    · intro k target result htarget hresult
      rw [Host.socketsFrom, List.getElem?_map, List.getElem?_zipIdx, htarget] at hresult
      cases hresult
      rw [Nat.zero_add]
      exact UdpTransport.built_bind _ _ _ _
    · intro hzero
      obtain ⟨client, hclient⟩ := hok hzero
      have hne : host.boundFrom port 0 (targets host cli iface) ≠ [] := by
        intro hnil
        obtain ⟨e, he, _⟩ := h.unbound hnil
        rw [he] at hclient
        cases hclient
      obtain ⟨k, hk⟩ := List.exists_mem_of_ne_nil _ hne
      obtain ⟨x, hx, rfl⟩ := List.mem_map.mp hk
      obtain ⟨hmem, hbound⟩ := List.mem_filter.mp hx
      exact ⟨_, List.mem_map_of_mem hmem, by simpa using hbound⟩

theorem main_tried (hdiscover : cli.command = .discover) :
    Tried host cli (main texts host cli) := by
  have hinvoked : Invoked BoxedTransport.transport (fun _ t => t) texts host cli
      (buildClient texts host cli.allInterfaces cli.retries port) (main texts host cli) :=
    invoked hdiscover
  generalize main texts host cli = r at hinvoked
  cases hinvoked with
  | unresolved bind unknown =>
    exact ⟨Nat.le_refl 1, fun _ => ⟨rfl, _, bind, unknown⟩, fun hne => absurd rfl hne⟩
  | unopened resolved made =>
    obtain ⟨e, hopen, _⟩ := openClient_of_not_built made
    have h := openClient_opened resolved
    rw [hopen] at h
    exact h.tried resolved (by decide) fun hzero => by cases hzero
  | failed resolved made =>
    obtain ⟨client', hopen, _⟩ := openClient_of_built made
    have h := openClient_opened resolved
    rw [hopen] at h
    exact h.tried resolved (by decide) fun hzero => by cases hzero
  | listed resolved made =>
    obtain ⟨client', hopen, _⟩ := openClient_of_built made
    have h := openClient_opened resolved
    rw [hopen] at h
    exact h.tried resolved (by decide) fun _ => ⟨client', rfl⟩

/-! ## One sweep -/

variable {sweep : Nat → List OsInterface}

theorem bindAll_sweep (ifaces : List NetInterface) (fx : Effects) :
    Host.bindAll { host with sweep := sweep } port ifaces fx = host.bindAll port ifaces fx := by
  rw [Host.bindAll_eq, Host.bindAll_eq]
  rfl

theorem enumerate_sweep (h : sweep 0 = host.sweep 0) :
    Host.enumerate { host with sweep := sweep } Effects.start = host.enumerate Effects.start := by
  rw [Host.enumerate, Host.enumerate]
  simp only [Effects.start, h]

theorem resolve_sweep (h : sweep 0 = host.sweep 0) (name : Option String) :
    resolve texts { host with sweep := sweep } name Effects.start
      = resolve texts host name Effects.start := by
  cases name with
  | none => rfl
  | some name => rw [resolve, resolve, bind_apply, bind_apply, enumerate_sweep h]

theorem openClient_sweep (h : sweep 0 = host.sweep 0) {name : Option String}
    {iface : Option NetInterface} {fx : Effects} (hresolved : Resolved host name iface fx)
    (allInterfaces : Bool) :
    openClient { host with sweep := sweep } allInterfaces port iface fx
      = openClient host allInterfaces port iface fx := by
  cases hresolved with
  | bound found => rfl
  | unbound =>
    rw [openClient, openClient]
    cases allInterfaces with
    | false => rfl
    | true =>
      rw [if_pos rfl, if_pos rfl, Host.forAllInterfaces, Host.forAllInterfaces, bind_apply,
        bind_apply, enumerate_sweep h]
      split
      · rfl
      · rw [bind_apply, bind_apply, bindAll_sweep]
        rfl

theorem buildClient_sweep (h : sweep 0 = host.sweep 0) {name : Option String}
    {iface : Option NetInterface} {fx : Effects} (hresolved : Resolved host name iface fx)
    (allInterfaces : Bool) (retries : Nat) :
    buildClient texts { host with sweep := sweep } allInterfaces retries port iface fx
      = buildClient texts host allInterfaces retries port iface fx := by
  rw [buildClient, buildClient, bind_apply, bind_apply, openClient_sweep h hresolved]

/-- **Nothing depends on a second sweep.** -/
theorem main_sweep (hdiscover : cli.command = .discover) (h : sweep 0 = host.sweep 0) :
    main texts { host with sweep := sweep } cli = main texts host cli := by
  have hresolve' : resolve texts { host with sweep := sweep } cli.bindInterface Effects.start
      = resolve texts host cli.bindInterface Effects.start := resolve_sweep h cli.bindInterface
  rw [main, main, invoke, invoke, StateT.run, StateT.run, bind_apply, bind_apply, run, run,
    hdiscover, bind_apply, bind_apply]
  rcases hresolve : resolve texts host cli.bindInterface Effects.start with ⟨e | iface, fx⟩
  · rw [hresolve] at hresolve'
    rw [Console.start, silently_apply hresolve, silently_apply hresolve']
  · have hresolved := resolved_of_resolve hresolve
    rw [hresolve] at hresolve'
    have hbuild : buildClient texts { host with sweep := sweep } cli.allInterfaces cli.retries port
        iface fx = buildClient texts host cli.allInterfaces cli.retries port iface fx :=
      buildClient_sweep h hresolved cli.allInterfaces cli.retries
    rcases hmade : buildClient texts host cli.allInterfaces cli.retries port iface fx with ⟨made, fx'⟩
    rw [hmade] at hbuild
    rw [Console.start, silently_apply hresolve, silently_apply hresolve']
    simp only [discover, bind_apply, silently_apply hmade, silently_apply hbuild]

/-- A factory that looks for the interface once more, by its name. -/
def byName (texts : Texts) (host : Host) (retries : Nat) (name : String) :
    ClientFactory BoxedTransport := fun _ => do
  match ← host.forInterface name port with
  | .error e => return .error (e.display texts.printable)
  | .ok client => return .ok (setRetries retries client)

/-- A client on a first socket, and the calls made for it. -/
theorem forResolvedInterface_start (iface : NetInterface) (sweeps : Nat) :
    host.forResolvedInterface iface port ⟨sweeps, []⟩
      = (host.onSocket ((host.socketFor port 0 (some iface)).1.map fun _ => 0),
        ⟨sweeps, [(host.socketFor port 0 (some iface)).2]⟩) := rfl

/-- Where the two sweeps see the same, so do the two factories. -/
theorem byName_found {name : String} {iface : NetInterface} (h : host.sweep 1 = host.sweep 0)
    (hfound : (enumerate host.net (host.sweep 0)).find? (fun i => i.name = name) = some iface)
    (allInterfaces : Bool) (retries : Nat) : ∃ made calls,
      buildClient texts host allInterfaces retries port (some iface) ⟨1, []⟩ = (made, ⟨1, [calls]⟩) ∧
      byName texts host retries name (some iface) ⟨1, []⟩ = (made, ⟨2, [calls]⟩) := by
  have hagain : host.forInterface name port ⟨1, []⟩ = host.forResolvedInterface iface port ⟨2, []⟩ := by
    rw [Host.forInterface, bind_apply, Host.enumerate]
    simp only [h, hfound]
  rw [buildClient, bind_apply, openClient, byName, bind_apply, hagain, forResolvedInterface_start,
    forResolvedInterface_start]
  simp only
  cases host.onSocket ((host.socketFor port 0 (some iface)).1.map fun _ => 0) with
  | error e => exact ⟨_, _, rfl, rfl⟩
  | ok client => exact ⟨_, _, rfl, rfl⟩

/-- Where the second sweep misses the interface there is no client. -/
theorem byName_lost {name : String}
    (hlost : ∀ iface ∈ enumerate host.net (host.sweep 1), iface.name ≠ name) (retries : Nat)
    (iface : Option NetInterface) : byName texts host retries name iface ⟨1, []⟩
      = (.error ((OpenError.noSuchInterface name).display texts.printable), ⟨2, []⟩) := by
  have hnone : (enumerate host.net (host.sweep 1)).find? (fun i => i.name = name) = none := by
    simpa using hlost
  have hagain : host.forInterface name port ⟨1, []⟩ = (.error (.noSuchInterface name), ⟨2, []⟩) := by
    rw [Host.forInterface, bind_apply, Host.enumerate]
    simp only [hnone]
    rfl
  rw [byName, bind_apply, hagain]
  rfl

/-- **Looking twice** is no better: a process that went by the name to open its socket would do and
print the same where the interface is still there, and where it is gone by then it would fail in
another way than for an interface that was never usable. -/
theorem main_byName (texts : Texts) (host : Host) {cli : Cli} (hdiscover : cli.command = .discover)
    {name : String} (hbind : cli.bindInterface = some name) :
    let r := main texts host cli
    let r' := invoke BoxedTransport.transport (fun _ t => t) texts host cli
      (byName texts host cli.retries name)
    (host.sweep 1 = host.sweep 0 → r'.1 = r.1 ∧ r'.2.stdout = r.2.stdout ∧
      r'.2.messages = r.2.messages ∧ r'.2.effects.sockets = r.2.effects.sockets) ∧
    ((∃ iface ∈ enumerate host.net (host.sweep 0), iface.name = name) →
      (∀ iface ∈ enumerate host.net (host.sweep 1), iface.name ≠ name) →
      r.1 ≠ 1 ∧ r'.1 = 2 ∧ r'.2.effects.sockets = []) := by
  intro r r'
  have hr : r = invoke BoxedTransport.transport (fun _ t => t) texts host cli
    (buildClient texts host cli.allInterfaces cli.retries port) := rfl
  have hr' : r' = invoke BoxedTransport.transport (fun _ t => t) texts host cli
    (byName texts host cli.retries name) := rfl
  rcases hresolve : resolve texts host cli.bindInterface Effects.start with ⟨e | iface, fx⟩
  · -- neither looks again
    have hsame : r' = r := by rw [hr', hr, invoke_unresolved hresolve, invoke_unresolved hresolve]
    refine ⟨fun _ => by rw [hsame]; exact ⟨rfl, rfl, rfl, rfl⟩, ?_⟩
    rintro ⟨iface, hiface, hname⟩
    obtain ⟨name', hbind', hunknown, _⟩ := unknown_of_resolve hresolve
    cases hbind.symm.trans hbind'
    exact absurd hname (hunknown iface hiface)
  · have hresolved := resolved_of_resolve hresolve
    rw [hbind] at hresolved
    cases hresolved with
    | bound hfound =>
      refine ⟨?_, ?_⟩
      · intro hsweep
        obtain ⟨made, calls, hmade, hmade'⟩ :=
          byName_found hsweep hfound cli.allInterfaces cli.retries
        rw [hr, hr', invoke_made hdiscover hresolve hmade, invoke_made hdiscover hresolve hmade']
        exact ⟨rfl, rfl, rfl, rfl⟩
      · intro _ hlost
        rcases hmade : buildClient texts host cli.allInterfaces cli.retries port _ ⟨1, []⟩
          with ⟨made, fx'⟩
        rw [hr, hr', invoke_made hdiscover hresolve hmade,
          invoke_made hdiscover hresolve (byName_lost hlost cli.retries _)]
        exact ⟨ending_ne_one, rfl, rfl⟩

/-- **The process and its sockets.** -/
theorem main_sockets (texts : Texts) (host : Host) {cli : Cli} (hdiscover : cli.command = .discover) :
    Tried host cli (main texts host cli) ∧ ∀ sweep : Nat → List OsInterface,
      sweep 0 = host.sweep 0 → main texts { host with sweep := sweep } cli = main texts host cli :=
  ⟨main_tried hdiscover, fun _ h => main_sweep hdiscover h⟩

/-! ## What is heard -/

theorem sum_left {σ τ : Type} (T : Transport σ) (T' : Transport τ) :
    T.Simulates (T.sum T') fun s t => t = .inl s where
  send := by
    rintro packet s _ rfl
    exact ⟨rfl, rfl⟩
  recv := by
    rintro s _ rfl
    exact ⟨rfl, rfl⟩

theorem sum_right {σ τ : Type} (T : Transport σ) (T' : Transport τ) :
    T'.Simulates (T.sum T') fun s t => t = .inr s where
  send := by
    rintro packet s _ rfl
    exact ⟨rfl, rfl⟩
  recv := by
    rintro s _ rfl
    exact ⟨rfl, rfl⟩

/-- The datagrams before anything else happens on a socket. -/
def heard : List SocketEvent → List Datagram
  | .datagram bytes ip :: events => (bytes.take recvBuf, ipText ip) :: heard events
  | _ => []

theorem drain_heard (sends : List (Except TransportError Unit)) (events : List SocketEvent) :
    (Script.transport.drain ⟨sends, events.map SocketEvent.raw⟩).1 = heard events := by
  induction events with
  | nil =>
    rw [Transport.drain_eq]
    rfl
  | cons event events ih =>
    rw [Transport.drain_eq]
    cases event with
    | cancelled => rfl
    | error message => rfl
    | datagram bytes ip => exact congrArg ((bytes.take recvBuf, ipText ip) :: ·) ih

/-- The MACs of a registry are those that were announced. -/
theorem mem_macs_iff {ds : List Datagram} {mac : Mac} :
    mac ∈ (ds.foldl Registry.handleDiscoveryReply Registry.empty).devices.map Device.mac
      ↔ ∃ d ∈ ds, ∃ device, Announces d mac device := by
  have hget := get?_foldl_handleDiscoveryReply Registry.empty ds mac
  rw [show Registry.empty.byMac.get? mac = none from rfl, Option.or_none] at hget
  have hknown : mac ∈ (ds.foldl Registry.handleDiscoveryReply Registry.empty).devices.map Device.mac
      ↔ lastAnnounced ds mac ≠ none := by
    rw [List.mem_map, ← hget, Option.ne_none_iff_exists']
    constructor
    · rintro ⟨device, hdevice, rfl⟩
      exact ⟨device, mem_devices.mp hdevice⟩
    · rintro ⟨device, hdevice⟩
      have hmac := (ds.foldl Registry.handleDiscoveryReply Registry.empty).keyed mac device hdevice
      exact ⟨device, mem_devices.mpr (by rw [hmac]; exact hdevice), hmac⟩
  rw [hknown, ne_eq, lastAnnounced_eq_none_iff]
  push Not
  rfl

/-- A script of what was heard: that is what is found. -/
theorem discover_script {c : Client Script} {events : List SocketEvent}
    (hrecvs : c.session.transport.recvs = events.map SocketEvent.raw)
    (hok : (c.discover Script.transport).1 = .ok ()) :
    (c.discover Script.transport).2.devices
      = (heard events).foldl Registry.handleDiscoveryReply c.devices := by
  have hkeeps : ∀ packet (s : Script), s.recvs = events.map SocketEvent.raw →
      (Script.transport.send packet s).2.recvs = events.map SocketEvent.raw := by
    rintro packet ⟨sends, recvs⟩ hs
    cases sends with
    | nil => exact hs
    | cons result rest => exact hs
  have hsent : (c.sendDiscovery Script.transport).2.transport.recvs = events.map SocketEvent.raw :=
    Session.sendRetried_keeps hkeeps _ hrecvs
  rcases hsend : c.sendDiscovery Script.transport with ⟨e | u, s₁⟩
  · rw [Client.discover_of_error Script.transport hsend] at hok
    cases hok
  · rw [hsend] at hsent
    have hs : s₁.transport = ⟨s₁.transport.sends, events.map SocketEvent.raw⟩ := by rw [← hsent]
    rw [Client.discover_eq Script.transport hsend, hs, drain_heard]

/-- One socket: what is found is what was heard. -/
theorem discover_one {socket : UdpSocket} {retries : Nat}
    (hok : ((Client.new (.inl socket : BoxedTransport) retries).discover
      BoxedTransport.transport).1 = .ok ()) (mac : Mac) :
    mac ∈ ((Client.new (.inl socket : BoxedTransport) retries).discover
        BoxedTransport.transport).2.devices.devices.map Device.mac
      ↔ ∃ d ∈ heard socket.events, ∃ device, Announces d mac device := by
  have hboxed : Session.Alike (fun (s : UdpSocket) (t : BoxedTransport) => t = .inl s)
      (Client.new socket retries).session
      (Client.new (.inl socket : BoxedTransport) retries).session := ⟨rfl, rfl, rfl⟩
  obtain ⟨hresult, hdevices, _⟩ :=
    discover_alike ((sum_left UdpSocket.transport MultiSocket.transport).agrees fun _ => False)
      hboxed rfl
  -- the same with a script in place of the socket
  obtain ⟨hresult', hdevices'⟩ := discover_unfiltered socket retries
  have hok' := (hresult'.trans hresult.symm).trans hok
  rw [BoxedTransport.transport, hdevices, ← hdevices', discover_script rfl hok']
  exact mem_macs_iff

/-- Several sockets as one: what is found arrived at one of them. -/
theorem discover_several {n retries : Nat} {sends : List (Except TransportError Unit)}
    {events : List MultiEvent} (mac : Mac)
    (hmac : mac ∈ ((Client.new (.inr ⟨.start n, sends, events⟩ : BoxedTransport) retries).discover
        BoxedTransport.transport).2.devices.devices.map Device.mac) :
    ∃ child < n, ∃ d ∈ arrivals child events, ∃ device, Announces d mac device := by
  have hboxed : Session.Alike (fun (s : MultiSocket) (t : BoxedTransport) => t = .inr s)
      (Client.new (⟨.start n, sends, events⟩ : MultiSocket) retries).session
      (Client.new (.inr ⟨.start n, sends, events⟩ : BoxedTransport) retries).session :=
    ⟨rfl, rfl, rfl⟩
  obtain ⟨_, hdevices, _⟩ :=
    discover_alike ((sum_right UdpSocket.transport MultiSocket.transport).agrees fun _ => False)
      hboxed rfl
  obtain ⟨happened, ran, hevents, hrun, harrivals, hfound, _⟩ := discover_ran n retries sends events
  rw [BoxedTransport.transport, hdevices, hfound] at hmac
  obtain ⟨device, hdevice, rfl⟩ := List.mem_map.mp hmac
  obtain ⟨child, hchild, d, hd, hannounces⟩ := (Kept.foundOn hrun).sound device hdevice
  refine ⟨child, hchild, d, ?_, device, hannounces⟩
  rw [hevents, arrivals_append, harrivals child hchild]
  exact List.mem_append_left _ hd

/-- What is listed was heard. -/
structure Heard (host : Host) (cli : Cli) (macs : List Mac) : Prop where
  /-- On one socket that is all there is to it. -/
  one : cli.bindInterface ≠ none ∨ cli.allInterfaces = false → ∀ mac, mac ∈ macs ↔
    ∃ d ∈ heard (host.traffic 0).events, ∃ device, Announces d mac device
  /-- On several, some of them may fail. -/
  several : cli.bindInterface = none → cli.allInterfaces = true → ∀ mac ∈ macs,
    let bound := host.boundFrom port 0 (targets host cli none)
    ∃ child < bound.length, ∃ d ∈ arrivals child (host.shared bound).2,
      ∃ device, Announces d mac device

/-- What was opened has a socket. -/
theorem Opened.bound_of_ok {iface : Option NetInterface} {fx : Effects}
    {client : Client BoxedTransport} (h : Opened host cli iface (.ok client, fx)) :
    host.boundFrom port 0 (targets host cli iface) ≠ [] := by
  intro hnil
  obtain ⟨e, he, _⟩ := h.unbound hnil
  cases he

/-- and what was not has none. -/
theorem Opened.unopened_of_error {iface : Option NetInterface} {fx : Effects} {e : OpenError}
    (h : Opened host cli iface (.error e, fx)) : Unopened host cli iface e := by
  by_cases hnil : host.boundFrom port 0 (targets host cli iface) = []
  · obtain ⟨e', he, hunopened⟩ := h.unbound hnil
    cases he
    exact hunopened
  · cases h.bound hnil

theorem Resolved.eq_none_iff {iface : Option NetInterface} {fx : Effects}
    (h : Resolved host cli.bindInterface iface fx) : iface = none ↔ cli.bindInterface = none := by
  generalize cli.bindInterface = name at h
  cases h <;> simp

/-- A client that has been opened and has discovered what there is. -/
theorem heard_of_opened {iface : Option NetInterface} {fx fx' : Effects}
    {client : Client BoxedTransport} (hresolved : Resolved host cli.bindInterface iface fx)
    (hopened : Opened host cli iface (.ok client, fx'))
    (hok : ((setRetries cli.retries client).discover BoxedTransport.transport).1 = .ok ()) :
    Heard host cli (((setRetries cli.retries client).discover
      BoxedTransport.transport).2.devices.devices.map Device.mac) := by
  obtain rfl := Except.ok.inj (hopened.bound hopened.bound_of_ok)
  have hname := hresolved.eq_none_iff
  refine ⟨?_, ?_⟩
  · intro hone mac
    have hnot : ¬ (iface = none ∧ cli.allInterfaces = true) := by
      rintro ⟨hiface, hall⟩
      rcases hone with h | h
      · exact h (hname.mp hiface)
      · rw [hall] at h
        cases h
    rw [transportOn, if_neg hnot] at hok ⊢
    exact discover_one hok mac
  · intro hbind hall mac hmac
    obtain rfl := hname.mpr hbind
    rw [transportOn, if_pos ⟨rfl, hall⟩] at hmac
    exact discover_several mac hmac

/-- What a process that fails has to say, with its exit code. -/
inductive Complaint (texts : Texts) (host : Host) (cli : Cli) : UInt8 → String → Prop
  | unusable {name : String} (bind : cli.bindInterface = some name)
      (unknown : ∀ iface ∈ enumerate host.net (host.sweep 0), iface.name ≠ name) :
      Complaint texts host cli 1
        ("--bind-interface: " ++ debugString texts.printable name ++ " " ++ notUsableReason)
  /-- The one socket that is wanted cannot be had. -/
  | bind {iface target : Option NetInterface} {fx : Effects} {source : TransportError}
      (resolved : Resolved host cli.bindInterface iface fx)
      (one : ¬ (cli.bindInterface = none ∧ cli.allInterfaces = true))
      (only : targets host cli iface = [target])
      (unbound : (host.socketFor port 0 target).1 = .error source) :
      Complaint texts host cli 2 ("bind: " ++ source.display)
  | noInterfaces (all : cli.bindInterface = none ∧ cli.allInterfaces = true)
      (unusable : enumerate host.net (host.sweep 0) = []) :
      Complaint texts host cli 2 "no usable interfaces found"
  | noneBound (all : cli.bindInterface = none ∧ cli.allInterfaces = true)
      (usable : enumerate host.net (host.sweep 0) ≠ [])
      (unbound : host.boundFrom port 0 (targets host cli none) = []) :
      Complaint texts host cli 2 "failed to bind on any usable interface"
  /-- There are sockets, and discovery fails on them. -/
  | failed {iface : Option NetInterface} {fx : Effects} {e : ClientError}
      (resolved : Resolved host cli.bindInterface iface fx)
      (bound : host.boundFrom port 0 (targets host cli iface) ≠ [])
      (fails : ((Client.new (transportOn host cli iface
        (host.boundFrom port 0 (targets host cli iface))) cli.retries).discover
          BoxedTransport.transport).1 = .error e) :
      Complaint texts host cli 2 "discovery failed"

theorem Unopened.complaint {iface : Option NetInterface} {fx : Effects} {e : OpenError}
    (h : Unopened host cli iface e) (hresolved : Resolved host cli.bindInterface iface fx)
    (texts : Texts) : Complaint texts host cli 2 (e.display texts.printable) := by
  have hname := hresolved.eq_none_iff
  cases h with
  | bind one only unbound =>
    exact .bind hresolved (fun hall => one ⟨hname.mpr hall.1, hall.2⟩) only unbound
  | noInterfaces all unusable => exact .noInterfaces ⟨hname.mp all.1, all.2⟩ unusable
  | noneBound all usable unbound =>
    rw [all.1] at unbound
    exact .noneBound ⟨hname.mp all.1, all.2⟩ usable unbound

/-- **What the process prints**: an error and nothing else, or the devices that it has heard. -/
theorem main_lists (texts : Texts) (host : Host) {cli : Cli} (hdiscover : cli.command = .discover) :
    let r := main texts host cli
    (r.1 = 0 ∧ ∃ macs, Listing texts cli.timeout r.2 macs ∧ Heard host cli macs) ∨
    ∃ message, Complaint texts host cli r.1 message ∧ r.2.stdout = "" ∧
      r.2.messages = "error: " ++ message ++ "\n" := by
  intro r
  have hinvoked : Invoked BoxedTransport.transport (fun _ t => t) texts host cli
      (buildClient texts host cli.allInterfaces cli.retries port) r := invoked hdiscover
  generalize r = r at hinvoked
  cases hinvoked with
  | unresolved bind unknown => exact .inr ⟨_, .unusable bind unknown, rfl, rfl⟩
  | unopened resolved made =>
    obtain ⟨e, hopen, rfl⟩ := openClient_of_not_built made
    have hopened := openClient_opened resolved
    rw [hopen] at hopened
    exact .inr ⟨_, hopened.unopened_of_error.complaint resolved texts, rfl, rfl⟩
  | failed resolved made discovered =>
    obtain ⟨client', hopen, rfl⟩ := openClient_of_built made
    have hopened := openClient_opened resolved
    rw [hopen] at hopened
    obtain rfl := Except.ok.inj (hopened.bound hopened.bound_of_ok)
    exact .inr ⟨"discovery failed", .failed resolved hopened.bound_of_ok discovered, rfl, rfl⟩
  | listed resolved made discovered =>
    obtain ⟨client', hopen, rfl⟩ := openClient_of_built made
    have hopened := openClient_opened resolved
    rw [hopen] at hopened
    have hok : ((setRetries cli.retries client').discover BoxedTransport.transport).1 = .ok () :=
      discovered
    have hheard := heard_of_opened resolved hopened hok
    exact .inl ⟨rfl, _, listing_listed texts cli.timeout _ _, hheard⟩

/-! ## One run -/

/-- `udapcfg --bind-interface en0 discover`. -/
def discoverOnce : Cli := ⟨2000000000, 0, some "en0", false, .discover⟩

example : (main plainTexts quietHost discoverOnce).1 = 0 := by decide +kernel

theorem main_sockets_quiet : Tried quietHost discoverOnce (main plainTexts quietHost discoverOnce) ∧
    ∀ sweep : Nat → List OsInterface, sweep 0 = quietHost.sweep 0 →
      main plainTexts { quietHost with sweep := sweep } discoverOnce
        = main plainTexts quietHost discoverOnce :=
  main_sockets plainTexts quietHost rfl

/-- A host whose interface is there at the first sweep only. -/
def fleetingHost : Host :=
  { quietHost with sweep := fun k => if k = 0 then quietHost.sweep 0 else [] }

/-- Where `en0` is there at every sweep, and where it is gone at the second. -/
theorem main_byName_fleeting :
    let again := fun host : Host => invoke BoxedTransport.transport (fun _ t => t) plainTexts host
      discoverOnce (byName plainTexts host discoverOnce.retries "en0")
    ((again quietHost).1 = (main plainTexts quietHost discoverOnce).1 ∧
      (again quietHost).2.stdout = (main plainTexts quietHost discoverOnce).2.stdout ∧
      (again quietHost).2.messages = (main plainTexts quietHost discoverOnce).2.messages ∧
      (again quietHost).2.effects.sockets
        = (main plainTexts quietHost discoverOnce).2.effects.sockets) ∧
    (main plainTexts fleetingHost discoverOnce).1 = 0 ∧
    (main plainTexts fleetingHost discoverOnce).1 ≠ 1 ∧ (again fleetingHost).1 = 2 ∧
      (again fleetingHost).2.effects.sockets = [] := by
  intro again
  have hdiscover : discoverOnce.command = .discover := rfl
  refine ⟨(main_byName plainTexts quietHost hdiscover rfl).1 rfl, by decide +kernel, ?_⟩
  refine (main_byName plainTexts fleetingHost hdiscover rfl).2 ⟨⟨"en0", 4, ⟨192, 168, 1, 50⟩,
    ⟨192, 168, 1, 50⟩⟩, by decide, rfl⟩ ?_
  intro iface hiface
  cases hiface

/-- Where it is not there at all, and where it is. -/
theorem main_lists_quiet :
    let unplugged : Host := { quietHost with sweep := fun _ => [] }
    ∀ host ∈ [quietHost, unplugged],
      let r := main plainTexts host discoverOnce
      (r.1 = 0 ∧ ∃ macs, Listing plainTexts discoverOnce.timeout r.2 macs ∧
        Heard host discoverOnce macs) ∨
      ∃ message, Complaint plainTexts host discoverOnce r.1 message ∧ r.2.stdout = "" ∧
        r.2.messages = "error: " ++ message ++ "\n" := by
  intro unplugged host _
  exact main_lists plainTexts host rfl

end UdapCli
