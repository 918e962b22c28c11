import Udapcfg.Cli.Run
import Udapcfg.Infra.Lines
import Udapcfg.Properties.Discovery
import Udapcfg.Properties.MacText
import Udapcfg.Properties.Sockets

/-!
# Invocations

What an invocation of `udapcfg discover` comes to, whatever transport its client is on.

* `Invoked` — the four ways it can end, `invoked` — there are no others
* `Listing` — what it prints when devices were looked for: their MACs in order, or a note
-/

namespace UdapCli

open Infra Udap

/-! ## Printing -/

theorem unlines_cons (line : String) (ls : List String) :
    unlines (line :: ls) = line ++ "\n" ++ unlines ls := by
  rw [unlines, List.map_cons, String.join_cons]
  rfl

theorem silently_apply {α : Type} {process : Process α} {fx fx' : Effects} {a : α}
    (h : process fx = (a, fx')) (out err : String) :
    silently process ⟨fx, out, err⟩ = (a, ⟨fx', out, err⟩) := by
  rw [silently, h]

theorem eprintln_eq (line : String) (console : Console) : eprintln line console
    = ((), { console with messages := console.messages ++ line ++ "\n" }) := rfl

theorem forM_println {α : Type} (text : α → String) (as : List α) (console : Console) :
    (as.forM fun a => println (text a)) console
      = ((), { console with stdout := console.stdout ++ unlines (as.map text) }) := by
  induction as generalizing console with
  | nil =>
    rw [show unlines ([].map text) = "" from rfl, String.append_empty]
    rfl
  | cons a as ih =>
    rw [List.map_cons, unlines_cons, ← String.append_assoc, ← String.append_assoc]
    exact ih { console with stdout := console.stdout ++ text a ++ "\n" }

variable {σ : Type} {T : Transport σ} {timer : Timer σ} {texts : Texts} {host : Host} {cli : Cli}
  {makeClient : ClientFactory σ}

/-- What goes to `stderr` when nothing was found. -/
def note (texts : Texts) (timeout : Int64) : String :=
  "no devices found within " ++ texts.duration timeout ++ "\n"

/-- What `discover` writes about some devices. -/
def listed (texts : Texts) (timeout : Int64) (devices : List Device) (effects : Effects) : Console :=
  ⟨effects, unlines (devices.map fun device => device.mac.format),
    if devices = [] then note texts timeout else ""⟩

theorem printDevices_eq (timeout : Int64) (devices : List Device) (effects : Effects) :
    printDevices texts timeout devices ⟨effects, "", ""⟩
      = ((), listed texts timeout devices effects) := by
  rw [printDevices, listed]
  cases devices with
  | nil =>
    rw [List.isEmpty_nil, if_pos rfl, if_pos rfl, eprintln_eq, String.empty_append]
    rfl
  | cons device devices =>
    rw [if_neg (by simp), if_neg (by simp)]
    have h := forM_println (fun device : Device => device.mac.format) (device :: devices)
      ⟨effects, "", ""⟩
    rwa [String.empty_append] at h

/-! ## Ends -/

/-- What `--bind-interface` comes to before anything else is done. -/
inductive Resolved (host : Host) : Option String → Option NetInterface → Effects → Prop
  | unbound : Resolved host none none Effects.start
  | bound {name : String} {iface : NetInterface}
      (found : (enumerate host.net (host.sweep 0)).find? (fun i => i.name = name) = some iface) :
      Resolved host (some name) (some iface) ⟨1, []⟩

/-- How `udapcfg discover` ends: with an exit code, and with something done and written. -/
inductive Invoked (T : Transport σ) (timer : Timer σ) (texts : Texts) (host : Host) (cli : Cli)
    (makeClient : ClientFactory σ) : UInt8 × Console → Prop
  /-- No usable interface has the name. -/
  | unresolved {name : String} (bind : cli.bindInterface = some name)
      (unknown : ∀ iface ∈ enumerate host.net (host.sweep 0), iface.name ≠ name) :
      Invoked T timer texts host cli makeClient
        (1, ⟨⟨1, []⟩, "", "error: " ++ (notUsable texts name).source ++ "\n"⟩)
  /-- There is no client. -/
  | unopened {iface : Option NetInterface} {fx fx' : Effects} {e : String}
      (resolved : Resolved host cli.bindInterface iface fx)
      (made : makeClient iface fx = (.error e, fx')) :
      Invoked T timer texts host cli makeClient (2, ⟨fx', "", "error: " ++ e ++ "\n"⟩)
  /-- The client fails. -/
  | failed {iface : Option NetInterface} {fx fx' : Effects} {client : Client σ} {e : ClientError}
      (resolved : Resolved host cli.bindInterface iface fx)
      (made : makeClient iface fx = (.ok client, fx'))
      (discovered : ((withToken timer cli.timeout client).discover T).1 = .error e) :
      Invoked T timer texts host cli makeClient (2, ⟨fx', "", "error: discovery failed\n"⟩)
  /-- The client has discovered what there is. -/
  | listed {iface : Option NetInterface} {fx fx' : Effects} {client : Client σ}
      (resolved : Resolved host cli.bindInterface iface fx)
      (made : makeClient iface fx = (.ok client, fx'))
      (discovered : ((withToken timer cli.timeout client).discover T).1 = .ok ()) :
      Invoked T timer texts host cli makeClient
        (0, listed texts cli.timeout
          ((withToken timer cli.timeout client).discover T).2.devices.devices fx')

theorem exitCode_error {e : CliError} {code : UInt8} (h : (if e.code = 1 then 1 else 2) = code)
    (fx : Effects) :
    exitCode (.error e) ⟨fx, "", ""⟩ = (code, ⟨fx, "", "error: " ++ e.source ++ "\n"⟩) := by
  rw [exitCode, bind_apply, eprintln_eq, String.empty_append, ← h]
  rfl

theorem invoke_eq {result : Except CliError Unit} {console : Console}
    (h : run T timer texts host cli makeClient Console.start = (result, console)) :
    invoke T timer texts host cli makeClient = exitCode result console := by
  rw [invoke, StateT.run, bind_apply, h]

/-- How it ends once it is known whether there is a client: the exit code, and what is written. -/
def ending (T : Transport σ) (timer : Timer σ) (texts : Texts) (timeout : Int64) :
    Except String (Client σ) → UInt8 × String × String
  | .error e => (2, "", "error: " ++ e ++ "\n")
  | .ok client =>
    let found := (withToken timer timeout client).discover T
    match found.1 with
    | .error _ => (2, "", "error: discovery failed\n")
    | .ok () => (0, unlines (found.2.devices.devices.map fun device => device.mac.format),
        if found.2.devices.devices = [] then note texts timeout else "")

theorem ending_ne_one {timeout : Int64} {made : Except String (Client σ)} :
    (ending T timer texts timeout made).1 ≠ 1 := by
  cases made with
  | error e => exact (by decide : (2 : UInt8) ≠ 1)
  | ok client =>
    rw [ending]
    cases ((withToken timer timeout client).discover T).1 with
    | error e => exact (by decide : (2 : UInt8) ≠ 1)
    | ok u => exact (by decide : (0 : UInt8) ≠ 1)

/-- Once the interface is known, all depends on the client, and nothing more is done. -/
theorem invoke_made (hdiscover : cli.command = .discover) {iface : Option NetInterface}
    {fx fx' : Effects} {made : Except String (Client σ)}
    (hresolve : resolve texts host cli.bindInterface Effects.start = (.ok iface, fx))
    (hmade : makeClient iface fx = (made, fx')) :
    let e := ending T timer texts cli.timeout made
    invoke T timer texts host cli makeClient = (e.1, ⟨fx', e.2.1, e.2.2⟩) := by
  have hrun : run T timer texts host cli makeClient Console.start
      = discover T timer texts makeClient iface cli.timeout ⟨fx, "", ""⟩ := by
    rw [run, hdiscover, bind_apply, Console.start, silently_apply hresolve]
  rw [discover, bind_apply, silently_apply hmade] at hrun
  cases made with
  | error e =>
    rw [invoke_eq hrun, exitCode_error rfl]
    rfl
  | ok client =>
    rcases hfound : (withToken timer cli.timeout client).discover T with ⟨e | u, client'⟩
    · simp only [hfound] at hrun
      rw [invoke_eq hrun, exitCode_error rfl]
      simp only [ending, hfound]
      rfl
    · simp only [hfound, bind_apply, printDevices_eq] at hrun
      rw [invoke_eq hrun]
      simp only [ending, hfound]
      rfl

/-- Once the interface is known. -/
theorem invoked_of_resolve (hdiscover : cli.command = .discover) {iface : Option NetInterface}
    {fx : Effects}
    (hresolve : resolve texts host cli.bindInterface Effects.start = (.ok iface, fx))
    (hresolved : Resolved host cli.bindInterface iface fx) :
    Invoked T timer texts host cli makeClient (invoke T timer texts host cli makeClient) := by
  rcases hmade : makeClient iface fx with ⟨e | client, fx'⟩
  · rw [invoke_made hdiscover hresolve hmade]
    exact .unopened hresolved hmade
  · rw [invoke_made hdiscover hresolve hmade, ending]
    rcases hfound : ((withToken timer cli.timeout client).discover T).1 with e | u
    · simp only
      exact .failed hresolved hmade hfound
    · exact .listed hresolved hmade hfound

/-- An interface that was resolved. -/
theorem resolved_of_resolve {name : Option String} {iface : Option NetInterface} {fx : Effects}
    (h : resolve texts host name Effects.start = (.ok iface, fx)) : Resolved host name iface fx := by
  cases name with
  | none =>
    cases h
    exact .unbound
  | some name =>
    rw [resolve, bind_apply, Host.enumerate_start] at h
    cases hfind : (enumerate host.net (host.sweep 0)).find? fun i => i.name = name with
    | none =>
      simp only [hfind] at h
      cases h
    | some found =>
      simp only [hfind] at h
      cases h
      exact .bound hfind

/-- A name that was not. -/
theorem unknown_of_resolve {name : Option String} {e : CliError} {fx : Effects}
    (h : resolve texts host name Effects.start = (.error e, fx)) : ∃ n, name = some n ∧
      (∀ iface ∈ enumerate host.net (host.sweep 0), iface.name ≠ n) ∧ e = notUsable texts n ∧
      fx = ⟨1, []⟩ := by
  cases name with
  | none => cases h
  | some name =>
    rw [resolve, bind_apply, Host.enumerate_start] at h
    cases hfind : (enumerate host.net (host.sweep 0)).find? fun i => i.name = name with
    | none =>
      simp only [hfind] at h
      cases h
      exact ⟨name, rfl, by simpa using hfind, rfl, rfl⟩
    | some found =>
      simp only [hfind] at h
      cases h

/-- Where the interface is not known nothing else is done. -/
theorem invoke_unresolved {e : CliError} {fx : Effects}
    (hresolve : resolve texts host cli.bindInterface Effects.start = (.error e, fx)) :
    invoke T timer texts host cli makeClient = exitCode (.error e) ⟨fx, "", ""⟩ := by
  refine invoke_eq ?_
  rw [run, bind_apply, Console.start, silently_apply hresolve]
  rfl

/-- **Every invocation** ends in one of these ways. -/
theorem invoked (hdiscover : cli.command = .discover) :
    Invoked T timer texts host cli makeClient (invoke T timer texts host cli makeClient) := by
  rcases hresolve : resolve texts host cli.bindInterface Effects.start with ⟨e | iface, fx⟩
  · obtain ⟨name, hbind, hunknown, rfl, rfl⟩ := unknown_of_resolve hresolve
    rw [invoke_unresolved hresolve, exitCode_error rfl]
    exact .unresolved hbind hunknown
  · exact invoked_of_resolve hdiscover hresolve (resolved_of_resolve hresolve)

/-! ## Lists of MACs -/

theorem newline_notMem_format (mac : Mac) : '\n' ∉ mac.format.toList := by
  have hdigit : ∀ n < 16, hexDigit n ≠ '\n' := by decide
  rw [Mac.format, String.toList_ofList, List.mem_flatMap]
  rintro ⟨⟨b, i⟩, _, hmem⟩
  have hb : b.toNat < 256 := b.toNat_lt
  replace hmem : '\n' ∈ (if 0 < i then [':'] else []) ++ hexByte b := hmem
  rcases List.mem_append.mp hmem with hcolon | hbyte
  · split at hcolon
    · simp at hcolon
    · cases hcolon
  · rw [hexByte] at hbyte
    rcases List.mem_pair.mp hbyte with h | h
    · exact hdigit _ (by omega) h.symm
    · exact hdigit _ (by omega) h.symm

/-- What has been written lists some MACs. -/
structure Listing (texts : Texts) (timeout : Int64) (console : Console) (macs : List Mac) : Prop where
  /-- Each is listed once, in order, -/
  sorted : macs.Pairwise (· < ·)
  /-- on a line of its own, -/
  stdout : console.stdout = unlines (macs.map Mac.format)
  /-- which can be read back. -/
  parsed : (lines console.stdout).map Mac.fromStr = macs.map .ok
  /-- There is a note if none is listed, and only then. -/
  messages : console.messages = if macs = [] then note texts timeout else ""

theorem listing_listed (texts : Texts) (timeout : Int64) (r : Registry) (fx : Effects) :
    Listing texts timeout (listed texts timeout r.devices fx) (r.devices.map Device.mac) where
  sorted := devices_sorted r
  stdout := by
    rw [List.map_map]
    rfl
  parsed := by
    have hlines : lines (listed texts timeout r.devices fx).stdout
        = (r.devices.map Device.mac).map Mac.format := by
      rw [List.map_map]
      refine lines_unlines ?_
      intro line hline
      obtain ⟨device, _, rfl⟩ := List.mem_map.mp hline
      exact newline_notMem_format device.mac
    rw [hlines, List.map_map]
    exact List.map_congr_left fun mac _ => Mac.fromStr_format mac
  messages := by simp [listed]

/-! ## A host -/

/-- A host with one interface, and a device that answers on its socket. -/
def quietHost : Host where
  platform := ⟨true, true⟩
  net := fun addr _ => some addr
  sweep := fun _ => [⟨"en0", 4, true, true, false, [(⟨192, 168, 1, 50⟩, 24)]⟩]
  socket := fun _ _ => .ok ()
  traffic := fun _ => ⟨[], [.datagram (Mocksbr.discoveryResponse ((⟨(), 0, 0⟩ : Session Unit).header
    Mac.zero Method.advDisc true).1 (.defaultWithMac (Mac.auto 1))) ⟨192, 168, 1, 2⟩, .cancelled]⟩
  shared := fun _ => ([], [])

def plainTexts : Texts := ⟨fun _ => true, fun timeout => toString timeout.toInt⟩

end UdapCli
