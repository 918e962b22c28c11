import Udapcfg.Cli.Output

/-!
# The command line

`udap-cli`: what `udapcfg` does once its arguments are parsed. `discover` and `run` are given the
factory of their client, as in the source, and with it whatever transport that is on.

The timer that fires the token of a discovery is spawned here, and what a transport makes of it is
for the transport to say: a `Timer`.
-/

namespace UdapCli

open Infra Udap

/-- `Command`. -/
inductive Command where
  | discover
  | interfaces
deriving DecidableEq

/-- `Cli`. The timeout is a `GoDuration`, which is a signed number of nanoseconds. -/
structure Cli where
  timeout : Int64
  retries : Nat
  bindInterface : Option String
  allInterfaces : Bool
  command : Command
deriving DecidableEq

/-- `CliError`. Of its source only the text is ever looked at. -/
structure CliError where
  code : Int32
  source : String
deriving DecidableEq

/-- How other code prints: the characters of a string in `{:?}`, and a `GoDuration`. -/
structure Texts where
  printable : Char → Bool
  duration : Int64 → String

/-- `ClientFactory`. -/
abbrev ClientFactory (σ : Type) := Option NetInterface → Process (Except String (Client σ))

/-- A transport that is received from with a token that fires so many nanoseconds from now. -/
abbrev Timer (σ : Type) := Nat → σ → σ

/-! ## Commands -/

/-- `wait_duration`. What is negative is no time at all. -/
def waitDuration (timeout : Int64) : Nat := timeout.toInt.toNat

variable {σ : Type} (T : Transport σ) (timer : Timer σ) (texts : Texts) (host : Host)

/-- The client, once its token is on its way. -/
def withToken (timeout : Int64) (client : Client σ) : Client σ :=
  { client with session :=
    { client.session with transport := timer (waitDuration timeout) client.session.transport } }

/-- What `discover` prints. -/
def printDevices (timeout : Int64) (devices : List Device) : Invocation Unit := do
  if devices.isEmpty then eprintln ("no devices found within " ++ texts.duration timeout)
  else devices.forM fun device => println device.mac.format

/-- `cmd::discover::run`. -/
def discover (makeClient : ClientFactory σ) (resolvedInterface : Option NetInterface)
    (timeout : Int64) : Invocation (Except CliError Unit) := do
  match ← silently (makeClient resolvedInterface) with
  | .error e => return .error ⟨2, e⟩
  | .ok client =>
    match (withToken timer timeout client).discover T with
    | (.error _, _) => return .error ⟨2, "discovery failed"⟩
    | (.ok (), client) =>
      printDevices texts timeout client.devices.devices
      return .ok ()

/-- `cmd::interfaces::run`. -/
def interfaces : Invocation Unit := do
  let ifs ← silently host.enumerate
  if ifs.isEmpty then eprintln "no usable interfaces found"
  else formatInterfacesTable ifs

/-! ## Dispatch -/

/-- The error for a `--bind-interface` that no usable interface has the name of. -/
def notUsable (name : String) : CliError :=
  ⟨1, "--bind-interface: " ++ debugString texts.printable name ++ " " ++ notUsableReason⟩

/-- The interface that `--bind-interface` names, which is looked for before anything else. -/
def resolve : Option String → Process (Except CliError (Option NetInterface))
  | none => return .ok none
  | some name => do
    match (← host.enumerate).find? fun iface => iface.name = name with
    | none => return .error (notUsable texts name)
    | some iface => return .ok (some iface)

/-- `run`. -/
def run (cli : Cli) (makeClient : ClientFactory σ) : Invocation (Except CliError Unit) := do
  match ← silently (resolve texts host cli.bindInterface) with
  | .error e => return .error e
  | .ok resolvedInterface =>
    match cli.command with
    | .discover => discover T timer texts makeClient resolvedInterface cli.timeout
    | .interfaces =>
      interfaces host
      return .ok ()

/-! ## An invocation -/

/-- `set_retries`. -/
def setRetries (retries : Nat) (client : Client σ) : Client σ :=
  { client with session := { client.session with retries := retries } }

/-- The client that the flags describe. -/
def openClient (allInterfaces : Bool) (port : UInt16) :
    Option NetInterface → Process (Except OpenError (Client BoxedTransport))
  | some iface => host.forResolvedInterface iface port
  | none => if allInterfaces then host.forAllInterfaces port else host.withUdp port

/-- `build_client`. -/
def buildClient (allInterfaces : Bool) (retries : Nat) (port : UInt16) :
    ClientFactory BoxedTransport := fun resolvedInterface => do
  match ← openClient host allInterfaces port resolvedInterface with
  | .error e => return .error (e.display texts.printable)
  | .ok client => return .ok (setRetries retries client)

/-- The end of `main`: the exit code, after the error has been printed. -/
def exitCode : Except CliError Unit → Invocation UInt8
  | .ok () => return 0
  | .error e => do
    eprintln ("error: " ++ e.source)
    return if e.code = 1 then 1 else 2

/-- What an invocation comes to. -/
def invoke (cli : Cli) (makeClient : ClientFactory σ) : UInt8 × Console :=
  (do exitCode (← run T timer texts host cli makeClient)).run Console.start

/-- `main`. What the sockets are given includes the firing of the token. -/
def main (cli : Cli) : UInt8 × Console :=
  invoke BoxedTransport.transport (fun _ t => t) texts host cli
    (buildClient texts host cli.allInterfaces cli.retries Udap.port)

end UdapCli
