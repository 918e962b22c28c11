import Udapcfg.Infra.Machine
import Udapcfg.Udap.Client
import Udapcfg.Udap.Ops.Call

/-!
# What a client is used for

The rest of `client.rs`: the operations, which borrow the session, and `take_device`, which moves a
device out of the registry. A program that has a client holds the devices it has taken.
-/

namespace Udap

open Infra

/-- Without the device of a MAC. -/
def Registry.remove (r : Registry) (mac : Mac) : Registry where
  byMac := r.byMac.retain fun m => m ≠ mac
  keyed m device h := by
    rw [OrdMap.get?_retain] at h
    split at h
    · exact r.keyed m device h
    · cases h

namespace Client

variable {σ : Type} (T : Transport σ)

/-- `take_device`. -/
def takeDevice (c : Client σ) (mac : Mac) : Option Device × Client σ :=
  (c.devices.byMac.get? mac, { c with devices := c.devices.remove mac })

/-- `get_config`. -/
def getConfig (c : Client σ) (device : Device) (params : List String) :
    Except OpError Params × Client σ :=
  let r := get T device params c.session
  (r.1, { c with session := r.2 })

/-- `set_config`. -/
def setConfig (c : Client σ) (device : Device) (config : Params) :
    Except OpError Unit × Device × Client σ :=
  let r := set T device config c.session
  (r.1, r.2.1, { c with session := r.2.2 })

/-- `get_all_config`. -/
def getAllConfig (c : Client σ) (device : Device) : Except OpError Unit × Device × Client σ :=
  let r := getAll T device c.session
  (r.1, r.2.1, { c with session := r.2.2 })

/-- `Client::reset`. -/
def reset (c : Client σ) (device : Device) : Except OpError Unit × Client σ :=
  let r := Udap.reset T device c.session
  (r.1, { c with session := r.2 })

/-- `Client::get_ip`. -/
def getIp (c : Client σ) (device : Device) : Except OpError NetworkConfig × Client σ :=
  let r := Udap.getIp T device c.session
  (r.1, { c with session := r.2 })

/-- `Client::get_uuid`. -/
def getUuid (c : Client σ) (device : Device) : Except OpError String × Client σ :=
  let r := Udap.getUuid T device c.session
  (r.1, { c with session := r.2 })

/-- The operation a call names. -/
def call (c : Client σ) (device : Device) : Call → Outcome × Device × Client σ
  | .get params =>
    let r := c.getConfig T device params
    (.params r.1, device, r.2)
  | .getAll =>
    let r := c.getAllConfig T device
    (.done r.1, r.2)
  | .set config =>
    let r := c.setConfig T device config
    (.done r.1, r.2)
  | .reset =>
    let r := c.reset T device
    (.done r.1, device, r.2)
  | .getIp =>
    let r := c.getIp T device
    (.netConfig r.1, device, r.2)
  | .getUuid =>
    let r := c.getUuid T device
    (.uuid r.1, device, r.2)

variable {T} in
/-- An operation of a client is the operation on its session. -/
theorem call_eq (c : Client σ) (device : Device) (call : Call) :
    c.call T device call = ((call.run T device c.session).1, (call.run T device c.session).2.1,
      { c with session := (call.run T device c.session).2.2 }) := by
  cases call <;> rfl

end Client

/-! ## Programs -/

/-- A client, and the devices that were taken from it, in order. -/
structure Program (σ : Type) where
  client : Client σ
  held : List Device

/-- What a program does with its client. -/
inductive Action where
  | discover
  | take (mac : Mac)
  /-- An operation on device number `index` of those it holds. -/
  | call (index : Nat) (call : Call)
deriving DecidableEq

/-- What an action returns. -/
inductive Answer where
  | discovered (result : Except ClientError Unit)
  | taken (device : Option Device)
  /-- There is no outcome where no such device is held. -/
  | called (outcome : Option Outcome)
deriving DecidableEq

namespace Program

variable {σ : Type} (T : Transport σ)

/-- What an action returns to the program. -/
def answer (p : Program σ) : Action → Answer
  | .discover => .discovered (p.client.discover T).1
  | .take mac => .taken (p.client.takeDevice mac).1
  | .call index call =>
    .called (p.held[index]?.map fun device => (p.client.call T device call).1)

/-- One action. -/
def act (p : Program σ) : Action → Program σ
  | .discover => { p with client := (p.client.discover T).2 }
  | .take mac =>
    let r := p.client.takeDevice mac
    ⟨r.2, p.held ++ r.1.toList⟩
  | .call index call =>
    match p.held[index]? with
    | none => p
    | some device =>
      let r := p.client.call T device call
      ⟨r.2.2, p.held.set index r.2.1⟩

/-- Action after action. -/
def run : Program σ → List Action → Program σ
  | p, [] => p
  | p, action :: rest => run (p.act T action) rest

/-- What they return. -/
def answers : Program σ → List Action → List Answer
  | _, [] => []
  | p, action :: rest => p.answer T action :: answers (p.act T action) rest

/-- An action, as a step of a machine. -/
def step (action : Action) (p : Program σ) : Answer × Program σ := (p.answer T action, p.act T action)

theorem run_step (p : Program σ) (actions : List Action) :
    Infra.run (step T) p actions = (p.answers T actions, p.run T actions) := by
  induction actions generalizing p with
  | nil => rfl
  | cons action rest ih => rw [Infra.run, step, ih, answers, run]

end Program

end Udap
