import Udapcfg.Udap.Ops.Config
import Udapcfg.Udap.Ops.GetIp
import Udapcfg.Udap.Ops.GetUuid

/-!
# The six operations as one

A call names an operation and its arguments. `Call.run` runs it on a device handle; `results` and
`runCalls` run several, one after another, on the same handle and session.
-/

namespace Udap

open Infra

/-- An operation with its arguments. -/
inductive Call where
  | get (params : List String)
  | getAll
  | set (config : Params)
  | reset
  | getIp
  | getUuid
deriving DecidableEq

/-- What an operation returns. -/
inductive Outcome where
  | params (result : Except OpError Params)
  | done (result : Except OpError Unit)
  | netConfig (result : Except OpError NetworkConfig)
  | uuid (result : Except OpError String)
deriving DecidableEq

variable {σ : Type} (T : Transport σ)

/-- Runs the operation a call names. -/
def Call.run (device : Device) (s : Session σ) : Call → Outcome × Device × Session σ
  | .get params =>
    let r := Udap.get T device params s
    (.params r.1, device, r.2)
  | .getAll =>
    let r := Udap.getAll T device s
    (.done r.1, r.2)
  | .set config =>
    let r := Udap.set T device config s
    (.done r.1, r.2)
  | .reset =>
    let r := Udap.reset T device s
    (.done r.1, device, r.2)
  | .getIp =>
    let r := Udap.getIp T device s
    (.netConfig r.1, device, r.2)
  | .getUuid =>
    let r := Udap.getUuid T device s
    (.uuid r.1, device, r.2)

/-- Runs calls one after another on one handle: what each returns, and the handle after it. -/
def results (device : Device) (s : Session σ) : List Call → List (Outcome × Device)
  | [] => []
  | call :: rest =>
    let r := call.run T device s
    (r.1, r.2.1) :: results r.2.1 r.2.2 rest

/-- Runs calls one after another on one handle and returns the handle and the session. -/
def runCalls (device : Device) (s : Session σ) : List Call → Device × Session σ
  | [] => (device, s)
  | call :: rest =>
    let r := call.run T device s
    runCalls r.2.1 r.2.2 rest

end Udap
