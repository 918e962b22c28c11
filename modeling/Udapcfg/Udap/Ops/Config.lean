import Mathlib.Data.List.Sort
import Udapcfg.Udap.Ops.Reply

/-!
# Configuration operations

`ops/config.rs`: `get`, `get_all`, `reset` and `set`. The two that change the `Device` return it
next to their result, whatever the result is.
-/

namespace Udap

open Infra

/-- Username and password, all zero, before the item list of a request. -/
def credentialFields : Nat := 32

/-! ## Request bodies -/

/-- `get_data_payload`. Unknown names are skipped, items are sorted by offset. -/
def getDataPayload (params : List String) : Bytes :=
  let items := params.filterMap byName
  let items := items.insertionSort (fun p q => p.offset ≤ q.offset)
  zeros credentialFields ++ (u16ToBe (u16OrMax items.length) ++
    items.flatMap (fun item => u16ToBe item.offset ++ u16ToBe item.length))

/-- The loop of `set_data_payload`: the first value that does not encode ends it. -/
def encodeParams : List (Parameter × Bytes) → Except EncodeError Bytes
  | [] => .ok []
  | (param, value) :: rest =>
    match param.encode value with
    | .error e => .error e
    | .ok encoded =>
      match encodeParams rest with
      | .error e => .error e
      | .ok out => .ok (u16ToBe param.offset ++ (u16ToBe param.length ++ (encoded ++ out)))

/-- The parameters a map names, with their values, in wire order. -/
def knownItems (params : Params) : List (Parameter × Bytes) :=
  let items := params.entries.filterMap fun (name, value) => (byName name).map (fun p => (p, value))
  items.insertionSort (fun a b => a.1.offset ≤ b.1.offset)

/-- `set_data_payload`. -/
def setDataPayload (params : Params) : Except EncodeError Bytes :=
  let items := knownItems params
  match encodeParams items with
  | .error e => .error e
  | .ok out => .ok (zeros credentialFields ++ (u16ToBe (u16OrMax items.length) ++ out))

/-! ## Operations -/

variable {σ : Type} (T : Transport σ)

/-- What `get` makes of the reply. -/
def getReply (device : Device) (reply : Packet) (payload : Bytes) : Except OpError Params :=
  let mac := device.mac.format
  if reply.ucpMethod = Method.getData then
    match GetData.parseResponse payload with
    | .ok config => .ok config
    | .error source => .error (.decode mac source)
  else if reply.ucpMethod = Method.error then .error (.deviceNoMessage mac)
  else .error (.unexpectedMethod mac reply.ucpMethod)

/-- `get`. -/
def get (device : Device) (params : List String) (s : Session σ) :
    Except OpError Params × Session σ :=
  if device.mac.isZero then (.error (.zeroMac "GetData"), s)
  else
    match s.request T device Method.getData (.ok (getDataPayload params)) with
    | (.error e, s) => (.error e, s)
    | (.ok (reply, payload), s) => (getReply device reply payload, s)

/-- `device.parameters` after a successful read: stale synthetic keys go, the reply is merged. -/
def mergeRead (parameters config : Params) : Params :=
  (parameters.retain (fun k => !GetData.isSynthetic k)).extend config

/-- `get_all`. -/
def getAll (device : Device) (s : Session σ) : Except OpError Unit × Device × Session σ :=
  match get T device names s with
  | (.error e, s) => (.error e, device, s)
  | (.ok config, s) =>
    (.ok (), { device with parameters := mergeRead device.parameters config }, s)

/-- What `reset` makes of the reply. -/
def resetReply (device : Device) (reply : Packet) (payload : Bytes) : Except OpError Unit :=
  let mac := device.mac.format
  if reply.ucpMethod = Method.reset then .ok ()
  else if reply.ucpMethod = Method.error then
    match errorMessage payload with
    | some value => .error (.resetRejected mac (fromUtf8Lossy value))
    | none => .error (.resetRejectedNoMessage mac)
  else .error (.unexpectedMethod mac reply.ucpMethod)

/-- `reset`. A cancelled wait is success: the device may have rebooted before it could answer. -/
def reset (device : Device) (s : Session σ) : Except OpError Unit × Session σ :=
  if device.mac.isZero then (.error (.zeroMac "Reset"), s)
  else
    match s.request T device Method.reset (.ok []) with
    -- a transport error is an error, a cancelled wait is not
    | (.error (.recv .cancelled), s) => (.ok (), s)
    | (.error e, s) => (.error e, s)
    | (.ok (reply, payload), s) => (resetReply device reply payload, s)

/-- The methods `set` takes as an acknowledgement. -/
def isAck (ucpMethod : UInt16) : Bool :=
  ucpMethod = Method.setData || ucpMethod = Method.getData || ucpMethod = Method.getIp

/-- The read that comes before a write when nothing is cached. -/
def preludeRead (device : Device) (s : Session σ) : Except OpError Unit × Device × Session σ :=
  if device.parameters.isEmpty then getAll T device s else (.ok (), device, s)

/-- `set`. The configuration is merged into the device only after the acknowledgement. -/
def set (device : Device) (config : Params) (s : Session σ) :
    Except OpError Unit × Device × Session σ :=
  if device.mac.isZero then (.error (.zeroMac "SetData"), device, s)
  else
    match preludeRead T device s with
    | (.error e, device, s) => (.error e, device, s)
    | (.ok (), device, s) =>
      let merged := device.parameters.extend config
      match s.request T device Method.setData (setDataPayload merged) with
      | (.error e, s) => (.error e, device, s)
      | (.ok (reply, payload), s) =>
        -- the commit barrier: up to here nothing of `config` is in the handle
        if isAck reply.ucpMethod then
          (.ok (), { device with parameters := device.parameters.extend config }, s)
        else (.error (replyError device reply payload), device, s)

end Udap
