import Udapcfg.Udap.Ops.Call
import Udapcfg.Udap.Ops.Recorded

/-!
# Foreign datagrams

Datagrams that are not from the device do not influence an operation. Two runs are compared whose
receive scripts differ in inserted foreign datagrams.

* `waitForReply_noise` — the wait loop, by induction over the insertions
* `run_noise` — every operation sends the same, returns the same and leaves the same handle
-/

namespace Udap

open Infra

/-! ## Insertions -/

/-- A datagram that does not parse, is from another device, or from another address. -/
def Foreign (device : Device) (d : Datagram) : Prop :=
  (∃ e, Packet.fromBytes d.1 = .error e) ∨
  (∃ packet payload, Packet.fromBytes d.1 = .ok (packet, payload) ∧
    packet.srcAddress ≠ device.mac) ∨
  (device.ip ≠ "" ∧ d.2 ≠ device.ip)

/-- `Noise device l l'`: `l'` is `l` with foreign datagrams inserted anywhere. -/
inductive Noise (device : Device) : List (Except TransportError Datagram) →
    List (Except TransportError Datagram) → Prop
  | nil : Noise device [] []
  | keep {l l' : List (Except TransportError Datagram)} (r : Except TransportError Datagram) :
    Noise device l l' → Noise device (r :: l) (r :: l')
  | insert {l l' : List (Except TransportError Datagram)} {d : Datagram} :
    Foreign device d → Noise device l l' → Noise device l (.ok d :: l')

/-- The wait loop discards a foreign datagram. -/
theorem accept_foreign {device : Device} {d : Datagram} (h : Foreign device d) :
    Session.accept device d = none := by
  unfold Session.accept
  rcases hparse : Packet.fromBytes d.1 with e | ⟨packet, payload⟩
  · rfl
  · rcases h with ⟨e, he⟩ | ⟨p, x, hok, hmac⟩ | ⟨hip, hsrc⟩
    · rw [he] at hparse
      simp at hparse
    · rw [hok] at hparse
      cases hparse
      exact if_pos hmac
    · simp only
      split
      · rfl
      · rw [if_pos ⟨hip, hsrc⟩]

/-- What is foreign depends on the addresses of the handle only. -/
theorem Noise.congr {device device' : Device} (hmac : device'.mac = device.mac)
    (hip : device'.ip = device.ip) {l l' : List (Except TransportError Datagram)}
    (h : Noise device l l') : Noise device' l l' := by
  induction h with
  | nil => exact Noise.nil
  | keep r _ ih => exact Noise.keep r ih
  | insert hd _ ih =>
    rw [Foreign, ← hmac, ← hip] at hd
    exact Noise.insert hd ih

/-- Two sessions that differ in foreign datagrams still to come. -/
inductive NoisySession (device : Device) : Session (Script × List Bytes) →
    Session (Script × List Bytes) → Prop
  | mk {recvs recvs' : List (Except TransportError Datagram)} (h : Noise device recvs recvs')
    (sends : List (Except TransportError Unit)) (log : List Bytes) (retries : Nat)
    (sequence : UInt16) :
    NoisySession device ⟨(⟨sends, recvs⟩, log), retries, sequence⟩
      ⟨(⟨sends, recvs'⟩, log), retries, sequence⟩

theorem NoisySession.congr {device device' : Device} (hmac : device'.mac = device.mac)
    (hip : device'.ip = device.ip) {s s' : Session (Script × List Bytes)}
    (h : NoisySession device s s') : NoisySession device' s s' := by
  cases h with
  | mk h sends log retries sequence => exact ⟨h.congr hmac hip, sends, log, retries, sequence⟩

theorem NoisySession.log_eq {device : Device} {s s' : Session (Script × List Bytes)}
    (h : NoisySession device s s') : s'.log = s.log := by
  cases h
  rfl

/-! ## The parts of a request -/

variable {device : Device} {s s' : Session (Script × List Bytes)}

/-- What a send loop does to a script is the same whatever is to be received. -/
theorem sendLoop_script (packet : Bytes) : ∀ (n : Nat) (firstErr : Option TransportError)
    (successes : Nat) (sends : List (Except TransportError Unit)) (log : List Bytes),
    ∃ firstErr₁ successes₁ sends₁ log₁, ∀ recvs,
      Session.sendLoop Script.transport.recorded packet n firstErr successes (⟨sends, recvs⟩, log)
        = (firstErr₁, successes₁, ⟨sends₁, recvs⟩, log₁)
  | 0, firstErr, successes, sends, log => ⟨firstErr, successes, sends, log, fun _ => rfl⟩
  | n + 1, firstErr, successes, [], log =>
    sendLoop_script packet n firstErr (successes + 1) [] (log ++ [packet])
  | n + 1, firstErr, successes, .ok () :: sends, log =>
    sendLoop_script packet n firstErr (successes + 1) sends (log ++ [packet])
  | n + 1, firstErr, successes, .error e :: sends, log =>
    sendLoop_script packet n (firstErr.or (some e)) successes sends (log ++ [packet])

/-- Sending does not look at what is to be received. -/
theorem sendRetried_noise (h : NoisySession device s s') (packet : Bytes) :
    (Session.sendRetried Script.transport.recorded packet s').1
      = (Session.sendRetried Script.transport.recorded packet s).1 ∧
    NoisySession device (Session.sendRetried Script.transport.recorded packet s).2
      (Session.sendRetried Script.transport.recorded packet s').2 := by
  cases h with
  | mk h sends log retries sequence =>
    obtain ⟨firstErr₁, successes₁, sends₁, log₁, hloop⟩ :=
      sendLoop_script packet (retries + 1) none 0 sends log
    simp only [Session.sendRetried, hloop]
    cases firstErr₁ with
    | none => exact ⟨rfl, h, sends₁, log₁, retries, sequence⟩
    | some e => cases successes₁ <;> exact ⟨rfl, h, sends₁, log₁, retries, sequence⟩

/-- **The wait loop does not see foreign datagrams.** -/
theorem waitForReply_noise (h : NoisySession device s s') :
    (Session.waitForReply Script.transport.recorded device s').1
      = (Session.waitForReply Script.transport.recorded device s).1 ∧
    NoisySession device (Session.waitForReply Script.transport.recorded device s).2
      (Session.waitForReply Script.transport.recorded device s').2 := by
  cases h with
  | mk h sends log retries sequence =>
    -- on the insertions: what is kept is treated alike, what is inserted is skipped
    induction h with
    | nil => exact ⟨rfl, Noise.nil, sends, log, retries, sequence⟩
    | keep r hl ih =>
      rw [Session.waitForReply_eq, Session.waitForReply_eq]
      cases r with
      | error e => exact ⟨rfl, hl, sends, log, retries, sequence⟩
      | ok d =>
        simp only [Transport.recorded, Script.transport]
        cases Session.accept device d with
        | none => exact ih
        | some reply => exact ⟨rfl, hl, sends, log, retries, sequence⟩
    | @insert l l' d hd _ ih =>
      have hskip : Session.waitForReply Script.transport.recorded device
            ⟨(⟨sends, .ok d :: l'⟩, log), retries, sequence⟩
          = Session.waitForReply Script.transport.recorded device
            ⟨(⟨sends, l'⟩, log), retries, sequence⟩ := by
        rw [Session.waitForReply_eq]
        simp only [Transport.recorded, Script.transport, accept_foreign hd]
      rw [hskip]
      exact ih

theorem request_noise (h : NoisySession device s s') (ucpMethod : UInt16)
    (body : Except EncodeError Bytes) :
    (s'.request Script.transport.recorded device ucpMethod body).1
      = (s.request Script.transport.recorded device ucpMethod body).1 ∧
    NoisySession device (s.request Script.transport.recorded device ucpMethod body).2
      (s'.request Script.transport.recorded device ucpMethod body).2 := by
  have hheader : NoisySession device (s.header device.mac ucpMethod false).2
      (s'.header device.mac ucpMethod false).2 := by
    cases h with
    | mk h sends log retries sequence => exact ⟨h, sends, log, retries, sequence + 1⟩
  have hsame : (s'.header device.mac ucpMethod false).1
      = (s.header device.mac ucpMethod false).1 := by
    cases h
    rfl
  cases body with
  | error e => exact ⟨rfl, hheader⟩
  | ok body =>
    simp only [Session.request, hsame]
    obtain ⟨hres, hsend⟩ := sendRetried_noise hheader
      ((s.header device.mac ucpMethod false).1.toBytes ++ body)
    rcases hs : Session.sendRetried Script.transport.recorded
      ((s.header device.mac ucpMethod false).1.toBytes ++ body)
      (s.header device.mac ucpMethod false).2 with ⟨res, s₁⟩
    rcases hs' : Session.sendRetried Script.transport.recorded
      ((s.header device.mac ucpMethod false).1.toBytes ++ body)
      (s'.header device.mac ucpMethod false).2 with ⟨res', s₁'⟩
    rw [hs, hs'] at hres hsend
    cases hres
    cases res with
    | error e => exact ⟨rfl, hsend⟩
    | ok u => exact waitForReply_noise hsend

/-! ## The operations -/

/-- The three results of two runs: equal outcomes, equal handles, and sessions alike. -/
def SameRun {α : Type} (device : Device) (r r' : α × Device × Session (Script × List Bytes)) :
    Prop :=
  r'.1 = r.1 ∧ r'.2.1 = r.2.1 ∧ NoisySession device r.2.2 r'.2.2

/-- An operation that is a reading of one request. -/
theorem reading_noise {α : Type} {ucpMethod : UInt16} {body : Except EncodeError Bytes}
    {op : Session (Script × List Bytes) → Except OpError α × Session (Script × List Bytes)}
    {read : Except OpError (Packet × Bytes) → Except OpError α}
    (hop : ∀ s, op s = (read (s.request Script.transport.recorded device ucpMethod body).1,
      (s.request Script.transport.recorded device ucpMethod body).2))
    (h : NoisySession device s s') :
    (op s').1 = (op s).1 ∧ NoisySession device (op s).2 (op s').2 := by
  obtain ⟨hres, hreq⟩ := request_noise h ucpMethod body
  rw [hop, hop, hres]
  exact ⟨rfl, hreq⟩

theorem get_noise (h : NoisySession device s s') (params : List String) :
    (get Script.transport.recorded device params s').1
      = (get Script.transport.recorded device params s).1 ∧
    NoisySession device (get Script.transport.recorded device params s).2
      (get Script.transport.recorded device params s').2 := by
  cases hmac : device.mac.isZero with
  | true => simpa [get, hmac] using h
  | false => exact reading_noise (get_eq hmac params) h

theorem getAll_noise (h : NoisySession device s s') :
    SameRun device (getAll Script.transport.recorded device s)
      (getAll Script.transport.recorded device s') := by
  obtain ⟨hres, hget⟩ := get_noise h names
  unfold getAll
  rcases hr : get Script.transport.recorded device names s with ⟨res, s₁⟩
  rcases hr' : get Script.transport.recorded device names s' with ⟨res', s₁'⟩
  rw [hr, hr'] at hres hget
  cases hres
  cases res with
  | error e => exact ⟨rfl, rfl, hget⟩
  | ok m => exact ⟨rfl, rfl, hget⟩

theorem preludeRead_noise (h : NoisySession device s s') :
    SameRun device (preludeRead Script.transport.recorded device s)
      (preludeRead Script.transport.recorded device s') := by
  unfold preludeRead
  split
  · exact getAll_noise h
  · exact ⟨rfl, rfl, h⟩

theorem set_noise (h : NoisySession device s s') (config : Params) :
    SameRun device (set Script.transport.recorded device config s)
      (set Script.transport.recorded device config s') := by
  obtain ⟨hres, hdevice, hprelude⟩ := preludeRead_noise h
  unfold set
  split
  · exact ⟨rfl, rfl, h⟩
  · rcases hp : preludeRead Script.transport.recorded device s with ⟨res, device₁, s₁⟩
    rcases hp' : preludeRead Script.transport.recorded device s' with ⟨res', device₁', s₁'⟩
    rw [hp, hp'] at hres hdevice hprelude
    cases hres
    cases hdevice
    cases res with
    | error e => exact ⟨rfl, rfl, hprelude⟩
    | ok u =>
      have hdev := preludeRead_device hp
      have hmac : device₁.mac = device.mac := by rw [hdev]
      have hip : device₁.ip = device.ip := by rw [hdev]
      obtain ⟨hres, hreq⟩ := request_noise (hprelude.congr hmac hip) Method.setData
        (setDataPayload (device₁.parameters.extend config))
      simp only
      rcases hr : s₁.request Script.transport.recorded device₁ Method.setData
        (setDataPayload (device₁.parameters.extend config)) with ⟨res, s₂⟩
      rcases hr' : s₁'.request Script.transport.recorded device₁ Method.setData
        (setDataPayload (device₁.parameters.extend config)) with ⟨res', s₂'⟩
      rw [hr, hr'] at hres hreq
      cases hres
      have hsession := hreq.congr hmac.symm hip.symm
      cases res with
      | error e => exact ⟨rfl, rfl, hsession⟩
      | ok reply =>
        simp only
        split
        · exact ⟨rfl, rfl, hsession⟩
        · exact ⟨rfl, rfl, hsession⟩

theorem reset_noise (h : NoisySession device s s') :
    (reset Script.transport.recorded device s').1
      = (reset Script.transport.recorded device s).1 ∧
    NoisySession device (reset Script.transport.recorded device s).2
      (reset Script.transport.recorded device s').2 := by
  cases hmac : device.mac.isZero with
  | true => simpa [reset, hmac] using h
  | false => exact reading_noise (reset_eq hmac) h

theorem getIp_noise (h : NoisySession device s s') :
    (getIp Script.transport.recorded device s').1
      = (getIp Script.transport.recorded device s).1 ∧
    NoisySession device (getIp Script.transport.recorded device s).2
      (getIp Script.transport.recorded device s').2 := by
  cases hmac : device.mac.isZero with
  | true => simpa [getIp, hmac] using h
  | false => exact reading_noise (getIp_eq hmac) h

theorem getUuid_noise (h : NoisySession device s s') :
    (getUuid Script.transport.recorded device s').1
      = (getUuid Script.transport.recorded device s).1 ∧
    NoisySession device (getUuid Script.transport.recorded device s).2
      (getUuid Script.transport.recorded device s').2 := by
  cases hmac : device.mac.isZero with
  | true => simpa [getUuid, hmac] using h
  | false => exact reading_noise (getUuid_eq hmac) h

theorem call_noise (h : NoisySession device s s') (call : Call) :
    SameRun device (call.run Script.transport.recorded device s)
      (call.run Script.transport.recorded device s') := by
  unfold SameRun
  cases call with
  | get params =>
    obtain ⟨hres, hs⟩ := get_noise h params
    simp only [Call.run, hres]
    exact ⟨trivial, trivial, hs⟩
  | getAll =>
    obtain ⟨hres, hdevice, hs⟩ := getAll_noise h
    simp only [Call.run, hres]
    exact ⟨trivial, hdevice, hs⟩
  | set config =>
    obtain ⟨hres, hdevice, hs⟩ := set_noise h config
    simp only [Call.run, hres]
    exact ⟨trivial, hdevice, hs⟩
  | reset =>
    obtain ⟨hres, hs⟩ := reset_noise h
    simp only [Call.run, hres]
    exact ⟨trivial, trivial, hs⟩
  | getIp =>
    obtain ⟨hres, hs⟩ := getIp_noise h
    simp only [Call.run, hres]
    exact ⟨trivial, trivial, hs⟩
  | getUuid =>
    obtain ⟨hres, hs⟩ := getUuid_noise h
    simp only [Call.run, hres]
    exact ⟨trivial, trivial, hs⟩

/--
**Foreign datagrams cannot influence an operation.** Wherever they are inserted into the script, the
outcome, the handle afterwards and the packets sent are the same.
-/
theorem run_foreign (call : Call) (device : Device) (sends : List (Except TransportError Unit))
    {recvs recvs' : List (Except TransportError Datagram)} (h : Noise device recvs recvs')
    (retries : Nat) (sequence : UInt16) :
    let r := call.run Script.transport.recorded device (scripted sends recvs retries sequence)
    let r' := call.run Script.transport.recorded device (scripted sends recvs' retries sequence)
    r'.1 = r.1 ∧ r'.2.1 = r.2.1 ∧ r'.2.2.log = r.2.2.log := by
  have hscripted : NoisySession device (scripted sends recvs retries sequence)
      (scripted sends recvs' retries sequence) := ⟨h, sends, [], retries, sequence⟩
  obtain ⟨houtcome, hdevice, hsession⟩ := call_noise hscripted call
  exact ⟨houtcome, hdevice, hsession.log_eq⟩

/-- A device at a known address. -/
def housedDevice : Device := { Device.withMac (Mac.auto 1) with ip := "10.0.0.5" }

/-- A reply to `getUuid` in which all bytes of the UUID are the same. -/
def uuidReply (source : Mac) (byte : UInt8) : Bytes :=
  (replyHeader source Method.getUuid).toBytes
    ++ Tlv.encode GetUuid.tlvUuid (List.replicate GetUuid.uuidLen byte)

theorem foreign_unparsable (device : Device) (ip : String) : Foreign device ([], ip) :=
  Or.inl ⟨_, rfl⟩

theorem foreign_uuidReply {device : Device} {source : Mac} (hmac : source ≠ device.mac)
    (byte : UInt8) (ip : String) : Foreign device (uuidReply source byte, ip) :=
  Or.inr (Or.inl ⟨replyHeader source Method.getUuid, _, Packet.fromBytes_toBytes rfl _, hmac⟩)

/-- The reply of the device, and before it one of another device and one from another address. -/
def noisyReplies : List (Except TransportError Datagram) :=
  [.ok ([], "10.0.0.5"), .ok (uuidReply (Mac.auto 2) 2, "10.0.0.5"),
    .ok (uuidReply (Mac.auto 1) 3, "10.0.0.9"), .ok (uuidReply (Mac.auto 1) 1, "10.0.0.5"),
    .ok ([], "10.0.0.5")]

theorem noise_noisyReplies :
    Noise housedDevice [.ok (uuidReply (Mac.auto 1) 1, "10.0.0.5")] noisyReplies := by
  have hother : Mac.auto 2 ≠ housedDevice.mac := by decide
  have haddress : Foreign housedDevice (uuidReply (Mac.auto 1) 3, "10.0.0.9") :=
    Or.inr (Or.inr ⟨by decide, by decide⟩)
  refine .insert (foreign_unparsable _ _) (.insert (foreign_uuidReply hother 2 _) ?_)
  exact .insert haddress (.keep _ (.insert (foreign_unparsable _ _) .nil))

theorem run_foreign_uuid :
    let r := Call.run Script.transport.recorded housedDevice
      (scripted [] [.ok (uuidReply (Mac.auto 1) 1, "10.0.0.5")] 0 0) .getUuid
    let r' := Call.run Script.transport.recorded housedDevice
      (scripted [] noisyReplies 0 0) .getUuid
    r.1 = .uuid (.ok "01010101010101010101010101010101") ∧
      r'.1 = r.1 ∧ r'.2.1 = r.2.1 ∧ r'.2.2.log = r.2.2.log :=
  ⟨by decide +kernel, run_foreign .getUuid housedDevice [] noise_noisyReplies 0 0⟩

end Udap
