import Udapcfg.Infra.Attempt
import Udapcfg.Udap.Host

/-!
# Sockets

The calls that build a socket are made in one order, until one fails.

* `plan` — the calls for a socket, as far as they go
* `bind_eq` — a socket is an attempt at its plan
-/

namespace Udap

open Infra

namespace UdpTransport

/-! ## The plan -/

/-- The calls that come before a socket is pinned. The port is shared, so that must be asked for
before the socket is bound. -/
def opening (platform : Platform) (port : UInt16) : List SocketCall :=
  [.new, .setReuseAddress] ++ (if platform.unix then [.setReusePort] else []) ++
    [.bind port, .setBroadcast]

/-- The calls that come after. Where a socket cannot be pinned there are none. -/
def pinning (platform : Platform) : Option NetInterface → List SocketCall
  | none => [.setNonblocking, .fromStd]
  | some iface =>
    if platform.bindsToInterface then
      if iface.index = 0 then []
      else [.bindDeviceByIndex iface.index, .setNonblocking, .fromStd]
    else []

/-- The calls for a socket. -/
def plan (platform : Platform) (port : UInt16) (iface : Option NetInterface) : List SocketCall :=
  opening platform port ++ pinning platform iface

/-- What a plan that is carried out comes to. -/
def planned (platform : Platform) : Option NetInterface → Except TransportError Unit
  | none => .ok ()
  | some iface =>
    if platform.bindsToInterface then
      if iface.index = 0 then .error (.io ("interface " ++ iface.name ++ " has index 0")) else .ok ()
    else .error .interfaceBindUnsupported

/-- The socket can be pinned, or need not be. -/
def Pinnable (platform : Platform) (iface : Option NetInterface) : Prop :=
  ∀ i ∈ iface, platform.bindsToInterface ∧ i.index ≠ 0

theorem planned_eq_ok_iff {platform : Platform} {iface : Option NetInterface} :
    planned platform iface = .ok () ↔ Pinnable platform iface := by
  rcases iface with _ | iface
  · simp [planned, Pinnable]
  · rw [planned, Pinnable]
    by_cases hbinds : platform.bindsToInterface = true
    · by_cases hindex : iface.index = 0
      · simp [hbinds, hindex]
      · simp [hbinds, hindex]
    · simp [hbinds]

/-! ## Performing it -/

variable (os : SocketCalls)

/-- What an attempt comes to, if this is what it comes to when nothing fails. -/
def after (last : Except TransportError Unit) : Except String Unit → Except TransportError Unit
  | .ok () => last
  | .error message => .error (.io message)

/-- These calls are made until one fails. If none does, it comes to what is given. -/
def Performs (b : Building Unit) (calls : List SocketCall) (last : Except TransportError Unit) :
    Prop :=
  ∀ made, b.run.run made = (after last (attempt os calls).1, made ++ (attempt os calls).2)

variable {os}

theorem performs_ok : Performs os (pure ()) [] (.ok ()) := fun made => by
  rw [attempt, List.append_nil]
  rfl

theorem performs_error (e : TransportError) : Performs os (throw e) [] (.error e) := fun made => by
  rw [attempt, List.append_nil]
  rfl

theorem run_perform (call : SocketCall) (made : List SocketCall) :
    (perform os call).run.run made = (after (.ok ()) (os call), made ++ [call]) := by
  cases hcall : os call with
  | error message =>
    unfold perform
    simp only [hcall]
    rfl
  | ok u =>
    unfold perform
    simp only [hcall]
    rfl

/-- One call, and what comes after it. -/
theorem performs_cons {rest : Unit → Building Unit} {calls : List SocketCall}
    {last : Except TransportError Unit} (call : SocketCall)
    (h : Performs os (rest ()) calls last) :
    Performs os (perform os call >>= rest) (call :: calls) last := by
  intro made
  have hfirst : (perform os call).run.run made = (after (.ok ()) (os call), made ++ [call]) :=
    run_perform call made
  rw [ExceptT.run_bind, StateT.run_bind, hfirst]
  cases hcall : os call with
  | error message =>
    rw [attempt_cons_error hcall]
    rfl
  | ok u =>
    rw [attempt_cons_ok hcall]
    exact (h (made ++ [call])).trans (Prod.ext rfl (List.append_cons ..).symm)

/-- The last call. -/
theorem performs_singleton (call : SocketCall) : Performs os (perform os call) [call] (.ok ()) := by
  have hend : Performs os (pure ()) [] (.ok ()) := performs_ok
  have h := performs_cons call hend
  rwa [bind_pure] at h

/-- What cannot be done ends the building. -/
theorem performs_throw (e : TransportError) (rest : Unit → Building Unit) :
    Performs os (throw e >>= rest) [] (.error e) := performs_error e

theorem performs_bindToInterface (platform : Platform) (iface : NetInterface)
    {rest : Unit → Building Unit}
    (h : Performs os (rest ()) [.setNonblocking, .fromStd] (.ok ())) :
    Performs os (bindToInterface os platform iface >>= rest) (pinning platform (some iface))
      (planned platform (some iface)) := by
  rw [bindToInterface, pinning, planned]
  by_cases hbinds : platform.bindsToInterface = true
  · rw [if_pos hbinds, if_pos hbinds, if_pos hbinds]
    by_cases hindex : iface.index = 0
    · rw [if_pos hindex, if_pos hindex, if_pos hindex]
      exact performs_throw _ rest
    · rw [if_neg hindex, if_neg hindex, if_neg hindex]
      exact performs_cons _ h
  · rw [if_neg hbinds, if_neg hbinds, if_neg hbinds]
    exact performs_throw _ rest

theorem performs_opening (platform : Platform) (port : UInt16) {rest : Building Unit}
    {calls : List SocketCall} {last : Except TransportError Unit} (h : Performs os rest calls last) :
    Performs os (do
      perform os .new
      perform os .setReuseAddress
      if platform.unix then perform os .setReusePort
      perform os (.bind port)
      perform os .setBroadcast
      rest) (opening platform port ++ calls) last := by
  obtain ⟨unix, binds⟩ := platform
  cases unix with
  | true =>
    exact performs_cons .new (performs_cons .setReuseAddress (performs_cons .setReusePort
      (performs_cons (.bind port) (performs_cons .setBroadcast h))))
  | false =>
    exact performs_cons .new (performs_cons .setReuseAddress
      (performs_cons (.bind port) (performs_cons .setBroadcast h)))

theorem performs_build (platform : Platform) (port : UInt16) (iface : Option NetInterface) :
    Performs os (build os platform port iface) (plan platform port iface)
      (planned platform iface) := by
  have hlast : Performs os (do perform os .setNonblocking; perform os .fromStd)
      [.setNonblocking, .fromStd] (.ok ()) := performs_cons _ (performs_singleton _)
  rcases iface with _ | iface
  · exact performs_opening platform port hlast
  · exact performs_opening platform port (performs_bindToInterface platform iface hlast)

/-! ## What becomes of a socket -/

/-- How far the building of a socket got. -/
structure Built (os : SocketCalls) (platform : Platform) (port : UInt16)
    (iface : Option NetInterface) (result : Except TransportError Unit)
    (made : List SocketCall) : Prop where
  /-- The calls are made in the order of the plan, -/
  planned : made <+: plan platform port iface
  /-- and none after one that has failed. -/
  succeeded : ∀ call ∈ made.dropLast, os call = .ok ()
  /-- There is a transport if the socket can be pinned, where it has to be, and no call fails. -/
  ok_iff : result = .ok () ↔
    Pinnable platform iface ∧ ∀ call ∈ plan platform port iface, os call = .ok ()
  /-- Then all of the calls were made. -/
  whole : result = .ok () → made = plan platform port iface
  /-- Otherwise the last that was made has failed, or none has and the socket cannot be pinned. -/
  failed : ∀ e, result = .error e →
    (∃ call message, made.getLast? = some call ∧ os call = .error message ∧ e = .io message) ∨
    (made = plan platform port iface ∧ (∀ call ∈ made, os call = .ok ()) ∧
      UdpTransport.planned platform iface = .error e)

theorem built_bind (os : SocketCalls) (platform : Platform) (port : UInt16)
    (iface : Option NetInterface) :
    Built os platform port iface (bind os platform port iface).1
      (bind os platform port iface).2 := by
  have hbind : bind os platform port iface = (after (UdpTransport.planned platform iface)
      (attempt os (plan platform port iface)).1, (attempt os (plan platform port iface)).2) :=
    performs_build platform port iface []
  have hok : (bind os platform port iface).1 = .ok () ↔
      Pinnable platform iface ∧ ∀ call ∈ plan platform port iface, os call = .ok () := by
    rw [hbind, ← attempt_eq_ok_iff, ← planned_eq_ok_iff]
    cases (attempt os (plan platform port iface)).1 with
    | ok u => simp [after]
    | error message => simp [after]
  refine ⟨?_, ?_, hok, ?_, ?_⟩
  · rw [hbind]
    exact attempt_prefix _
  · rw [hbind]
    exact attempt_dropLast _
  · intro h
    rw [hbind]
    exact attempt_of_ok (attempt_eq_ok_iff.mpr (hok.mp h).2)
  · intro e he
    rw [hbind] at he ⊢
    rcases hall : (attempt os (plan platform port iface)).1 with message | u
    · obtain ⟨call, hlast, hcall⟩ := attempt_error hall
      rw [hall] at he
      exact .inl ⟨call, message, hlast, hcall, (Except.error.inj he).symm⟩
    · -- nothing failed, but the plan ends before the socket is pinned
      have hwhole := attempt_of_ok hall
      rw [hall] at he
      refine .inr ⟨hwhole, ?_, he⟩
      simp only [hwhole]
      exact attempt_eq_ok_iff.mp hall

end UdpTransport

/-! ## Several sockets -/

/-- One action after another. -/
theorem bind_apply {S α β : Type} (m : StateM S α) (f : α → StateM S β) (s : S) :
    (m >>= f) s = f (m s).1 (m s).2 := rfl

namespace Host

variable (host : Host) (port : UInt16)

/-- What becomes of socket number `k`. -/
def socketFor (k : Nat) (iface : Option NetInterface) :
    Except TransportError Unit × List SocketCall :=
  UdpTransport.bind (host.socket k) host.platform port iface

/-- What becomes of the sockets for some interfaces, from number `k` on. -/
def socketsFrom (k : Nat) (ifaces : List (Option NetInterface)) :
    List (Except TransportError Unit × List SocketCall) :=
  (ifaces.zipIdx k).map fun x => host.socketFor port x.2 x.1

/-- The numbers of those that can be used. -/
def boundFrom (k : Nat) (ifaces : List (Option NetInterface)) : List Nat :=
  ((ifaces.zipIdx k).filter fun x => (host.socketFor port x.2 x.1).1 = .ok ()).map Prod.snd

theorem enumerate_start : host.enumerate Effects.start
    = (Udap.enumerate host.net (host.sweep 0), ⟨1, []⟩) := rfl

theorem bind_eq (iface : Option NetInterface) (fx : Effects) : host.bind port iface fx
    = ((host.socketFor port fx.sockets.length iface).1.map fun _ => fx.sockets.length,
      ⟨fx.sweeps, fx.sockets ++ [(host.socketFor port fx.sockets.length iface).2]⟩) := rfl

variable {host port} {k : Nat} {iface : Option NetInterface} {ifaces : List (Option NetInterface)}

theorem socketsFrom_cons : host.socketsFrom port k (iface :: ifaces)
    = host.socketFor port k iface :: host.socketsFrom port (k + 1) ifaces := by
  rw [socketsFrom, List.zipIdx_cons, List.map_cons, socketsFrom]

theorem boundFrom_cons_ok (h : (host.socketFor port k iface).1 = .ok ()) :
    host.boundFrom port k (iface :: ifaces) = k :: host.boundFrom port (k + 1) ifaces := by
  rw [boundFrom, List.zipIdx_cons, List.filter_cons_of_pos (by simp [h]), List.map_cons,
    boundFrom]

theorem boundFrom_cons_error {e : TransportError} (h : (host.socketFor port k iface).1 = .error e) :
    host.boundFrom port k (iface :: ifaces) = host.boundFrom port (k + 1) ifaces := by
  rw [boundFrom, List.zipIdx_cons, List.filter_cons_of_neg (by simp [h]), boundFrom]

/-- **All of the sockets** are built, whichever of them fail. -/
theorem bindAll_eq (ifaces : List NetInterface) (fx : Effects) : host.bindAll port ifaces fx
    = (host.boundFrom port fx.sockets.length (ifaces.map some), ⟨fx.sweeps, fx.sockets ++
      (host.socketsFrom port fx.sockets.length (ifaces.map some)).map Prod.snd⟩) := by
  induction ifaces generalizing fx with
  | nil =>
    refine Prod.ext rfl ?_
    show fx = ⟨fx.sweeps, fx.sockets ++ []⟩
    rw [List.append_nil]
  | cons iface ifaces ih =>
    have hrest := ih ⟨fx.sweeps,
      fx.sockets ++ [(host.socketFor port fx.sockets.length (some iface)).2]⟩
    rw [List.length_append, List.length_singleton, List.append_assoc, List.singleton_append] at hrest
    rw [bindAll, bind_apply, bind_eq, List.map_cons, socketsFrom_cons, List.map_cons]
    cases hfirst : (host.socketFor port fx.sockets.length (some iface)).1 with
    | error e =>
      rw [boundFrom_cons_error hfirst]
      exact hrest
    | ok u =>
      rw [boundFrom_cons_ok hfirst]
      simp only [Except.map, bind_apply, hrest]
      rfl

end Host

end Udap
