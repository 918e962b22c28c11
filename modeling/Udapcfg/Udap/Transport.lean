import Udapcfg.Infra.Bytes

/-!
# The network beneath a session

`transport/mod.rs`: a transport sends packets and hands out datagrams. Here it is a state with two
operations; time and the cancellation token are part of the state, so `recv` answers at once, with
`cancelled` where the real one would be woken by the token.

* `Transport.inFlight` bounds what can still be received before something new is sent. A loop that
  discards datagrams therefore ends
* `Transport.recorded` keeps a log of the packets handed to `send`, `Transport.received` one of the
  datagrams `recv` hands out
* `Script` is a transport whose every answer is written down beforehand
-/

namespace Udap

open Infra

/-- `TransportError`. -/
inductive TransportError where
  | cancelled
  | io (message : String)
  | interfaceBindUnsupported
deriving DecidableEq

/-- A received datagram and where it came from. -/
abbrev Datagram := Bytes × String

/-- The trait `Transport` over the states `σ`. -/
structure Transport (σ : Type) where
  send : Bytes → σ → Except TransportError Unit × σ
  recv : σ → Except TransportError Datagram × σ
  inFlight : σ → Nat
  recv_lt : ∀ {s s' : σ} {d : Datagram}, recv s = (.ok d, s') → inFlight s' < inFlight s

namespace Transport

/-- The same transport with a log of what was sent. -/
def recorded {σ : Type} (T : Transport σ) : Transport (σ × List Bytes) where
  send packet s := ((T.send packet s.1).1, (T.send packet s.1).2, s.2 ++ [packet])
  recv s := ((T.recv s.1).1, (T.recv s.1).2, s.2)
  inFlight s := T.inFlight s.1
  recv_lt h := by
    simp only [Prod.mk.injEq] at h
    rw [← h.2]
    exact T.recv_lt (Prod.ext h.1 rfl)

/-- The same transport with a log of what was received. -/
def received {σ : Type} (T : Transport σ) : Transport (σ × List Datagram) where
  send packet s := ((T.send packet s.1).1, (T.send packet s.1).2, s.2)
  recv s := ((T.recv s.1).1, (T.recv s.1).2, s.2 ++ (T.recv s.1).1.toOption.toList)
  inFlight s := T.inFlight s.1
  recv_lt h := by
    simp only [Prod.mk.injEq] at h
    rw [← h.2]
    exact T.recv_lt (Prod.ext h.1 rfl)

end Transport

/-! ## Scripts -/

/-- What each `send` and each `recv` answers, in order. -/
structure Script where
  sends : List (Except TransportError Unit)
  recvs : List (Except TransportError Datagram)

namespace Script

/-- Past the end of the script sends succeed and receives are cancelled. -/
def transport : Transport Script where
  send _ s :=
    match s.sends with
    | [] => (.ok (), s)
    | result :: rest => (result, { s with sends := rest })
  recv s :=
    match s.recvs with
    | [] => (.error .cancelled, s)
    | result :: rest => (result, { s with recvs := rest })
  inFlight s := s.recvs.length
  recv_lt {s s' d} h := by
    obtain ⟨sends, recvs⟩ := s
    cases recvs with
    | nil => simp at h
    | cons result rest =>
      simp only [Prod.mk.injEq] at h
      rw [← h.2]
      simp

end Script

end Udap
