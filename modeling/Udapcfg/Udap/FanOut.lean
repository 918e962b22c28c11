import Udapcfg.Udap.MultiTransport

/-!
# Sending on several transports

`transport/multi.rs`: `MultiTransport::send` sends on every child, whether `recv` has retired it or
not. It fails only if every child does, with a text that lists what the children said.
-/

namespace Udap

open Infra

/-! ## Error texts -/

/-- `Display` of a `TransportError`. -/
def TransportError.display : TransportError → String
  | .cancelled => "operation cancelled"
  | .io message => "transport I/O: " ++ message
  | .interfaceBindUnsupported =>
    "binding egress to a specific network interface is not supported on this platform"

/-- `{:?}` of one character of a string. What is `printable` is for Unicode's tables to say. -/
def debugChar (printable : Char → Bool) (c : Char) : String :=
  match c.toNat with
  | 0x00 => "\\0"
  | 0x09 => "\\t"
  | 0x0a => "\\n"
  | 0x0d => "\\r"
  | 0x22 => "\\\""
  | 0x5c => "\\\\"
  | code =>
    if printable c then String.singleton c
    else "\\u\x7b" ++ String.ofList (Nat.toDigits 16 code) ++ "\x7d"

/-- `{:?}` of a `String`. -/
def debugString (printable : Char → Bool) (s : String) : String :=
  "\"" ++ String.join (s.toList.map (debugChar printable)) ++ "\""

/-- `{:?}` of a `Vec<String>`. -/
def debugList (printable : Char → Bool) (strings : List String) : String :=
  "[" ++ ", ".intercalate (strings.map (debugString printable)) ++ "]"

/-- The error of a send on which every child has failed. -/
def allFailed (printable : Char → Bool) (failures : List String) : TransportError :=
  .io ("all children failed: " ++ debugList printable failures)

/-! ## Children -/

/-- The `send` of a child. The children share a state, so that one may meddle with another. -/
abbrev Sender (σ : Type) := Bytes → σ → Except TransportError Unit × σ

/-- A `MultiTransport` with what its children send on. -/
structure FanOut (σ : Type) where
  /-- What `recv` works on. -/
  multi : MultiTransport
  senders : List (Sender σ)
  paired : senders.length = multi.children.length
  state : σ

namespace FanOut

variable {σ : Type}

/-- The loop of `send`: the texts of the failures, the number of successes. -/
def sendChildren (packet : Bytes) : List (Sender σ) → List String → Nat → σ → List String × Nat × σ
  | [], failures, successes, s => (failures, successes, s)
  | send :: senders, failures, successes, s =>
    match send packet s with
    | (.ok (), s) => sendChildren packet senders failures (successes + 1) s
    | (.error e, s) => sendChildren packet senders (failures ++ [e.display]) successes s

/-- `send`. The flags of `recv` are not looked at. -/
def send (printable : Char → Bool) (packet : Bytes) (f : FanOut σ) :
    Except TransportError Unit × FanOut σ :=
  match sendChildren packet f.senders [] 0 f.state with
  | (failures, 0, s) => (.error (allFailed printable failures), { f with state := s })
  | (_, _, s) => (.ok (), { f with state := s })

/-- The transport that sends so and receives as `R` does. -/
def transport (printable : Char → Bool) (R : Transport (FanOut σ)) : Transport (FanOut σ) :=
  { R with send := send printable }

end FanOut

end Udap
