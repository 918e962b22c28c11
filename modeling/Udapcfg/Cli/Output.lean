import Udapcfg.Infra.Ascii
import Udapcfg.Udap.Host

/-!
# Output of the command line

`output.rs`: the table of `udapcfg interfaces`.
-/

namespace UdapCli

open Infra Udap

/-! ## The console -/

/--
What an invocation has had done, and what it has written. `messages` is what it writes to `stderr`
itself; the log goes there too, and is left out.
-/
structure Console where
  effects : Effects
  stdout : String
  messages : String
deriving DecidableEq

/-- Nothing yet. -/
def Console.start : Console := ⟨Effects.start, "", ""⟩

abbrev Invocation := StateM Console

/-- What writes nothing. -/
def silently {α : Type} (process : Process α) : Invocation α := fun console =>
  ((process console.effects).1, { console with effects := (process console.effects).2 })

/-- `writeln!` to `stdout`. -/
def println (line : String) : Invocation Unit :=
  modify fun console => { console with stdout := console.stdout ++ line ++ "\n" }

/-- `writeln!` to `stderr`. -/
def eprintln (line : String) : Invocation Unit :=
  modify fun console => { console with messages := console.messages ++ line ++ "\n" }

/-! ## The table -/

/-- `{:<width}`. The width is in characters, and a text that is longer is not cut. -/
def padRight (width : Nat) (s : String) : String :=
  s ++ String.ofList (List.replicate (width - s.length) ' ')

/-- `Display` of an index. -/
def indexText (index : UInt32) : String := asciiText (decimal index.toNat)

def tableHeader : String := "NAME            INDEX  ADDRESS            BROADCAST"

/-- One row of the table. -/
def tableRow (ni : NetInterface) : String :=
  padRight 15 ni.name ++ " " ++ padRight 5 (indexText ni.index) ++ "  " ++
    padRight 18 (ipText ni.addr) ++ " " ++ ipText ni.broadcast

/-- `format_interfaces_table`, to `stdout`. -/
def formatInterfacesTable (ifs : List NetInterface) : Invocation Unit := do
  if ifs.isEmpty then return
  println tableHeader
  ifs.forM fun ni => println (tableRow ni)

end UdapCli
