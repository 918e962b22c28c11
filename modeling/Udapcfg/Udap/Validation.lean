import Udapcfg.Udap.Parameters

/-!
# What a user may supply

`validation.rs`: the rules for the values of flags and config files. They are texts, and their
lengths are counted in bytes.
-/

namespace Udap

open Infra

/-- `ValidationError`. -/
inductive ValidationError where
  | notU8 (value : String)
  | notU16 (value : String)
  | notIpv4 (value : String)
  | tooLong (max : UInt16) (got : Nat)
  | wirelessMode
  | wirelessChannel
  | wirelessKeylen
  | wpaPskLength
  | ssidLength
deriving DecidableEq

/-- `parses_as_unsigned`, for the type with largest value `max`: no sign, which `FromStr` allows. -/
def parsesAsUnsigned (max : Nat) (value : String) : Bool :=
  (strBytes value).head? ≠ some 0x2B && (parseUnsigned max (strBytes value)).isSome

/-- The first half of `validate_parameter`: what the width asks for. -/
def validateWidth (param : Parameter) (value : String) : Except ValidationError Unit :=
  match param.length.toNat with
  | 1 => if parsesAsUnsigned 255 value then .ok () else .error (.notU8 value)
  | 2 => if parsesAsUnsigned 65535 value then .ok () else .error (.notU16 value)
  | 4 => if (Ipv4Addr.parse (strBytes value)).isSome then .ok () else .error (.notIpv4 value)
  | max =>
    if max < (strBytes value).length then
      .error (.tooLong param.length (strBytes value).length)
    else .ok ()

/-- The second half: the rules that are a parameter's own. They go by the name the user gave. -/
def validateRule (name value : String) : Except ValidationError Unit :=
  if name = "wireless_mode" then
    if value ≠ "0" ∧ value ≠ "1" then .error .wirelessMode else .ok ()
  else if name = "wireless_channel" then
    let channel :=
      if parsesAsUnsigned 4294967295 value then parseUnsigned 4294967295 (strBytes value) else none
    match channel with
    | some ch => if 1 ≤ ch ∧ ch ≤ 13 then .ok () else .error .wirelessChannel
    | none => .error .wirelessChannel
  else if name = "wireless_keylen" then
    if value ≠ "5" ∧ value ≠ "13" then .error .wirelessKeylen else .ok ()
  else if name = "wireless_wpa_psk" ∧
      ¬ (8 ≤ (strBytes value).length ∧ (strBytes value).length ≤ 63) then .error .wpaPskLength
  else if name = "wireless_SSID" ∧
      ¬ (1 ≤ (strBytes value).length ∧ (strBytes value).length ≤ 32) then .error .ssidLength
  else .ok ()

/-- `validate_parameter`. A name that is not known is let through. -/
def validateParameter (name value : String) : Except ValidationError Unit :=
  match byName name with
  | none => .ok ()
  | some param =>
    match validateWidth param value with
    | .error e => .error e
    | .ok () => validateRule name value

theorem validateWidth_of_validateParameter {name value : String} {p : Parameter}
    (hname : byName name = some p) (h : validateParameter name value = .ok ()) :
    validateWidth p value = .ok () := by
  unfold validateParameter at h
  rw [hname] at h
  cases hwidth : validateWidth p value with
  | error e =>
    simp only [hwidth] at h
    cases h
  | ok u => rfl

/-- The values that the tests of the source accept and reject. -/
example : validateParameter "wireless_channel" "6" = .ok () ∧
    validateParameter "wireless_channel" "14" = .error .wirelessChannel ∧
    validateParameter "lan_ip_mode" "+1" = .error (.notU8 "+1") ∧
    validateParameter "wireless_SSID" "" = .error .ssidLength := by decide +kernel

end Udap
