import Udapcfg.Infra.Decimal
import Udapcfg.Infra.Utf8

/-!
# The table of NVRAM parameters

`parameters.rs`: one row per parameter, the two legacy aliases, and the encoding of a value to its
NVRAM width.

The help texts and placeholders of the table are only printed by the CLI and are left out.
-/

namespace Udap

open Infra

/-- `EncodeError`. The value is rendered for the message only. -/
inductive EncodeError where
  | notU8 (value : String)
  | notU16 (value : String)
  | notIpv4 (value : String)
deriving DecidableEq

/-- One NVRAM-resident parameter. -/
structure Parameter where
  name : String
  offset : UInt16
  length : UInt16
  factoryDefault : String
deriving DecidableEq

/-- `PARAMETERS`. -/
def parameters : List Parameter := [
  { name := "lan_ip_mode", offset := 4, length := 1, factoryDefault := "1" },
  { name := "lan_network_address", offset := 5, length := 4, factoryDefault := "0.0.0.0" },
  { name := "lan_subnet_mask", offset := 9, length := 4, factoryDefault := "255.255.255.0" },
  { name := "lan_gateway", offset := 13, length := 4, factoryDefault := "0.0.0.0" },
  { name := "hostname", offset := 17, length := 33, factoryDefault := "" },
  { name := "bridging", offset := 50, length := 1, factoryDefault := "0" },
  { name := "interface", offset := 52, length := 1, factoryDefault := "128" },
  { name := "primary_dns", offset := 59, length := 4, factoryDefault := "0.0.0.0" },
  { name := "secondary_dns", offset := 67, length := 4, factoryDefault := "0.0.0.0" },
  { name := "server_address", offset := 71, length := 4, factoryDefault := "0.0.0.0" },
  { name := "lms_address", offset := 79, length := 4, factoryDefault := "0.0.0.0" },
  { name := "squeezecenter_name", offset := 83, length := 33, factoryDefault := "" },
  { name := "wireless_mode", offset := 173, length := 1, factoryDefault := "0" },
  { name := "wireless_SSID", offset := 183, length := 33, factoryDefault := "" },
  { name := "wireless_channel", offset := 216, length := 1, factoryDefault := "6" },
  { name := "wireless_region_id", offset := 218, length := 1, factoryDefault := "4" },
  { name := "wireless_keylen", offset := 220, length := 1, factoryDefault := "0" },
  { name := "wireless_wep_key", offset := 222, length := 13, factoryDefault := "" },
  { name := "wireless_wep_key_1", offset := 235, length := 13, factoryDefault := "" },
  { name := "wireless_wep_key_2", offset := 248, length := 13, factoryDefault := "" },
  { name := "wireless_wep_key_3", offset := 261, length := 13, factoryDefault := "" },
  { name := "wireless_wep_on", offset := 274, length := 1, factoryDefault := "0" },
  { name := "wireless_wpa_cipher", offset := 275, length := 1, factoryDefault := "3" },
  { name := "wireless_wpa_mode", offset := 276, length := 1, factoryDefault := "1" },
  { name := "wireless_wpa_on", offset := 277, length := 1, factoryDefault := "0" },
  { name := "wireless_wpa_psk", offset := 278, length := 64, factoryDefault := "" }]

/-- `ALIASES`: legacy names of an existing parameter. They resolve on lookup only. -/
def aliases : List (String × String) := [
  ("slimserver_address", "server_address"),
  ("squeezecenter_address", "server_address")]

/-- `by_name`: a canonical name, else an alias. -/
def byName (name : String) : Option Parameter :=
  match parameters.find? (fun p => p.name = name) with
  | some p => some p
  | none =>
    match aliases.find? (fun a => a.1 = name) with
    | none => none
    | some (_, canonical) => parameters.find? (fun p => p.name = canonical)

/-- `by_offset`. -/
def byOffset (offset : UInt16) : Option Parameter := parameters.find? (fun p => p.offset = offset)

/-- `names`: every canonical name, in table order. -/
def names : List String := parameters.map Parameter.name

namespace Parameter

/-- Zero-padded to `width`, cut if longer. -/
def padTo (width : Nat) (value : Bytes) : Bytes :=
  let take := min value.length width
  value.take take ++ (zeros width).drop take

/--
`Parameter::encode`. The width decides: 1 is a `u8`, 2 a big-endian `u16`, 4 an IPv4 address,
anything else raw bytes.
-/
def encode (p : Parameter) (value : Bytes) : Except EncodeError Bytes :=
  match p.length.toNat with
  | 1 =>
    match parseUnsigned 255 value with
    | none => .error (.notU8 (fromUtf8Lossy value))
    | some n => .ok [UInt8.ofNat n]
  | 2 =>
    match parseUnsigned 65535 value with
    | none => .error (.notU16 (fromUtf8Lossy value))
    | some n => .ok (u16ToBe (UInt16.ofNat n))
  | 4 =>
    match Ipv4Addr.parse value with
    | none => .error (.notIpv4 (fromUtf8Lossy value))
    | some ip => .ok ip.octets
  | width => .ok (padTo width value)

end Parameter

/-! ## The table -/

theorem offsets_nodup : (parameters.map Parameter.offset).Nodup := by decide +kernel

theorem byName_name : ∀ p ∈ parameters, byName p.name = some p := by decide +kernel

theorem byOffset_offset : ∀ p ∈ parameters, byOffset p.offset = some p := by decide +kernel

theorem byOffset_eq_some {offset : UInt16} {p : Parameter} (h : byOffset offset = some p) :
    p ∈ parameters ∧ p.offset = offset := by
  refine ⟨List.mem_of_find?_eq_some h, ?_⟩
  simpa using List.find?_some h

theorem byName_eq_some {name : String} {p : Parameter} (h : byName name = some p) :
    p ∈ parameters ∧ (p.name = name ∨ (name, p.name) ∈ aliases) := by
  unfold byName at h
  split at h
  · next q hq =>
    cases h
    exact ⟨List.mem_of_find?_eq_some hq, Or.inl (by simpa using List.find?_some hq)⟩
  · split at h
    · simp at h
    · next _ canonical halias =>
      have hmem := List.mem_of_find?_eq_some halias
      have hname := List.find?_some halias
      have hcanon := List.find?_some h
      simp only [decide_eq_true_eq] at hname hcanon
      refine ⟨List.mem_of_find?_eq_some h, Or.inr ?_⟩
      rw [hcanon, ← hname]
      exact hmem

theorem byName_mem {name : String} {p : Parameter} (h : byName name = some p) :
    p ∈ parameters := (byName_eq_some h).1

theorem eq_of_offset_eq {p q : Parameter} (hp : p ∈ parameters) (hq : q ∈ parameters)
    (h : p.offset = q.offset) : p = q := by
  have hpo := byOffset_offset p hp
  rw [h, byOffset_offset q hq] at hpo
  exact (Option.some.inj hpo).symm

theorem eq_of_name_eq {p q : Parameter} (hp : p ∈ parameters) (hq : q ∈ parameters)
    (h : p.name = q.name) : p = q := by
  have hpn := byName_name p hp
  rw [h, byName_name q hq] at hpn
  exact (Option.some.inj hpn).symm

theorem mem_names_iff {name : String} : name ∈ names ↔ ∃ p ∈ parameters, p.name = name :=
  List.mem_map

/-! ## Widths -/

namespace Parameter

theorem length_padTo (width : Nat) (value : Bytes) : (padTo width value).length = width := by
  simp only [padTo, List.length_append, List.length_take, List.length_drop, length_zeros]
  omega

theorem padTo_of_le {width : Nat} {value : Bytes} (h : value.length ≤ width) :
    padTo width value = value ++ zeros (width - value.length) := by
  rw [padTo, Nat.min_eq_left h, List.take_length, zeros, List.drop_replicate]
  rfl

/-- Exactly `length` bytes come out. -/
theorem length_encode {p : Parameter} {value b : Bytes} (h : p.encode value = .ok b) :
    b.length = p.length.toNat := by
  unfold encode at h
  split at h
  · next hw =>
    split at h
    · simp at h
    · cases h; rw [hw]; rfl
  · next hw =>
    split at h
    · simp at h
    · cases h; rw [hw]; rfl
  · next hw =>
    split at h
    · simp at h
    · cases h; rw [hw]; rfl
  · cases h; exact length_padTo _ value

end Parameter

end Udap
