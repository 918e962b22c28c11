import Udapcfg.Infra.Ascii
import Udapcfg.Infra.Lines
import Udapcfg.Udap.NetConfig

/-!
# Addresses as text

* `parse_ipText` — an address is read back from its text
* `parseResponse_eq` — of each address in a reply the last one counts
* `display_eq_iff` — configurations are told apart by what they print, but for `0.0.0.0`
-/

namespace Udap

open Infra

/-! ## One address -/

theorem notMem_asciiText {v : Bytes} {c : Char} (hascii : ∀ b ∈ v, b < 0x80)
    (h : ∀ b ∈ v, b ≠ asciiByte c) : c ∉ (asciiText v).toList := by
  rw [asciiText, String.toList_ofList, List.mem_map]
  rintro ⟨b, hb, rfl⟩
  exact h b hb (asciiByte_asciiChar (hascii b hb)).symm

theorem isDigit_lt {b : UInt8} (h : isDigit b = true) : b < 0x80 := by
  rw [UInt8.lt_iff_toNat_lt]
  exact Nat.lt_of_le_of_lt (isDigit_iff.mp h).2 (by decide)

/-- An address is written with digits and dots. -/
theorem mem_format {ip : Ipv4Addr} {b : UInt8} (h : b ∈ ip.format) : isDigit b = true ∨ b = 0x2E := by
  simp only [Ipv4Addr.format, List.mem_append, List.mem_cons] at h
  rcases h with h | h | h | h | h | h | h
  all_goals first | exact .inl (isDigit_of_mem_decimal h) | exact .inr h

theorem ipText_eq (ip : Ipv4Addr) : ipText ip = asciiText ip.format := rfl

theorem format_lt {ip : Ipv4Addr} : ∀ b ∈ ip.format, b < 0x80 := by
  intro b hb
  rcases mem_format hb with hdigit | rfl
  · exact isDigit_lt hdigit
  · decide

theorem notMem_ipText (ip : Ipv4Addr) {c : Char} (hdigit : isDigit (asciiByte c) = false)
    (hdot : asciiByte c ≠ 0x2E) : c ∉ (ipText ip).toList := by
  refine notMem_asciiText format_lt ?_
  rintro b hb rfl
  rcases mem_format hb with h | h
  · rw [hdigit] at h
    cases h
  · exact hdot h

theorem parse_ipText (ip : Ipv4Addr) : Ipv4Addr.parse (strBytes (ipText ip)) = some ip := by
  rw [ipText_eq, strBytes_asciiText format_lt, Ipv4Addr.parse_format]

theorem ipText_ne_nil (ip : Ipv4Addr) : (ipText ip).toList ≠ [] := by
  rw [ipText_eq, asciiText, String.toList_ofList, ne_eq, List.map_eq_nil_iff]
  simp [Ipv4Addr.format]

/-! ## Replies -/

/-- The address of an entry, if it has this tag. -/
def addressOf (tag : UInt8) (entry : Tlv) : Option Ipv4Addr :=
  match entry.value with
  | [a, b, c, d] => if entry.tag = tag then some ⟨a, b, c, d⟩ else none
  | _ => none

/-- The last address of a reply that has this tag. -/
def lastAddress (tag : UInt8) (data : Bytes) : Option Ipv4Addr :=
  ((Tlv.decode data).filterMap (addressOf tag)).getLast?

theorem applyEntry_eq (config : NetworkConfig) (entry : Tlv) : GetIp.applyEntry config entry
    = ⟨(addressOf GetIp.tlvIpAddr entry).or config.ip,
      (addressOf GetIp.tlvSubnetMask entry).or config.subnetMask,
      (addressOf GetIp.tlvGatewayAddr entry).or config.gateway⟩ := by
  have hmask : GetIp.tlvSubnetMask ≠ GetIp.tlvIpAddr := by decide
  have hgateway : GetIp.tlvGatewayAddr ≠ GetIp.tlvIpAddr := by decide
  have hgateway' : GetIp.tlvGatewayAddr ≠ GetIp.tlvSubnetMask := by decide
  obtain ⟨tag, value⟩ := entry
  -- only four bytes are an address
  rcases value with _ | ⟨a, _ | ⟨b, _ | ⟨c, _ | ⟨d, _ | ⟨e, rest⟩⟩⟩⟩⟩
  case cons.cons.cons.cons.nil =>
    simp only [GetIp.applyEntry, addressOf]
    split
    · next h => simp [h, hmask.symm, hgateway.symm]
    · split
      · next h => simp [h, hgateway'.symm]
      · split
        · simp
        · simp
  all_goals rfl

/-- What comes last, with something to fall back on. -/
theorem or_getLast?_cons {α : Type} (x : Option α) (xs : List α) (d : Option α) :
    ((x.toList ++ xs).getLast?).or d = (xs.getLast?).or (x.or d) := by
  cases x with
  | none => rfl
  | some a =>
    rw [List.getLast?_append]
    cases xs.getLast? <;> rfl

theorem foldl_applyEntry (entries : List Tlv) (config : NetworkConfig) :
    entries.foldl GetIp.applyEntry config
      = ⟨((entries.filterMap (addressOf GetIp.tlvIpAddr)).getLast?).or config.ip,
        ((entries.filterMap (addressOf GetIp.tlvSubnetMask)).getLast?).or config.subnetMask,
        ((entries.filterMap (addressOf GetIp.tlvGatewayAddr)).getLast?).or config.gateway⟩ := by
  have hcons (tag : UInt8) (entry : Tlv) (entries : List Tlv) :
      (entry :: entries).filterMap (addressOf tag)
        = (addressOf tag entry).toList ++ entries.filterMap (addressOf tag) := by
    rw [List.filterMap_cons]
    cases addressOf tag entry <;> rfl
  induction entries generalizing config with
  | nil => rfl
  | cons entry entries ih =>
    rw [List.foldl_cons, ih, applyEntry_eq, hcons, hcons, hcons, or_getLast?_cons, or_getLast?_cons,
      or_getLast?_cons]

/-- **Of each address the last one counts.** -/
theorem parseResponse_eq (data : Bytes) : GetIp.parseResponse data
    = ⟨lastAddress GetIp.tlvIpAddr data, lastAddress GetIp.tlvSubnetMask data,
      lastAddress GetIp.tlvGatewayAddr data⟩ := by
  rw [GetIp.parseResponse, foldl_applyEntry]
  simp only [Option.or_none, lastAddress]

/-! ## What is printed -/

/-- An address as far as it is printed. -/
def shown (ip : Option Ipv4Addr) : Option Ipv4Addr := ip.filter fun ip => !isUnspecified ip

theorem orDash_eq (ip : Option Ipv4Addr) : orDash ip = (shown ip).elim "-" ipText := by
  cases ip with
  | none => rfl
  | some ip =>
    rw [orDash, shown, Option.filter_some]
    cases isUnspecified ip <;> rfl

/-- A dash is no address. -/
theorem parse_orDash (ip : Option Ipv4Addr) : Ipv4Addr.parse (strBytes (orDash ip)) = shown ip := by
  rw [orDash_eq]
  cases shown ip with
  | none => decide
  | some ip => exact parse_ipText ip

theorem orDash_inj {ip ip' : Option Ipv4Addr} : orDash ip = orDash ip' ↔ shown ip = shown ip' := by
  constructor
  · intro h
    rw [← parse_orDash, h, parse_orDash]
  · intro h
    rw [orDash_eq, h, orDash_eq]

theorem newline_notMem_orDash (ip : Option Ipv4Addr) : '\n' ∉ (orDash ip).toList := by
  rw [orDash_eq]
  cases shown ip with
  | none => decide
  | some ip => exact notMem_ipText ip (by decide) (by decide)

/-- The lines of what is printed. -/
def reportLines (config : NetworkConfig) : List String :=
  ["IP:      " ++ orDash config.ip, "Subnet:  " ++ orDash config.subnetMask,
    "Gateway: " ++ orDash config.gateway]

theorem lines_display (config : NetworkConfig) :
    lines (config.display ++ "\n") = reportLines config := by
  have hunlines : config.display ++ "\n" = unlines (reportLines config) := by
    refine String.toList_inj.mp ?_
    simp [NetworkConfig.display, reportLines, unlines]
  rw [hunlines, lines_unlines]
  intro line hline
  simp only [reportLines, List.mem_cons, List.not_mem_nil, or_false] at hline
  rcases hline with rfl | rfl | rfl <;> rw [String.toList_append, List.mem_append, not_or] <;>
    exact ⟨by decide, newline_notMem_orDash _⟩

theorem display_eq_iff {config config' : NetworkConfig} : config.display = config'.display ↔
    shown config.ip = shown config'.ip ∧ shown config.subnetMask = shown config'.subnetMask ∧
      shown config.gateway = shown config'.gateway := by
  rw [← orDash_inj, ← orDash_inj, ← orDash_inj]
  constructor
  · intro h
    have hlines : reportLines config = reportLines config' := by
      rw [← lines_display, h, lines_display]
    have hcancel {label s s' : String} (h : label ++ s = label ++ s') : s = s' := by
      have hchars := congrArg String.toList h
      rw [String.toList_append, String.toList_append] at hchars
      exact String.toList_inj.mp (List.append_cancel_left hchars)
    simp only [reportLines, List.cons.injEq] at hlines
    exact ⟨hcancel hlines.1, hcancel hlines.2.1, hcancel hlines.2.2.1⟩
  · rintro ⟨hip, hmask, hgateway⟩
    rw [NetworkConfig.display, NetworkConfig.display, hip, hmask, hgateway]

/-- **What is printed of a reply** tells which addresses it has, and no more: of each of the three
the last entry of four bytes, where `0.0.0.0` is none. -/
theorem report_eq_iff (data data' : Bytes) :
    (GetIp.parseResponse data).display = (GetIp.parseResponse data').display ↔
      ∀ tag ∈ [GetIp.tlvIpAddr, GetIp.tlvSubnetMask, GetIp.tlvGatewayAddr],
        shown (lastAddress tag data) = shown (lastAddress tag data') := by
  rw [display_eq_iff, parseResponse_eq, parseResponse_eq]
  simp

end Udap
