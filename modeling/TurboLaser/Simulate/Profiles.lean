import Mathlib.Data.List.AList
import TurboLaser.Proto.Mac

/-!
# Device profiles and vendor prefixes (vuln/mod.rs, oui/mod.rs)

A profile pairs a vendor, model and firmware with the CVE ids that firmware is known for;
fabrication stamps devices from profiles. `OuiDb` maps prefixes to vendors and back. Both are tables
loaded from files, and both are arbitrary here.

Of a profile this module has what fabrication reads. A profile is for the core or for the
infrastructure of a plant (`isCore`), and its prefix is a text that may fail to parse; then a device
has the bare hash for its MAC. A vendor may have several prefixes, and a salt picks one of them.
-/

namespace TurboLaser

/-- `ProfileProto`: which protocol assertion carries a profile's identity. -/
inductive ProfileProto where
  | enip
  | modbus
  | s7
  | switchSnmp
deriving DecidableEq

/-- `ProfileProto::as_str`. -/
def ProfileProto.asStr : ProfileProto → String
  | .enip => "enip"
  | .modbus => "modbus"
  | .s7 => "s7"
  | .switchSnmp => "switch_snmp"

/-- `DeviceProfile`, with the fields fabrication and the scenario renderer read. -/
structure DeviceProfile where
  vendor : String
  model : String
  firmware : String
  protocol : ProfileProto
  purdueLevel : Nat
  oui : Option String
  cves : List String
  assetClass : Option String
  s7OrderNumber : Option String := none
deriving DecidableEq

/-- The value of a hexadecimal digit. -/
def hexDigit (c : Char) : Option Nat :=
  if '0' ≤ c ∧ c ≤ '9' then some (c.toNat - 48)
  else if 'a' ≤ c ∧ c ≤ 'f' then some (c.toNat - 87)
  else if 'A' ≤ c ∧ c ≤ 'F' then some (c.toNat - 55)
  else none

/-- Three bytes from a text with six hexadecimal digits, separators skipped. -/
def parsePrefix (s : String) : Option Oui :=
  match s.toList.filterMap hexDigit with
  | [a, b, c, d, e, f] =>
    some ⟨UInt8.ofNat (a * 16 + b), UInt8.ofNat (c * 16 + d), UInt8.ofNat (e * 16 + f)⟩
  | _ => none

/-- `oui_prefix`: the prefix of a profile, if set and well formed. -/
def DeviceProfile.ouiPrefix (p : DeviceProfile) : Option Oui := p.oui.bind parsePrefix

/-- A core profile: not an infrastructure profile the bill of materials places. -/
def DeviceProfile.isCore (p : DeviceProfile) : Bool := p.assetClass.isNone

/-- `VulnDb`. -/
abbrev VulnDb := List DeviceProfile

/-- `by_protocol`. -/
def VulnDb.byProtocol (vuln : VulnDb) (proto : ProfileProto) : List DeviceProfile :=
  vuln.filter fun p => decide (p.protocol = proto)

/-- `by_model`. -/
def VulnDb.byModel (vuln : VulnDb) (model : String) : Option DeviceProfile :=
  vuln.find? fun p => decide (p.model = model)

/-- `OuiDb`. -/
structure OuiDb where
  map : AList fun _ : Oui => String
  byVendor : AList fun _ : String => List Oui

/-- `OuiDb::vendor`: by the first three bytes of the MAC. -/
def OuiDb.vendor (oui : OuiDb) (mac : Mac) : Option String :=
  oui.map.lookup ⟨mac.m0, mac.m1, mac.m2⟩

/-- `oui_for_vendor`: one of the vendor's prefixes, chosen by the salt. -/
def OuiDb.ouiForVendor (oui : OuiDb) (vendor : String) (salt : Nat) : Option Oui :=
  (oui.byVendor.lookup vendor).bind fun prefixes => prefixes[salt % max prefixes.length 1]?

end TurboLaser
