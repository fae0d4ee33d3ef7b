import Mathlib.Data.List.Infix

/-!
# The bill of materials of a zone (simulate/bom.rs)

Next to its controllers a zone carries the assets of its Purdue level: a firewall at its edge,
switches, operator stations, servers. `bomFor` lists the classes and how many of each; `hostnameFor`
names an asset the way an OT engineer would.

The classes are an enumeration here and labels in the ledger: `label` writes one and `ofLabel` reads
it, and a label that no class has is read as a controller's. The tables of vendors, models and name
parts are those of the source, entry by entry, since the results about hostnames rest on which
entries agree. Names are made of a few fixed parts joined by dashes, under the domain of the zone if
there is one; numbers are padded to two digits and go on to three from a hundred on.
-/

namespace TurboLaser

/-- `AssetType`. -/
inductive AssetType where
  | controller
  | switch
  | router
  | hmi
  | engWorkstation
  | historian
  | firewall
  | server
deriving DecidableEq

namespace AssetType

/-- `label`, as the ledger stores it. -/
def label : AssetType → String
  | controller => "Controller"
  | switch => "Switch"
  | router => "Router"
  | hmi => "HMI"
  | engWorkstation => "EWS"
  | historian => "Historian"
  | firewall => "Firewall"
  | server => "Server"

/-- `host_token`. -/
def hostToken : AssetType → String
  | controller => "PLC"
  | switch => "SW"
  | router => "RTR"
  | hmi => "HMI"
  | engWorkstation => "EWS"
  | historian => "HIST"
  | firewall => "FW"
  | server => "SRV"

/-- `cve_bearing`. -/
def cveBearing : AssetType → Bool
  | controller | switch | router | firewall => true
  | hmi | engWorkstation | historian | server => false

/-- `bom_vendor`: the maker a class is branded with. -/
def bomVendor : AssetType → String
  | firewall => "Fortinet"
  | switch => "Cisco Systems"
  | router => "Cisco Systems"
  | hmi => "Advantech"
  | engWorkstation => "Dell"
  | historian => "Hewlett Packard"
  | server => "VMware"
  | controller => ""

/-- `bom_model`. -/
def bomModel : AssetType → String
  | firewall => "FortiGate 40F"
  | switch => "Catalyst IE-3300"
  | router => "ISR 4321"
  | hmi => "WebOP-2070T"
  | engWorkstation => "OptiPlex 7090"
  | historian => "ProLiant DL360"
  | server => "ESXi Host"
  | controller => ""

/-- The class a stored label names; anything unknown is a controller. -/
def ofLabel : Option String → AssetType
  | some "Switch" => switch
  | some "Router" => router
  | some "HMI" => hmi
  | some "EWS" => engWorkstation
  | some "Historian" => historian
  | some "Firewall" => firewall
  | some "Server" => server
  | _ => controller

end AssetType

/-- `bom_for`. -/
def bomFor (purdueLevel : Nat) : List (AssetType × Nat) :=
  match purdueLevel with
  | 1 => [(.firewall, 1), (.switch, 1), (.hmi, 1), (.engWorkstation, 1)]
  | 2 => [(.firewall, 1), (.switch, 1), (.hmi, 1), (.engWorkstation, 1), (.historian, 1)]
  | 3 =>
    [(.firewall, 1), (.router, 1), (.switch, 1), (.historian, 1), (.server, 4),
      (.engWorkstation, 2)]
  | _ => [(.firewall, 1)]

/-! ## Names -/

/-- `str::contains`. -/
def textContains (s sub : String) : Bool := decide (sub.toList <:+: s.toList)

/-- `{:02}`. -/
def pad2 (n : Nat) : String := if n < 10 then "0" ++ toString n else toString n

/-- `vendor_style`: the area prefix and the controller token of a vendor. -/
def vendorStyle (vendor : Option String) : String × String :=
  let v := vendor.getD ""
  if textContains v "Rockwell" then ("LINE", "PLC")
  else if textContains v "Siemens" then ("CELL", "S7")
  else if textContains v "Schneider" then ("LINE", "M340")
  else if textContains v "GE" then ("LINE", "RX3i")
  else if textContains v "ABB" then ("LINE", "AC500")
  else ("LINE", "PLC")

/-- `hostname_for`. -/
def hostnameFor (vendor : Option String) (assetType : AssetType) (areaIdx devIdx : Nat)
    (domain : Option String) : String :=
  let area := pad2 (areaIdx + 1)
  let dev := pad2 (devIdx + 1)
  let host :=
    match assetType with
    | .controller =>
      let (head, token) := vendorStyle vendor
      head ++ "-" ++ area ++ "-" ++ token ++ "-" ++ dev
    | .firewall => "FW-" ++ area
    | .historian => "HIST-" ++ area
    | other => other.hostToken ++ "-" ++ area ++ "-" ++ dev
  match domain with
  | some d => if d = "" then host else host ++ "." ++ d
  | none => host

end TurboLaser
