import TurboLaser.Simulate.Profiles

/-!
# The curated profiles (data/vuln_profiles.toml) and the overlay of a pack (vuln/mod.rs)

`VulnDb.embedded` is the set the binary carries, with the fields this development reads. `overlay`
lays the profiles of a pack over it: a profile with a model that is listed replaces the listed one,
any other is added behind.

Profiles are found by their model, and the first one with the model is taken. A replaced profile
stays at the place of the old one, so the order in which the database is searched, and in which the
infrastructure profiles of a class are counted, changes only at the end.

- `byModel_put`: what one profile changes;
- `byModel_overlay`: **the last profile a pack declares for a model is the one found**;
- `overlay_ne_nil`: an overlay never empties the database.
-/

namespace TurboLaser

/-- `VulnDb::embedded`. -/
def VulnDb.embedded : VulnDb :=
  [ { vendor := "Siemens AG"
      model := "SIMATIC S7-1200 CPU 1212C"
      firmware := "V4.2.1", protocol := .s7, purdueLevel := 1
      oui := some "00:0E:8C", cves := ["CVE-2020-15782"]
      assetClass := none, s7OrderNumber := some "6ES7 212-1AE40-0XB0" },
    { vendor := "Siemens AG"
      model := "SIMATIC S7-300 CPU 315-2 PN/DP"
      firmware := "V3.2.12", protocol := .s7, purdueLevel := 1
      oui := some "00:0E:8C", cves := ["CVE-2016-9159"]
      assetClass := none, s7OrderNumber := some "6ES7 315-2EH14-0AB0" },
    { vendor := "Rockwell Automation"
      model := "1756-L61 ControlLogix 5561"
      firmware := "20.011", protocol := .enip, purdueLevel := 1
      oui := some "00:00:BC", cves := ["CVE-2021-22681"]
      assetClass := none, s7OrderNumber := none },
    { vendor := "Rockwell Automation"
      model := "1766-L32BWA MicroLogix 1400"
      firmware := "21.002", protocol := .enip, purdueLevel := 1
      oui := some "00:00:BC", cves := ["CVE-2021-22659"]
      assetClass := none, s7OrderNumber := none },
    { vendor := "Schneider Electric"
      model := "Modicon M340 BMXP342020"
      firmware := "V2.60", protocol := .modbus, purdueLevel := 1
      oui := some "00:80:F4", cves := ["CVE-2018-7811"]
      assetClass := none, s7OrderNumber := none },
    { vendor := "ABB"
      model := "AC500 V3 PM5650"
      firmware := "3.8.0", protocol := .modbus, purdueLevel := 1
      oui := some "00:21:C1", cves := ["CVE-2025-2595"]
      assetClass := none, s7OrderNumber := none },
    { vendor := "GE Fanuc Automation"
      model := "PACSystems RX3i CPE310"
      firmware := "9.20", protocol := .enip, purdueLevel := 1
      oui := some "00:09:91", cves := ["CVE-2018-8867"]
      assetClass := none, s7OrderNumber := none },
    { vendor := "Moxa"
      model := "EDS-405A"
      firmware := "3.4", protocol := .switchSnmp, purdueLevel := 2
      oui := some "00:90:E8", cves := ["CVE-2015-6464", "CVE-2015-6465", "CVE-2015-6466"]
      assetClass := none, s7OrderNumber := none },
    { vendor := "Hirschmann"
      model := "RSP20"
      firmware := "07.0.02", protocol := .switchSnmp, purdueLevel := 2
      oui := some "00:80:63", cves := ["CVE-2020-6994"]
      assetClass := none, s7OrderNumber := none },
    { vendor := "Cisco Systems"
      model := "IE-2000-8TC-G-E Industrial Ethernet Switch"
      firmware := "15.2(4)EA", protocol := .switchSnmp, purdueLevel := 2
      oui := some "00:00:0C", cves := ["CVE-2017-6736"]
      assetClass := none, s7OrderNumber := none },
    { vendor := "Siemens AG"
      model := "SIMATIC S7-1500 CPU 1511-1 PN"
      firmware := "V2.8.1", protocol := .s7, purdueLevel := 1
      oui := some "00:0E:8C", cves := ["CVE-2020-15782"]
      assetClass := none, s7OrderNumber := some "6ES7 511-1AK02-0AB0" },
    { vendor := "Siemens AG"
      model := "SIMATIC S7-400 CPU 414-3 PN/DP"
      firmware := "V6.0.3", protocol := .s7, purdueLevel := 1
      oui := some "00:0E:8C", cves := ["CVE-2016-9159"]
      assetClass := none, s7OrderNumber := some "6ES7 414-3EM07-0AB0" },
    { vendor := "Fortinet"
      model := "FortiGate 100E"
      firmware := "6.0.4", protocol := .switchSnmp, purdueLevel := 3
      oui := some "00:09:0F", cves := ["CVE-2018-13379"]
      assetClass := some "Firewall", s7OrderNumber := none },
    { vendor := "Palo Alto Networks"
      model := "PA-820 Next-Generation Firewall"
      firmware := "10.2.8", protocol := .switchSnmp, purdueLevel := 3
      oui := some "00:1B:17", cves := ["CVE-2024-3400"]
      assetClass := some "Firewall", s7OrderNumber := none },
    { vendor := "Cisco Systems"
      model := "ISR 4321 Integrated Services Router"
      firmware := "16.09.04", protocol := .switchSnmp, purdueLevel := 3
      oui := some "00:00:0C", cves := ["CVE-2023-20198"]
      assetClass := some "Router", s7OrderNumber := none } ]

/-- One profile of a pack over the database: it replaces the first profile of its model, or
is added at the end. -/
def VulnDb.put : VulnDb → DeviceProfile → VulnDb
  | [], p => [p]
  | e :: db, p => if e.model = p.model then p :: db else e :: VulnDb.put db p

/-- The loop of `load_overlay`. -/
def VulnDb.overlay (db : VulnDb) (pack : List DeviceProfile) : VulnDb := pack.foldl VulnDb.put db

/-- The profile a list declares last for a model. -/
def VulnDb.lastByModel (pack : List DeviceProfile) (model : String) : Option DeviceProfile :=
  VulnDb.byModel pack.reverse model

namespace VulnDb

@[simp] theorem byModel_nil (m : String) : byModel [] m = none := rfl

theorem byModel_cons (e : DeviceProfile) (db : VulnDb) (m : String) :
    byModel (e :: db) m = if e.model = m then some e else byModel db m := by
  by_cases h : e.model = m <;> simp [byModel, h]

theorem byModel_append (db db' : VulnDb) (m : String) :
    byModel (db ++ db') m = (byModel db m).or (byModel db' m) := by
  simp [byModel]

/-- Laying one profile over a database changes what is found for its model only. -/
theorem byModel_put (db : VulnDb) (p : DeviceProfile) (m : String) :
    byModel (db.put p) m = if p.model = m then some p else byModel db m := by
  induction db with
  | nil => rw [put, byModel_cons]
  | cons e db ih =>
    rw [put]
    by_cases he : e.model = p.model
    · rw [if_pos he, byModel_cons, byModel_cons, he]
      by_cases hm : p.model = m <;> simp [hm]
    · rw [if_neg he, byModel_cons, byModel_cons, ih]
      by_cases hm : e.model = m
      · rw [if_pos hm, if_pos hm, if_neg (by rw [← hm]; exact fun h => he h.symm)]
      · rw [if_neg hm, if_neg hm]

/-- **What an overlaid database finds: the last profile the pack declares for the model, else
what it found before.** -/
theorem byModel_overlay (db : VulnDb) (pack : List DeviceProfile) (m : String) :
    byModel (db.overlay pack) m = (lastByModel pack m).or (byModel db m) := by
  induction pack generalizing db with
  | nil => rfl
  | cons p pack ih =>
    have hlast : lastByModel (p :: pack) m =
        (lastByModel pack m).or (if p.model = m then some p else none) := by
      rw [lastByModel, List.reverse_cons, byModel_append, byModel_cons, byModel_nil]
      rfl
    rw [show db.overlay (p :: pack) = (db.put p).overlay pack from rfl, ih, byModel_put, hlast]
    by_cases hm : p.model = m <;> simp [hm]

theorem put_ne_nil (db : VulnDb) (p : DeviceProfile) : db.put p ≠ [] := by
  cases db with
  | nil => simp [put]
  | cons e db =>
    rw [put]
    split <;> simp

/-- An overlay never empties a database. -/
theorem overlay_ne_nil {db : VulnDb} (h : db ≠ []) (pack : List DeviceProfile) :
    db.overlay pack ≠ [] := by
  induction pack generalizing db with
  | nil => exact h
  | cons p pack ih => exact ih (put_ne_nil db p)

theorem embedded_ne_nil : embedded ≠ [] := by simp [embedded]

end VulnDb

end TurboLaser
