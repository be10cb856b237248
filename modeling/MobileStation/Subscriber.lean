import MobileStation.Config
import MobileStation.Element.Identity
import MobileStation.State

/-!
# The subscriber

What the station knows about the SIM: its identities, the stored location area, the update status,
and the networks it may not use.
-/

namespace MobileStation

/-- The key sequence number that stands for no key. -/
def noKey : UInt8 := 7

/-- The subscriber as the station knows it. -/
structure Subscriber where
  /-- A usable SIM is inserted. -/
  simValid : Bool := false
  status : UpdateStatus := .notUpdated
  /-- The stored location area, of use while `laiValid`. -/
  lai : Lai := default
  laiValid : Bool := false
  /-- The temporary identity, of use while `tmsiValid`. -/
  tmsi : UInt32 := 0
  tmsiValid : Bool := false
  imsi : String := ""
  keySequence : UInt8 := noKey
  /-- The network knows that the station is switched on. -/
  attached : Bool := false
  /-- The network wants to be told of attach and detach. -/
  attachAllowed : Bool := false
  /-- The access classes, one bit a class. -/
  accessClasses : UInt16 := 0
  /-- Barring of access does not apply. -/
  barringOverride : Bool := false
  imei : String
  imeisv : String
  /-- The forbidden networks, in the order in which they were added. -/
  forbidden : List Plmn := []
  deriving DecidableEq

namespace Subscriber

/-! ## Start -/

/-- A station without a SIM. -/
def withoutSim (imei imeisv : String) : Subscriber := { imei := imei, imeisv := imeisv }

/-- The subscriber of a configuration. -/
def ofConfig (c : Config) : Subscriber :=
  match c.sim with
  | none => withoutSim c.imei c.imeisv
  | some sim =>
    { simValid := true
      status := if sim.updated then .updated else .notUpdated
      lai := sim.lai.getD default
      laiValid := sim.lai.isSome
      tmsi := sim.tmsi.getD 0
      tmsiValid := sim.tmsi.isSome
      imsi := sim.imsi
      keySequence := sim.keySequence
      accessClasses := sim.accessClasses
      imei := c.imei
      imeisv := c.imeisv }

/-! ## Registration -/

/-- The last location update was accepted. -/
def isUpdated (s : Subscriber) : Bool := s.status = .updated

/-- Forgets the stored location area, the temporary identity and the key. -/
def invalidate (s : Subscriber) : Subscriber :=
  { s with laiValid := false, tmsiValid := false, keySequence := noKey }

/-- The stored location area is valid and is `lai`. -/
def isRegisteredIn (s : Subscriber) (lai : Lai) : Bool := s.laiValid && s.lai = lai

/-- The identity shown to the network: the temporary one if there is one. -/
def identity (s : Subscriber) : MobileIdentity :=
  if s.tmsiValid then .tmsi s.tmsi else .imsi s.imsi

/-! ## Forbidden networks -/

/-- The network is forbidden. -/
def isForbidden (s : Subscriber) (plmn : Plmn) : Bool := s.forbidden.contains plmn

/-- Forbids a network. -/
def forbid (s : Subscriber) (plmn : Plmn) : Subscriber :=
  if s.isForbidden plmn then s else { s with forbidden := s.forbidden ++ [plmn] }

/-- Lifts the ban of a network. -/
def allow (s : Subscriber) (plmn : Plmn) : Subscriber :=
  { s with forbidden := s.forbidden.filter (· ≠ plmn) }

/-! ## Text -/

/-- The subscriber in words. -/
def text (s : Subscriber) : String :=
  if s.simValid then
    "IMSI " ++ s.imsi ++ " " ++ s.status.text ++
      (if s.laiValid then " LAI " ++ s.lai.text else "") ++
      (if s.tmsiValid then " TMSI 0x" ++ Text.hexadecimal 8 s.tmsi.toNat else "")
  else "no SIM"

end Subscriber

end MobileStation
