import MobileStation.Area
import MobileStation.Primitive

/-!
# The serving cell

What cell selection tells the station: how it camps, the location area, the barring data, and the
list of forbidden location areas.

Main statement: `isForbidden_reselect` (the forbidden areas survive a change of the cell).
-/

namespace MobileStation

/-- How the station camps. -/
inductive Camping where
  | notCamped
  /-- On a suitable cell. -/
  | normally
  /-- On an acceptable cell, for emergency calls. -/
  | anyCell
  deriving DecidableEq, Inhabited

/-- The serving cell. -/
structure ServingCell where
  camping : Camping := .notCamped
  lai : Lai := default
  /-- The cell is barred. -/
  barred : Bool := false
  /-- The barred access classes, one bit a class. -/
  classBarred : UInt16 := 0
  /-- Type 3 of the system information has been received. -/
  si3 : Bool := false
  /-- Attach and detach are wanted by the network. -/
  attachAllowed : Bool := false
  /-- The forbidden location areas, in the order in which they were added. -/
  forbidden : List Lai := []
  deriving DecidableEq, Inhabited

namespace ServingCell

/-- A suitable cell in `lai` without barring. -/
def campedIn (lai : Lai) : ServingCell := { camping := .normally, lai := lai }

/-- Camped on a suitable cell. -/
def campedNormally (c : ServingCell) : Bool := c.camping = .normally

/-- Camped on a cell of whatever kind. -/
def campedAny (c : ServingCell) : Bool := c.camping ≠ .notCamped

/-- Moves to another cell. The forbidden areas stay, and those of the new cell are dropped. -/
def reselect (c new : ServingCell) : ServingCell := { new with forbidden := c.forbidden }

/-- Takes over the barring and attach data of system information. -/
def applySystemInformation (c : ServingCell) (info : SystemInformation) : ServingCell :=
  { c with
    si3 := info.si3
    attachAllowed := info.attachAllowed
    barred := info.cellBarred
    classBarred := info.classBarred }

/-- The access classes that count for access. Class 10 stands for emergency calls and does not. -/
def ordinaryClasses (classes : UInt16) : UInt16 := classes &&& 0xFBFF

/-- A subscriber with these access classes may not use the cell: it is barred, or all of the classes
are. `override` lifts all barring. -/
def accessBarred (c : ServingCell) (classes : UInt16) (override : Bool) : Bool :=
  !override && (c.barred || ordinaryClasses classes &&& (c.classBarred ^^^ 0xFFFF) = 0)

/-! ## Forbidden location areas -/

/-- The area is forbidden. -/
def isForbidden (c : ServingCell) (lai : Lai) : Bool := c.forbidden.contains lai

/-- Forbids an area. -/
def forbid (c : ServingCell) (lai : Lai) : ServingCell :=
  if c.isForbidden lai then c else { c with forbidden := c.forbidden ++ [lai] }

/-- Lifts the ban of an area. -/
def allow (c : ServingCell) (lai : Lai) : ServingCell :=
  { c with forbidden := c.forbidden.filter (· ≠ lai) }

@[simp] theorem isForbidden_reselect (c new : ServingCell) (lai : Lai) :
    (c.reselect new).isForbidden lai = c.isForbidden lai := rfl

/-! ## Text -/

/-- The cell in words. -/
def text (c : ServingCell) : String :=
  match c.camping with
  | .notCamped => "not camped"
  | .normally => "camped normally in " ++ c.lai.text
  | .anyCell => "camped on any cell in " ++ c.lai.text

end ServingCell

end MobileStation
