import PropertySheet.SortedMap
import PropertySheet.Text.Blank

/-!
# Property descriptors

What the backend says about one property: its label, its default, whether it is required or secret,
and the values it may take. A sheet never edits a descriptor; a freshly resolved one replaces the
old one as a whole.
-/

namespace PropertySheet

/-- One of the values that a property may take. -/
structure AllowableValue where
  value : String
  displayName : String := ""
  description : Option String := none
  /-- Whether the user may read the value. Nothing said means yes. -/
  canRead : Option Bool := none
deriving DecidableEq, Repr, Inhabited

/-- Permission is withheld only when the backend says so. -/
def AllowableValue.isReadable (a : AllowableValue) : Bool := a.canRead ≠ some false

/-- Metadata of one property. -/
structure Descriptor where
  name : String
  displayName : String := ""
  description : Option String := none
  defaultValue : Option String := none
  required : Bool := false
  sensitive : Bool := false
  dynamic : Bool := false
  supportsExpressions : Bool := false
  /-- The values to choose from. An empty list is still a choice. -/
  allowableValues : Option (List AllowableValue) := none
  /-- The type of controller service whose id is the value. -/
  serviceType : Option String := none
deriving DecidableEq, Repr, Inhabited

/-- Descriptors by property name. -/
abbrev Descriptors := SortedMap String Descriptor

namespace Descriptor

/-- The label to show: the display name, or the name when that is blank. -/
def label (d : Descriptor) : String :=
  if Text.isBlank (some d.displayName) then d.name else d.displayName

/-- Whether the value is chosen from a list. -/
def isChoice (d : Descriptor) : Bool := d.allowableValues.isSome

/-- The values to choose from, none where the value is free. -/
def choices (d : Descriptor) : List AllowableValue := d.allowableValues.getD []

/-- The first allowable value equal to a text. -/
def findChoice? (d : Descriptor) (value : String) : Option AllowableValue :=
  d.choices.find? (·.value = value)

/-- Whether there is something to tell about the property. -/
def hasInfo (d : Descriptor) : Bool :=
  !Text.isBlank d.description || !Text.isBlank d.defaultValue || d.supportsExpressions

/-- The default, when it has visible content. -/
def visibleDefault? (d : Descriptor) : Option String :=
  d.defaultValue.filter fun v => !Text.isBlank (some v)

end Descriptor

/-- A value that a property had, when, and who set it. -/
structure PastValue where
  value : Option String := none
  timestamp : String := ""
  user : String := ""
deriving DecidableEq, Repr, Inhabited

/-- The past values of one property. -/
structure PropertyHistory where
  pastValues : List PastValue := []
deriving DecidableEq, Repr, Inhabited

/-- Histories by property name. -/
abbrev Histories := SortedMap String PropertyHistory

end PropertySheet
