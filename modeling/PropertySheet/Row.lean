/-!
# Property rows

A row is one property as the sheet shows it. Its value is absent when the property is unset, which
is not the same as an empty text. The value at load time stays beside the current one, so that a row
knows whether it differs from what the backend holds.
-/

namespace PropertySheet

inductive PropertyKind where
  /-- Can be neither hidden nor removed. -/
  | required
  | optional
  /-- Added by the user, who may delete it again. -/
  | userDefined
deriving DecidableEq, Repr, Inhabited

namespace PropertyKind

/-- The name of a kind in data. -/
def name : PropertyKind → String
  | .required => "required"
  | .optional => "optional"
  | .userDefined => "userDefined"

def all : List PropertyKind := [.required, .optional, .userDefined]

end PropertyKind

/-- One property. -/
structure Row where
  id : Nat
  property : String
  displayName : String
  /-- Absent is unset; an empty text is a value. -/
  value : Option String
  previousValue : Option String
  kind : PropertyKind
  /-- Deleted by the user; the row stays until the form is saved or cleared. -/
  hidden : Bool
deriving DecidableEq, Repr, Inhabited

/-- Whether the value differs from the one at load time. -/
def Row.isDirty (r : Row) : Bool := r.value ≠ r.previousValue

/-- A row before a store has given it an id. -/
structure NewRow where
  property : String
  displayName : String
  value : Option String
  previousValue : Option String
  kind : PropertyKind
  hidden : Bool := false
deriving DecidableEq, Repr, Inhabited

/-- A visible row whose value is the one at load time. -/
def NewRow.loaded (property displayName : String) (value : Option String) (kind : PropertyKind) :
    NewRow :=
  { property, displayName, value, previousValue := value, kind }

/-- The row with an id. -/
def NewRow.withId (r : NewRow) (id : Nat) : Row :=
  { id, property := r.property, displayName := r.displayName, value := r.value,
    previousValue := r.previousValue, kind := r.kind, hidden := r.hidden }

/-- Fields to set in a row. Its id and its name are not among them. -/
structure RowPatch where
  displayName : Option String := none
  value : Option (Option String) := none
  previousValue : Option (Option String) := none
  kind : Option PropertyKind := none
  hidden : Option Bool := none
deriving DecidableEq, Repr, Inhabited

/-- A row with the fields of a patch. -/
def Row.patch (r : Row) (p : RowPatch) : Row :=
  { r with
    displayName := p.displayName.getD r.displayName
    value := p.value.getD r.value
    previousValue := p.previousValue.getD r.previousValue
    kind := p.kind.getD r.kind
    hidden := p.hidden.getD r.hidden }

@[simp] theorem Row.id_patch (r : Row) (p : RowPatch) : (r.patch p).id = r.id := rfl

@[simp] theorem Row.property_patch (r : Row) (p : RowPatch) :
    (r.patch p).property = r.property := rfl

end PropertySheet
