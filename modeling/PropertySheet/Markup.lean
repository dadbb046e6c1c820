import PropertySheet.Descriptor
import PropertySheet.Row
import PropertySheet.Text.Ellipsis

/-!
# What a row shows

Each row shows its name, its value and its actions. The value cell keeps three states apart: unset,
set to an empty text, and set. A secret shows only that it is set.
-/

namespace PropertySheet

/-- How a cell is styled. -/
inductive CellStyle where
  | name
  | unset
  | sensitive
  | blank
  | value
deriving DecidableEq, Repr, Inhabited

/-- The text of a cell and what is drawn with it. -/
structure CellMarkup where
  text : String
  style : CellStyle
  /-- The row belongs to a required property. -/
  required : Bool
  /-- There is something to tell about the property; name cells only. -/
  info : Bool
deriving DecidableEq, Repr, Inhabited

/-- The actions that a row offers. -/
structure Actions where
  goToService : Bool := false
  delete : Bool := false
deriving DecidableEq, Repr, Inhabited

/-- What the whole sheet says about its rows. -/
structure MarkupOptions where
  readOnly : Bool := false
  supportsNavigation : Bool := false
deriving DecidableEq, Repr, Inhabited

namespace Markup

def noValueSet : String := "No value set"

def sensitiveValueSet : String := "Sensitive value set"

def emptyStringSet : String := "Empty string set"

/-- Columns of the sign that there is something to tell. -/
def infoWidth : Nat := 2

/-- The name cell within a number of columns. -/
def name (r : Row) (d : Option Descriptor) (columns : Nat) : CellMarkup :=
  let info := d.any Descriptor.hasInfo
  { text := Text.ellipsis r.displayName (if info then columns - infoWidth else columns)
    style := .name
    required := r.kind = .required
    info }

/-- What the value cell says in full, and its style. -/
def valueText (r : Row) (d : Option Descriptor) : String × CellStyle :=
  match r.value with
  | none => (noValueSet, .unset)
  | some value =>
    if d.any (·.sensitive) then (sensitiveValueSet, .sensitive)
    else
      let shown := match d.bind (·.findChoice? value) with
        | some choice => choice.displayName
        | none => value
      if shown.isEmpty then (emptyStringSet, .blank) else (shown, .value)

/-- The value cell within a number of columns. -/
def value (r : Row) (d : Option Descriptor) (columns : Nat) : CellMarkup :=
  let (text, style) := valueText r d
  { text := Text.ellipsis text columns, style, required := r.kind = .required, info := false }

/-- The actions of a row: following the service that its value names, and deleting it. -/
def actions (r : Row) (d : Option Descriptor) (options : MarkupOptions) : Actions :=
  { goToService := match d, r.value with
      | some d, some value =>
        options.supportsNavigation && d.serviceType.isSome && (d.findChoice? value).isSome
      | _, _ => false
    delete := !options.readOnly && r.kind = .userDefined }

end Markup

end PropertySheet
