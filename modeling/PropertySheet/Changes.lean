import PropertySheet.Row
import PropertySheet.SortedMap

/-!
# Changes to save

Property names with the values that a save sets, in the order of the names. No value means that the
property is unset. A hidden row is saved as unset, a changed row with its value, and an unchanged
row not at all.
-/

namespace PropertySheet

/-- Values to set by property name; `none` unsets. -/
abbrev Changes := SortedMap String (Option String)

namespace Changes

/-- What a row adds to the changes. -/
def ofRow (r : Row) : Option (Option String) :=
  if r.hidden then some none else if r.isDirty then some r.value else none

/-- The changes that a list of rows makes. -/
def ofRows (rows : List Row) : Changes :=
  rows.foldl (fun changes r =>
    match ofRow r with
    | none => changes
    | some value => changes.insert r.property value) .empty

/-- A record of values by name after the changes: a changed name has its new value. -/
def patch (changes : Changes) (values : String → Option String) (name : String) : Option String :=
  (changes.get? name).getD (values name)

end Changes

/-- Whether a list of rows has anything to save. -/
def isSaveRequired (rows : List Row) : Bool := rows.any fun r => r.hidden || r.isDirty

end PropertySheet
