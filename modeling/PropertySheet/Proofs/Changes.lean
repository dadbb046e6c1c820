import PropertySheet.Changes

/-!
# Looking up a change

Where no two rows share a name, the changes that rows make are read off row by row:
`get?_ofRows_of_mem` and `get?_ofRows_of_forall_ne` say what the changes hold for a name that a row
has and for one that no row has.
-/

namespace PropertySheet.Changes

/-- The changes with what one more row adds. -/
def note (changes : Changes) (r : Row) : Changes :=
  match ofRow r with
  | none => changes
  | some value => changes.insert r.property value

theorem ofRows_eq_foldl (rows : List Row) : ofRows rows = rows.foldl note .empty := rfl

theorem get?_note_of_ne {r : Row} {name : String} (h : r.property ≠ name) (changes : Changes) :
    (changes.note r).get? name = changes.get? name := by
  rw [note]
  split
  · rfl
  · rw [SortedMap.get?_insert, if_neg h]

/-- A name that has no change so far has what its row adds. -/
theorem get?_note_self {changes : Changes} {r : Row} (h : changes.get? r.property = none) :
    (changes.note r).get? r.property = ofRow r := by
  rw [note]
  split
  next hnone => rw [h, hnone]
  next value hvalue => rw [SortedMap.get?_insert, if_pos rfl, hvalue]

theorem get?_foldl_of_forall_ne {rows : List Row} {name : String}
    (h : ∀ r ∈ rows, r.property ≠ name) (changes : Changes) :
    (rows.foldl note changes).get? name = changes.get? name := by
  induction rows generalizing changes with
  | nil => rfl
  | cons r rest ih =>
    obtain ⟨hr, hrest⟩ := List.forall_mem_cons.mp h
    rw [List.foldl_cons, ih hrest, get?_note_of_ne hr]

theorem get?_foldl_of_mem {rows : List Row} (hnodup : (rows.map (·.property)).Nodup) {r : Row}
    (hr : r ∈ rows) {changes : Changes} (hnone : changes.get? r.property = none) :
    (rows.foldl note changes).get? r.property = ofRow r := by
  induction rows generalizing changes with
  | nil => cases hr
  | cons first rest ih =>
    obtain ⟨hfirst, hrest⟩ := List.nodup_cons.mp hnodup
    rw [List.foldl_cons]
    rcases List.mem_cons.mp hr with rfl | hr
    · -- no later row has the name
      have hne : ∀ r' ∈ rest, r'.property ≠ r.property := fun r' hr' heq =>
        hfirst (List.mem_map.mpr ⟨r', hr', heq⟩)
      rw [get?_foldl_of_forall_ne hne, get?_note_self hnone]
    · have hne : first.property ≠ r.property := fun heq =>
        hfirst (List.mem_map.mpr ⟨r, hr, heq.symm⟩)
      exact ih hrest hr ((get?_note_of_ne hne changes).trans hnone)

theorem get?_ofRows_of_mem {rows : List Row} (hnodup : (rows.map (·.property)).Nodup) {r : Row}
    (hr : r ∈ rows) : (ofRows rows).get? r.property = ofRow r := by
  rw [ofRows_eq_foldl]
  exact get?_foldl_of_mem hnodup hr (SortedMap.get?_empty _)

theorem get?_ofRows_of_forall_ne {rows : List Row} {name : String}
    (h : ∀ r ∈ rows, r.property ≠ name) : (ofRows rows).get? name = none := by
  rw [ofRows_eq_foldl, get?_foldl_of_forall_ne h, SortedMap.get?_empty]

/-- Rows that add nothing make no changes. -/
theorem ofRows_eq_empty {rows : List Row} (h : ∀ r ∈ rows, ofRow r = none) :
    ofRows rows = .empty := by
  rw [ofRows_eq_foldl]
  induction rows with
  | nil => rfl
  | cons r rest ih =>
    obtain ⟨hr, hrest⟩ := List.forall_mem_cons.mp h
    rw [List.foldl_cons, note, hr]
    exact ih hrest

/-- Changes that hold one are not empty. -/
theorem isEmpty_eq_false_of_get? {changes : Changes} {name : String} {value : Option String}
    (h : changes.get? name = some value) : changes.isEmpty = false := by
  have hmem : (name, value) ∈ changes.toList := SortedMap.mem_toList_iff.mpr h
  rw [SortedMap.isEmpty, List.isEmpty_eq_false_iff]
  exact List.ne_nil_of_mem hmem

/-- What becomes of a value by name, if its row is among those that made the changes. -/
theorem patch_ofRows_of_mem {rows : List Row} (hnodup : (rows.map (·.property)).Nodup) {r : Row}
    (hr : r ∈ rows) (values : String → Option String) :
    (ofRows rows).patch values r.property =
      if r.hidden then none else if r.isDirty then r.value else values r.property := by
  rw [patch, get?_ofRows_of_mem hnodup hr, ofRow]
  split
  · rfl
  · split
    · rfl
    · rfl

theorem patch_ofRows_of_forall_ne {rows : List Row} {name : String}
    (h : ∀ r ∈ rows, r.property ≠ name) (values : String → Option String) :
    (ofRows rows).patch values name = values name := by
  rw [patch, get?_ofRows_of_forall_ne h]
  rfl

end PropertySheet.Changes
