import Mathlib.Data.List.Nodup
import PropertySheet.Proofs.Changes
import PropertySheet.Proofs.RowStore.Calls

/-!
# The changes of a store are those of its rows

The changes of a list of rows are gathered in a map by name, so a name that two rows shared would
lose one of them, and which one would depend on the order of the rows. In a store no two rows share
a name, hidden ones included. So the changes are the list of what each row adds, up to order
(`toList_ofRows_perm`): nothing is lost and nothing is added. From it follow how many there are,
that the order of the rows does not matter, and when there are any, which is what the rows are asked
for before a save.

`Reached` are the stores that calls lead to, whoever takes their notes in between, and
`changes_are_exact` says this of each of them.
-/

namespace PropertySheet

namespace SortedMap

/-- A map lists no entry twice. -/
theorem nodup_toList {κ α : Type} [LE κ] [LT κ] [Std.LawfulOrderLT κ] (m : SortedMap κ α) :
    m.toList.Nodup := by
  refine m.sorted.imp ?_
  rintro a b hlt rfl
  exact Std.lt_irrefl hlt

end SortedMap

namespace Changes

variable {rows : List Row}

/-- The entry that a row adds to the changes: a hidden row unsets its property, and a visible one
sets it if its value is not the one at load time. -/
def entryOf (r : Row) : Option (String × Option String) :=
  if r.hidden then some (r.property, none)
  else if r.value ≠ r.previousValue then some (r.property, r.value)
  else none

theorem entryOf_eq_map (r : Row) : entryOf r = (ofRow r).map (r.property, ·) := by
  rw [entryOf, ofRow, Row.isDirty]
  by_cases hhidden : r.hidden
  · simp [hhidden]
  · by_cases hvalue : r.value = r.previousValue <;> simp [hhidden, hvalue]

theorem isSome_entryOf (r : Row) :
    (entryOf r).isSome = (r.hidden || decide (r.value ≠ r.previousValue)) := by
  rw [entryOf]
  by_cases hhidden : r.hidden
  · simp [hhidden]
  · by_cases hvalue : r.value = r.previousValue <;> simp [hhidden, hvalue]

theorem property_of_entryOf {r : Row} {e : String × Option String} (h : entryOf r = some e) :
    e.1 = r.property := by
  rw [entryOf_eq_map] at h
  obtain ⟨_, -, rfl⟩ := Option.map_eq_some_iff.mp h
  rfl

/-- The changes hold an entry if some row adds it. -/
theorem mem_toList_ofRows_iff (hnodup : (rows.map (·.property)).Nodup)
    {e : String × Option String} :
    e ∈ (ofRows rows).toList ↔ ∃ r ∈ rows, entryOf r = some e := by
  obtain ⟨name, value⟩ := e
  have hentry : ∀ r : Row, entryOf r = some (name, value) ↔
      r.property = name ∧ ofRow r = some value := by
    intro r
    rw [entryOf_eq_map, Option.map_eq_some_iff]
    simp [and_comm]
  simp only [hentry, SortedMap.mem_toList_iff]
  -- What is looked up by a name is what its row adds, and nothing if no row has it.
  constructor
  · intro hvalue
    by_cases hname : ∃ r ∈ rows, r.property = name
    · obtain ⟨r, hr, rfl⟩ := hname
      exact ⟨r, hr, rfl, (get?_ofRows_of_mem hnodup hr).symm.trans hvalue⟩
    · have hnone := get?_ofRows_of_forall_ne fun r hr heq => hname ⟨r, hr, heq⟩
      cases hnone.symm.trans hvalue
  · rintro ⟨r, hr, rfl, hvalue⟩
    exact (get?_ofRows_of_mem hnodup hr).trans hvalue

/-- Rows of distinct names add distinct entries. -/
theorem nodup_filterMap_entryOf (hnodup : (rows.map (·.property)).Nodup) :
    (rows.filterMap entryOf).Nodup := by
  have hrows : rows.Pairwise fun a b => a.property ≠ b.property := List.pairwise_map.mp hnodup
  refine hrows.filterMap entryOf fun a b hne x hx y hy heq => hne ?_
  rw [← property_of_entryOf hx, ← property_of_entryOf hy, heq]

/-- Where no two rows share a name, the changes are what each row adds, up to order. -/
theorem toList_ofRows_perm (hnodup : (rows.map (·.property)).Nodup) :
    (ofRows rows).toList.Perm (rows.filterMap entryOf) := by
  rw [List.perm_ext_iff_of_nodup (ofRows rows).nodup_toList (nodup_filterMap_entryOf hnodup)]
  intro e
  rw [mem_toList_ofRows_iff hnodup, List.mem_filterMap]

/-- There are as many changes as rows that add one. -/
theorem size_ofRows (hnodup : (rows.map (·.property)).Nodup) :
    (ofRows rows).size = rows.countP fun r => r.hidden || r.value ≠ r.previousValue := by
  rw [SortedMap.size, (toList_ofRows_perm hnodup).length_eq, List.length_filterMap_eq_countP]
  simp only [isSome_entryOf]

/-- The same rows in another order make the same changes. -/
theorem ofRows_eq_of_perm (hnodup : (rows.map (·.property)).Nodup) {others : List Row}
    (hperm : others.Perm rows) : ofRows others = ofRows rows := by
  have hnodup' : (others.map (·.property)).Nodup := (hperm.map _).nodup_iff.mpr hnodup
  refine SortedMap.ext_get? fun name => Option.ext fun value => ?_
  have hmem := mem_toList_ofRows_iff hnodup (e := (name, value))
  have hmem' := mem_toList_ofRows_iff hnodup' (e := (name, value))
  rw [SortedMap.mem_toList_iff] at hmem hmem'
  rw [hmem, hmem']
  simp only [hperm.mem_iff]

/-- The question whether there is anything to save is answered without gathering the changes. -/
theorem isSaveRequired_iff (hnodup : (rows.map (·.property)).Nodup) :
    isSaveRequired rows = true ↔ (ofRows rows).isEmpty = false := by
  have hsize : (ofRows rows).isEmpty = false ↔ 0 < (ofRows rows).size := by
    rw [SortedMap.isEmpty, SortedMap.size, List.isEmpty_eq_false_iff, List.length_pos_iff]
  rw [hsize, size_ofRows hnodup, List.countP_pos_iff, isSaveRequired, List.any_eq_true]
  simp only [Row.isDirty]

end Changes

namespace RowStore

variable {s : RowStore}

/-! ## Every store that calls lead to -/

/-- The stores that calls lead to, whoever takes the notes in between. -/
inductive Reached : RowStore → Prop
  | new : Reached {}
  | carryOut {s : RowStore} (call : StoreCall) : Reached s → Reached (s.carryOut call).1
  | takeEvents {s : RowStore} : Reached s → Reached s.takeEvents.1

theorem Reached.indexed (h : s.Reached) : s.Indexed := by
  induction h with
  | new => exact indexed_empty
  | carryOut call _ ih => exact (ih.carryOut call).1
  | takeEvents _ ih => exact ih.takeEvents

theorem Reached.after (h : s.Reached) (calls : List StoreCall) : (s.after calls).Reached := by
  induction calls generalizing s with
  | nil => exact h
  | cons call calls ih => exact ih (h.carryOut call)

/-- In every store that calls lead to: each hidden row adds one change that unsets its property,
each visible row whose value is not the one at load time adds one with its value, and there are no
other changes; so there are as many as such rows. The rows in another order make the same changes,
and there is something to save exactly when there are any. -/
theorem changes_are_exact (h : s.Reached) :
    (Changes.ofRows s.rows).toList.Perm (s.rows.filterMap Changes.entryOf) ∧
    (Changes.ofRows s.rows).size =
      s.rows.countP (fun r => r.hidden || r.value ≠ r.previousValue) ∧
    (∀ rows, rows.Perm s.rows → Changes.ofRows rows = Changes.ofRows s.rows) ∧
    (isSaveRequired s.rows = true ↔ (Changes.ofRows s.rows).isEmpty = false) := by
  have hnodup := h.indexed.properties_nodup
  exact ⟨Changes.toList_ofRows_perm hnodup, Changes.size_ofRows hnodup,
    fun _ hperm => Changes.ofRows_eq_of_perm hnodup hperm, Changes.isSaveRequired_iff hnodup⟩

/-- Two properties are loaded, of which one gets an empty value. One of the user is added, is given
a value and is hidden; a second one of its name is refused. -/
def editingCalls : List StoreCall := [
  .replaceAll [
    .loaded "Comment" "Comment" none .optional,
    .loaded "Path" "Path" (some "/tmp") .required],
  .update 0 { value := some (some "") },
  .add (.loaded "extra" "extra" none .userDefined),
  .update 2 { value := some (some "x"), hidden := some true },
  .add (.loaded "extra" "extra" (some "y") .userDefined)]

theorem changes_are_exact_editingCalls :
    let s := (after {} editingCalls).takeEvents.1
    s.Reached ∧
    (Changes.ofRows s.rows).toList = [("Comment", some ""), ("extra", none)] ∧
    (Changes.ofRows s.rows).toList.Perm (s.rows.filterMap Changes.entryOf) ∧
    (Changes.ofRows s.rows).size =
      s.rows.countP (fun r => r.hidden || r.value ≠ r.previousValue) ∧
    (∀ rows, rows.Perm s.rows → Changes.ofRows rows = Changes.ofRows s.rows) ∧
    (isSaveRequired s.rows = true ↔ (Changes.ofRows s.rows).isEmpty = false) := by
  have hreached := (Reached.new.after editingCalls).takeEvents
  exact ⟨hreached, by decide +kernel, changes_are_exact hreached⟩

end RowStore

end PropertySheet
