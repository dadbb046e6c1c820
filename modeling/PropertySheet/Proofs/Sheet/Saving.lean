import Mathlib.Data.List.Nodup
import PropertySheet.Proofs.Changes
import PropertySheet.Proofs.Sheet.Rows

/-!
# What a save leaves behind

A save sends the changes of the sheet, and the backend applies them to the values that it holds,
which are those of the last load. `patch_changes_eq` says for every sequence of calls what comes
out: each property has the value that the sheet shows for it, with one exception. A property that
was deleted and added again starts anew without a value. If its row still has none, then it counts
as unchanged and nothing is sent, so that the backend keeps the value of the load.

`Baseline` follows what a run has loaded and which properties have come back since. Each row agrees
with it (`KeepsBaseline`): the value at load time that a row remembers is the one of the load, or
none if the row has come back.
-/

namespace PropertySheet

/-- The values that a load records by name: an unset value counts as the default of the property. -/
def recorded (values : List (String × Option String)) (descriptors : Descriptors) (name : String) :
    Option String :=
  (values.find? (·.1 = name)).bind fun v =>
    v.2.orElse fun _ => (descriptors.get? name).bind (·.defaultValue)

namespace Sheet

/-- The value that a sheet shows for a property: that of its visible row. -/
def shown (s : Sheet) (name : String) : Option String :=
  (s.visibleRows.find? (·.property = name)).bind (·.value)

/-- A property has a visible row, which has no value. -/
def ShowsUnset (s : Sheet) (name : String) : Prop :=
  ∃ r ∈ s.visibleRows, r.property = name ∧ r.value = none

/-- A call brings the hidden row of a property back. -/
def Restores (s : Sheet) (op : Operation) (name : String) : Prop :=
  (∃ r ∈ s.rows, r.property = name ∧ r.hidden) ∧
    ∃ r ∈ (s.apply op).visibleRows, r.property = name

instance (s : Sheet) (name : String) : Decidable (s.ShowsUnset name) :=
  inferInstanceAs (Decidable (∃ r ∈ s.visibleRows, r.property = name ∧ r.value = none))

instance (s : Sheet) (op : Operation) (name : String) : Decidable (s.Restores op name) :=
  inferInstanceAs (Decidable ((∃ r ∈ s.rows, r.property = name ∧ r.hidden) ∧
    ∃ r ∈ (s.apply op).visibleRows, r.property = name))

end Sheet

/-! ## What was loaded -/

/-- What the last load recorded, and which properties have come back after a deletion since. -/
structure Baseline where
  values : String → Option String := fun _ => none
  restored : String → Bool := fun _ => false

namespace Baseline

/-- The baseline after a call. A sheet that is emptied, also by a load that fails, has none. -/
def next (b : Baseline) (s : Sheet) : Operation → Baseline
  | .load values descriptors histories =>
    match (s.load values descriptors histories).2 with
    | .ok () => { values := recorded values descriptors }
    | .error _ => {}
  | .clear | .destroy => {}
  | op => { b with restored := fun name => b.restored name || decide (s.Restores op name) }

/-- The baseline after a sequence of calls. -/
def along (b : Baseline) (s : Sheet) : List Operation → Baseline
  | [] => b
  | op :: ops => (b.next s op).along (s.apply op) ops

theorem next_of_not_empties (b : Baseline) (s : Sheet) {op : Operation}
    (h : op.empties = false) :
    b.next s op =
      { b with restored := fun name => b.restored name || decide (s.Restores op name) } := by
  cases op <;> first | rfl | cases h

end Baseline

namespace Sheet

/-! ## What a sheet shows -/

theorem mem_visibleRows {s : Sheet} {r : Row} :
    r ∈ s.visibleRows ↔ r ∈ s.rows ∧ r.hidden = false := by
  simp [visibleRows, rows, RowStore.visible]

theorem shown_eq_of_mem {s : Sheet} (h : s.store.Indexed) {r : Row} (hr : r ∈ s.rows) :
    s.shown r.property = if r.hidden then none else r.value := by
  rw [shown]
  cases hfind : s.visibleRows.find? (·.property = r.property) with
  | none =>
    split
    · rfl
    next hvisible =>
      have hnone := List.find?_eq_none.mp hfind r
        (mem_visibleRows.mpr ⟨hr, Bool.eq_false_iff.mpr hvisible⟩)
      simp at hnone
  | some r' =>
    have hname : r'.property = r.property := by simpa using List.find?_some hfind
    obtain ⟨hr', hvisible⟩ := mem_visibleRows.mp (List.mem_of_find?_eq_some hfind)
    obtain rfl := h.eq_of_property_eq hr' hr hname
    rw [hvisible]
    rfl

theorem showsUnset_iff_of_mem {s : Sheet} (h : s.store.Indexed) {r : Row} (hr : r ∈ s.rows) :
    s.ShowsUnset r.property ↔ r.hidden = false ∧ r.value = none := by
  constructor
  · rintro ⟨r', hr', hname, hunset⟩
    obtain ⟨hr', hvisible⟩ := mem_visibleRows.mp hr'
    obtain rfl := h.eq_of_property_eq hr' hr hname
    exact ⟨hvisible, hunset⟩
  · rintro ⟨hvisible, hunset⟩
    exact ⟨r, mem_visibleRows.mpr ⟨hr, hvisible⟩, rfl, hunset⟩

theorem shown_eq_of_forall_ne {s : Sheet} {name : String}
    (h : ∀ r ∈ s.rows, r.property ≠ name) : s.shown name = none := by
  have hnone : s.visibleRows.find? (·.property = name) = none := by
    refine List.find?_eq_none.mpr fun r hr => ?_
    simpa using h r (mem_visibleRows.mp hr).1
  rw [shown, hnone]
  rfl

/-! ## Rows agree with the baseline -/

/-- Every row remembers what was loaded under its name, or nothing if it has come back since; and
what was loaded has a row. -/
structure KeepsBaseline (s : Sheet) (b : Baseline) : Prop where
  indexed : s.store.Indexed
  present : ∀ name, b.values name ≠ none → ∃ r ∈ s.rows, r.property = name
  previous : ∀ r ∈ s.rows,
    r.previousValue = if b.restored r.property then none else b.values r.property

/-- Without rows there is nothing to remember. -/
theorem keepsBaseline_of_no_rows {s : Sheet} (hidx : s.store.Indexed) (hrows : s.rows = []) :
    s.KeepsBaseline {} := by
  refine ⟨hidx, fun name h => absurd rfl h, ?_⟩
  rw [hrows]
  exact fun r hr => nomatch hr

theorem keepsBaseline_clear (s : Sheet) : s.clear.KeepsBaseline {} :=
  keepsBaseline_of_no_rows (RowStore.indexed_clear s.store).takeEvents
    (RowStore.rows_clear s.store)

/-- Where no name is repeated, a load records each of its values, or the default in its place. -/
theorem recorded_eq_of_mem {values : List (String × Option String)} {descriptors : Descriptors}
    (hnodup : (values.map (·.1)).Nodup) {v : String × Option String} (hv : v ∈ values) :
    recorded values descriptors v.1 = (loadedRow descriptors v.1 v.2).value := by
  rw [recorded]
  cases hfind : values.find? (·.1 = v.1) with
  | none =>
    have hnone := List.find?_eq_none.mp hfind v hv
    simp at hnone
  | some v' =>
    have hname : v'.1 = v.1 := by simpa using List.find?_some hfind
    have hmem := List.mem_of_find?_eq_some hfind
    rw [List.inj_on_of_nodup_map hnodup hmem hv hname]
    rfl

/-- A load records the values that its rows remember. -/
theorem keepsBaseline_load {s : Sheet} {values : List (String × Option String)}
    {descriptors : Descriptors} (hidx : s.store.Indexed) {n : Nat}
    (hrows : s.rows = RowStore.numbered n (values.map fun v => loadedRow descriptors v.1 v.2)) :
    s.KeepsBaseline { values := recorded values descriptors } := by
  -- the load succeeded, so no name is repeated
  have hnodup : (values.map (·.1)).Nodup := by
    have hnames := hidx.properties_nodup
    rw [show s.store.rows = _ from hrows, RowStore.map_property_numbered, List.map_map] at hnames
    exact hnames
  refine ⟨hidx, ?_, ?_⟩
  · intro name hname
    obtain ⟨v, hv⟩ : ∃ v, values.find? (·.1 = name) = some v := by
      cases hfind : values.find? (·.1 = name) with
      | none =>
        have hnone : recorded values descriptors name = none := by
          rw [recorded, hfind]
          rfl
        exact absurd hnone hname
      | some v => exact ⟨v, rfl⟩
    have hmem : loadedRow descriptors v.1 v.2 ∈
        values.map fun v => loadedRow descriptors v.1 v.2 :=
      List.mem_map.mpr ⟨v, List.mem_of_find?_eq_some hv, rfl⟩
    obtain ⟨id, hid⟩ := RowStore.exists_mem_numbered n hmem
    refine ⟨_, hrows ▸ hid, ?_⟩
    show v.1 = name
    simpa using List.find?_some hv
  · intro r hr
    rw [hrows] at hr
    obtain ⟨new, hnew, id, rfl⟩ := RowStore.mem_numbered hr
    obtain ⟨v, hv, rfl⟩ := List.mem_map.mp hnew
    exact (recorded_eq_of_mem hnodup hv).symm

/-- A call that does not empty the sheet keeps the agreement. -/
theorem KeepsBaseline.succeeds {s t : Sheet} {b : Baseline} (h : s.KeepsBaseline b)
    (hst : s.store.Succeeds t.store) {restores : String → Bool}
    (hrestores : ∀ name, restores name ↔
      (∃ r ∈ s.rows, r.property = name ∧ r.hidden) ∧ ∃ r ∈ t.visibleRows, r.property = name) :
    t.KeepsBaseline { b with restored := fun name => b.restored name || restores name } := by
  refine ⟨hst.indexed, ?_, ?_⟩
  · intro name hname
    obtain ⟨r, hr, rfl⟩ := h.present name hname
    obtain ⟨r', hr', hbecomes⟩ := hst.forth r hr
    exact ⟨r', hr', hbecomes.property⟩
  · intro r' hr'
    rcases hst.back r' hr' with ⟨r, hr, _, hname, _, hcourse⟩ | ⟨hnone, hnew⟩
    · rcases hcourse with ⟨hprevious, hstays⟩ | ⟨hhidden, hvisible, hnone⟩
      · have hnot : restores r'.property = false := by
          refine Bool.eq_false_iff.mpr fun hrestored => ?_
          obtain ⟨⟨r₀, hr₀, hname₀, hhidden⟩, r₁, hr₁, hname₁⟩ := (hrestores _).mp hrestored
          obtain ⟨hr₁, hvisible⟩ := mem_visibleRows.mp hr₁
          -- names are unique, so these are the two rows at hand
          obtain rfl := h.indexed.eq_of_property_eq hr₀ hr (hname₀.trans hname)
          obtain rfl := hst.indexed.eq_of_property_eq hr₁ hr' hname₁
          exact nomatch hvisible.symm.trans (hstays hhidden)
        show r'.previousValue = if b.restored r'.property || restores r'.property then none else _
        rw [hnot, Bool.or_false, hprevious, hname]
        exact h.previous r hr
      · have hshown : r' ∈ t.visibleRows := mem_visibleRows.mpr ⟨hr', hvisible⟩
        have hback : restores r'.property = true :=
          (hrestores _).mpr ⟨⟨r, hr, hname.symm, hhidden⟩, r', hshown, rfl⟩
        show r'.previousValue = if b.restored r'.property || restores r'.property then none else _
        rw [hback, Bool.or_true, hnone]
        rfl
    · -- no row had the name, so nothing was loaded under it
      have hvalues : b.values r'.property = none := by
        refine Decidable.byContradiction fun hsome => ?_
        obtain ⟨r, hr, hname⟩ := h.present _ hsome
        exact hnew r hr hname
      show r'.previousValue = if _ then none else b.values r'.property
      rw [hnone, hvalues, ite_self]

theorem KeepsBaseline.apply {s : Sheet} {b : Baseline} (h : s.KeepsBaseline b) (op : Operation) :
    (s.apply op).KeepsBaseline (b.next s op) := by
  cases hop : op.empties with
  | false =>
    rw [Baseline.next_of_not_empties b s hop]
    exact h.succeeds (succeeds_apply h.indexed hop) fun name => decide_eq_true_iff
  | true =>
    cases op with
    | load values descriptors histories =>
      rw [Sheet.apply, Baseline.next]
      rcases s.load_cases values descriptors histories with ⟨e, hload⟩ | ⟨hok, hidx, _, hrows⟩
      · rw [hload]
        exact s.keepsBaseline_clear
      · rw [hok]
        exact keepsBaseline_load hidx hrows
    | clear => exact s.keepsBaseline_clear
    | destroy =>
      exact keepsBaseline_of_no_rows (RowStore.indexed_clear s.store).takeEvents
        (RowStore.rows_clear s.store)
    | _ => cases hop

theorem KeepsBaseline.run {s : Sheet} {b : Baseline} (h : s.KeepsBaseline b)
    (ops : List Operation) : (s.run ops).KeepsBaseline (b.along s ops) := by
  induction ops generalizing s b with
  | nil => exact h
  | cons op ops ih => exact ih (h.apply op)

/-! ## What the backend holds after a save -/

theorem KeepsBaseline.patch_changes {s : Sheet} {b : Baseline} (h : s.KeepsBaseline b)
    (name : String) :
    s.changes.patch b.values name =
      if b.restored name ∧ s.ShowsUnset name then b.values name else s.shown name := by
  by_cases hrow : ∃ r ∈ s.rows, r.property = name
  · obtain ⟨r, hr, rfl⟩ := hrow
    have hprevious := h.previous r hr
    have hnodup : (s.rows.map (·.property)).Nodup := h.indexed.properties_nodup
    rw [changes, Changes.patch_ofRows_of_mem hnodup hr, shown_eq_of_mem h.indexed hr, Row.isDirty,
      hprevious]
    simp only [showsUnset_iff_of_mem h.indexed hr]
    cases hhidden : r.hidden with
    | true => simp
    | false =>
      cases hrestored : b.restored r.property with
      | true => cases hvalue : r.value <;> simp
      | false =>
        -- an unchanged row has the value of the load
        by_cases hvalue : r.value = b.values r.property
        · simp [hvalue]
        · simp [hvalue]
  · have hnew : ∀ r ∈ s.rows, r.property ≠ name := fun r hr hname => hrow ⟨r, hr, hname⟩
    have hvalues : b.values name = none :=
      Decidable.byContradiction fun hsome => hrow (h.present name hsome)
    rw [changes, Changes.patch_ofRows_of_forall_ne hnew, shown_eq_of_forall_ne hnew, hvalues,
      ite_self]

/-- Whatever the order of calls, keys and responses: a save leaves every property with the value
that the sheet shows, unless the property has come back after a deletion and shows none. Then it
keeps the value of the load. -/
theorem patch_changes_eq (config : SheetConfig) (ops : List Operation) (name : String) :
    let s := (ofConfig config).run ops
    let b := Baseline.along {} (ofConfig config) ops
    s.changes.patch b.values name =
      if b.restored name ∧ s.ShowsUnset name then b.values name else s.shown name :=
  (KeepsBaseline.run (keepsBaseline_of_no_rows RowStore.indexed_empty rfl) ops).patch_changes name

/-- A property of the user is deleted and added again, and its editor is left without a value. -/
def readdingRun : List Operation := [
  .load [("extra", some "x")] .empty .empty,
  .deleteSelected,
  .addProperty "extra",
  .cancelEdit]

/-- The exception occurs: the sheet shows no value, and a save leaves the one of the load. -/
theorem patch_changes_ne_shown :
    let s := (ofConfig { dialogContainer := some "main" }).run readdingRun
    (s.rows.map fun r => (r.property, r.value, r.hidden)) = [("extra", none, false)] ∧
    s.shown "extra" = none ∧
    s.changes.patch (recorded [("extra", some "x")] .empty) "extra" = some "x" := by
  decide +kernel

end Sheet

end PropertySheet
