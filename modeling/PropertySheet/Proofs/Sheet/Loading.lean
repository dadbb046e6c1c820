import Mathlib.Data.List.Forall2
import PropertySheet.Proofs.Changes
import PropertySheet.Proofs.GridView.Following
import PropertySheet.Proofs.Sheet.Rows

/-!
# Loading a sheet

A load empties the sheet and then fills it. In between it may be refused, if the list of values
repeats a name, and it has to leave nothing of either half then: no row, no place, no descriptor,
and nothing that a later load would stumble over. `load_replaces` says for every state that calls
lead to what a load leaves, with an editor open and requests pending or not.

`Loaded` describes the sheet after a load that succeeds by what was loaded and by the first id that
was free. Nothing else of the sheet before shows in it.
-/

namespace PropertySheet

open RowStore GridView

/-- What a load makes of a value with its name: a visible row under the label of the property, whose
value is at the same time the one at load time. -/
structure Row.Records (descriptors : Descriptors) (v : String × Option String) (r : Row) :
    Prop where
  property : r.property = v.1
  displayName : r.displayName = match descriptors.get? v.1 with
    | none => v.1
    | some d => d.label
  value : r.value = match v.2 with
    | some text => some text
    | none => (descriptors.get? v.1).bind (·.defaultValue)
  previousValue : r.previousValue = r.value
  kind : r.kind = match descriptors.get? v.1 with
    | none => .userDefined
    | some d => if d.required then .required else if d.dynamic then .userDefined else .optional
  hidden : r.hidden = false

/-- A row with the value at load time is no change. -/
theorem Row.Records.ofRow_eq_none {descriptors : Descriptors} {v : String × Option String} {r : Row}
    (h : r.Records descriptors v) : Changes.ofRow r = none := by
  rw [Changes.ofRow, h.hidden, Row.isDirty, h.previousValue]
  simp

namespace Sheet

variable {s t : Sheet} {values : List (String × Option String)} {descriptors : Descriptors}
  {histories : Histories}

theorem records_loadedRow (descriptors : Descriptors) (v : String × Option String) (id : Nat) :
    ((loadedRow descriptors v.1 v.2).withId id).Records descriptors v where
  property := rfl
  displayName := by
    show ((descriptors.get? v.1).map (·.label)).getD v.1 = _
    cases descriptors.get? v.1 with
    | none => rfl
    | some d => rfl
  value := by
    show (v.2.orElse fun _ => (descriptors.get? v.1).bind (·.defaultValue)) = _
    cases v.2 with
    | none => rfl
    | some text => rfl
  previousValue := rfl
  kind := by
    show kindOf (descriptors.get? v.1) = _
    cases descriptors.get? v.1 with
    | none => rfl
    | some d => rfl
  hidden := rfl

theorem forall₂_records (n : Nat) (values : List (String × Option String)) :
    List.Forall₂ (Row.Records descriptors) values
      (numbered n (values.map fun v => loadedRow descriptors v.1 v.2)) := by
  induction values generalizing n with
  | nil => exact .nil
  | cons v rest ih => exact .cons (records_loadedRow descriptors v n) (ih (n + 1))

theorem exists_records {n : Nat} {r : Row}
    (hr : r ∈ numbered n (values.map fun v => loadedRow descriptors v.1 v.2)) :
    ∃ v ∈ values, r.Records descriptors v := by
  obtain ⟨new, hnew, id, rfl⟩ := mem_numbered hr
  obtain ⟨v, hv, rfl⟩ := List.mem_map.mp hnew
  exact ⟨v, hv, records_loadedRow descriptors v id⟩

/-! ## A load that is refused -/

/-- A load that fails leaves the emptied sheet. -/
theorem load_of_error {e : Failure}
    (h : s.clear.store.replaceAll (values.map fun v => loadedRow descriptors v.1 v.2) = .error e)
    (histories : Histories) : s.load values descriptors histories = (s.clear, .error e) := by
  rw [load]
  dsimp only
  rw [h]

/-- A list that repeats a name is refused, for the first value whose name an earlier one has. -/
theorem load_of_not_nodup (s : Sheet) (h : ¬ (values.map (·.1)).Nodup) (descriptors : Descriptors)
    (histories : Histories) :
    ∃ before v after, values = before ++ v :: after ∧ (before.map (·.1)).Nodup ∧
      v.1 ∈ before.map (·.1) ∧
      s.load values descriptors histories = (s.clear, .error (.duplicateProperty v.1 false)) := by
  cases hrepeat : firstRepeat [] (values.map fun v => loadedRow descriptors v.1 v.2) with
  | none =>
    have hnodup := (firstRepeat_eq_none_iff.mp hrepeat).1
    rw [List.map_map] at hnodup
    exact absurd hnodup h
  | some r =>
    obtain ⟨rows, others, hrows, hnodup, -, hseen | hrepeats⟩ := exists_of_firstRepeat hrepeat
    · -- The emptied store has no names that a value could repeat.
      cases hseen
    · obtain ⟨before, rest, rfl, rfl, hrest⟩ := List.map_eq_append_iff.mp hrows
      obtain ⟨v, after, rfl, rfl, -⟩ := List.map_eq_cons_iff.mp hrest
      rw [List.map_map] at hnodup hrepeats
      refine ⟨before, v, after, rfl, hnodup, hrepeats, load_of_error ?_ histories⟩
      rw [replaceAll, hrepeat]
      rfl

/-- Emptying an emptied sheet does nothing. -/
theorem clear_clear (s : Sheet) : s.clear.clear = s.clear := by
  have hstore : s.clear.store.clear.takeEvents.1 = s.clear.store := by
    show (s.store.clear.takeEvents.1.clear.takeEvents.1 : RowStore) = s.store.clear.takeEvents.1
    -- If any rows were visible their number is noted, and the note is taken at once.
    unfold RowStore.clear noteCount
    split
    · rfl
    · rfl
  rw [clear, hstore]
  rfl

/-- A load after one that was refused finds the sheet as that one did. -/
theorem load_clear (s : Sheet) (values : List (String × Option String)) (descriptors : Descriptors)
    (histories : Histories) :
    s.clear.load values descriptors histories = s.load values descriptors histories := by
  rw [load, clear_clear]
  rfl

/-! ## A load that succeeds -/

/-- The emptied sheet with rows and what is known about their properties, as the grid shows it. -/
def filled (s : Sheet) (store : RowStore) (descriptors : Descriptors) (histories : Histories) :
    Sheet :=
  let t := ({ s.clear with store, descriptors, histories } : Sheet).sync
  { t with view := t.view.selectFirst }

theorem load_of_ok {store : RowStore}
    (h : s.clear.store.replaceAll (values.map fun v => loadedRow descriptors v.1 v.2) = .ok store)
    (histories : Histories) :
    s.load values descriptors histories = (s.filled store descriptors histories, .ok ()) := by
  rw [load]
  dsimp only
  rw [h]
  rfl

/-- The emptied store takes rows of distinct names, under the next ids. -/
theorem exists_replaceAll_of_nodup (s : Sheet) (h : (values.map (·.1)).Nodup)
    (descriptors : Descriptors) :
    ∃ store,
      s.clear.store.replaceAll (values.map fun v => loadedRow descriptors v.1 v.2) = .ok store ∧
      store.rows =
        numbered s.store.nextId (values.map fun v => loadedRow descriptors v.1 v.2) ∧
      store.Indexed := by
  have hnames : ((values.map fun v => loadedRow descriptors v.1 v.2).map (·.property)).Nodup := by
    rw [List.map_map]
    exact h
  obtain ⟨store, hstore, -⟩ := exists_replaceAll s.clear.store hnames
  obtain ⟨hrows, -, hidx⟩ := indexed_replaceAll hstore
  have hnext : s.clear.store.nextId = s.store.nextId := nextId_clear s.store
  rw [hnext] at hrows
  exact ⟨store, hstore, hrows, hidx⟩

/-- A load succeeds if no name is repeated: the rows are those of the values, in their order. -/
theorem load_of_nodup (s : Sheet) {values : List (String × Option String)}
    (h : (values.map (·.1)).Nodup) (descriptors : Descriptors) (histories : Histories) :
    (s.load values descriptors histories).2 = .ok () ∧
      (s.load values descriptors histories).1.store.Indexed ∧
      (s.load values descriptors histories).1.rows =
        numbered s.store.nextId (values.map fun v => loadedRow descriptors v.1 v.2) := by
  obtain ⟨store, hstore, hrows, hidx⟩ := s.exists_replaceAll_of_nodup h descriptors
  rw [load_of_ok hstore]
  exact ⟨rfl, hidx.takeEvents, hrows⟩

/-- A sheet after a load into another: its rows record the values in their order under the next ids,
they are all in the grid, the first is selected, and there is nothing else. -/
structure Loaded (s : Sheet) (values : List (String × Option String)) (descriptors : Descriptors)
    (histories : Histories) (t : Sheet) : Prop where
  rows : List.Forall₂ (Row.Records descriptors) values t.rows
  ids : t.rows.map (·.id) = List.range' s.store.nextId values.length
  order : t.view.order = t.rows.map (·.id)
  selected : t.view.selected = 0 ∧ t.selectedRow? = t.rows.head?
  descriptors : t.descriptors = descriptors
  histories : t.histories = histories
  editor : t.editor = none
  dialog : t.dialog = none
  notice : t.notice = none
  pending : t.pending = .empty
  requests : t.requests = []
  changes : t.changes = .empty

/-- Between the two halves of a load there is a grid without rows beside a store without rows. It
follows the store from there. -/
theorem order_filled {rows : List NewRow} {store : RowStore}
    (h : s.clear.store.replaceAll rows = .ok store) (descriptors : Descriptors)
    (histories : Histories) :
    (s.filled store descriptors histories).view.order = store.visible.map (·.id) := by
  have hidx : s.clear.store.Indexed := (indexed_clear s.store).takeEvents
  have hcleared : s.clear.view.Follows s.clear.store :=
    follows_reset s.view hidx (rows_clear s.store)
  have hannounced := hcleared.announces (hidx.announces_replaceAll h)
  obtain ⟨-, -, -, horder, -⟩ := hannounced.sync_fst descriptors s.markupOptions
  exact horder

/-- The row at the first place of the grid is the first row. -/
theorem selectedRow?_eq_head? (hidx : t.store.Indexed) (horder : t.view.order = t.rows.map (·.id))
    (hselected : t.view.selected = 0) : t.selectedRow? = t.rows.head? := by
  rw [selectedRow?, selectedId?, hselected, horder, List.getElem?_map, ← List.head?_eq_getElem?]
  cases hhead : t.rows.head? with
  | none => rfl
  | some r => exact hidx.findById?_eq_some_iff.mpr ⟨List.mem_of_head? hhead, rfl⟩

theorem loaded_of_nodup (s : Sheet) (h : (values.map (·.1)).Nodup) (descriptors : Descriptors)
    (histories : Histories) :
    ∃ t, s.load values descriptors histories = (t, .ok ()) ∧
      s.Loaded values descriptors histories t := by
  obtain ⟨store, hstore, hrows, hidx⟩ := s.exists_replaceAll_of_nodup h descriptors
  have hrecords : ∀ r ∈ store.rows, ∃ v ∈ values, r.Records descriptors v := fun r hr =>
    exists_records (hrows ▸ hr)
  have hvisible : store.visible = store.rows := by
    refine List.filter_eq_self.mpr fun r hr => ?_
    obtain ⟨v, -, hv⟩ := hrecords r hr
    rw [hv.hidden]
    rfl
  have horder : (s.filled store descriptors histories).view.order = store.rows.map (·.id) :=
    hvisible ▸ order_filled hstore descriptors histories
  refine ⟨_, load_of_ok hstore histories, ?_⟩
  constructor
  case rows =>
    show List.Forall₂ _ _ store.rows
    rw [hrows]
    exact forall₂_records _ _
  case ids =>
    show store.rows.map (·.id) = _
    rw [hrows, map_id_numbered, List.length_map]
  case order => exact horder
  case selected => exact ⟨rfl, selectedRow?_eq_head? hidx.takeEvents horder rfl⟩
  case changes =>
    refine Changes.ofRows_eq_empty fun r hr => ?_
    obtain ⟨v, -, hv⟩ := hrecords r hr
    exact hv.ofRow_eq_none
  all_goals rfl

/-! ## Every state that calls lead to -/

/-- Ids of rows are below the counter, and it never goes back. -/
theorem id_lt_of_mem_run {config : SheetConfig} {past ops : List Operation} (hpast : past <+: ops)
    {r : Row} (hr : r ∈ ((ofConfig config).run past).rows) :
    r.id < ((ofConfig config).run ops).store.nextId := by
  obtain ⟨later, rfl⟩ := hpast
  have hidx : ((ofConfig config).run past).store.Indexed := indexed_run indexed_empty past
  rw [run_append]
  -- The counter is followed from the state that has the row, over the calls after it.
  generalize (ofConfig config).run past = s at hidx hr ⊢
  have hle : (s.run later).store.Indexed ∧ s.store.nextId ≤ (s.run later).store.nextId := by
    refine run_invariant (P := fun t => t.store.Indexed ∧ s.store.nextId ≤ t.store.nextId) ?_
      ⟨hidx, Nat.le_refl _⟩ later
    intro t op ⟨ht, hle⟩
    exact ⟨indexed_apply ht op, Nat.le_trans hle (nextId_le_apply ht op)⟩
  exact Nat.lt_of_lt_of_le (hidx.fresh r hr) hle.2

/-- In every state that calls lead to, a load of values whose names are distinct succeeds and
replaces all that there was; the ids of the rows are larger than any that a row has had before. A
load that repeats a name fails for the first value that does, and leaves the emptied sheet, in which
the next load does what it would have done before. -/
theorem load_replaces (config : SheetConfig) (ops : List Operation)
    (values : List (String × Option String)) (descriptors : Descriptors) (histories : Histories) :
    let s := (ofConfig config).run ops
    ((values.map (·.1)).Nodup →
      ∃ t, s.load values descriptors histories = (t, .ok ()) ∧
        s.Loaded values descriptors histories t ∧
        ∀ past, past <+: ops → ∀ r ∈ ((ofConfig config).run past).rows, ∀ r' ∈ t.rows,
          r.id < r'.id) ∧
    (¬ (values.map (·.1)).Nodup →
      ∃ before v after, values = before ++ v :: after ∧ (before.map (·.1)).Nodup ∧
        v.1 ∈ before.map (·.1) ∧
        s.load values descriptors histories = (s.clear, .error (.duplicateProperty v.1 false)) ∧
        ∀ values descriptors histories, (values.map (·.1)).Nodup →
          ∃ t, s.clear.load values descriptors histories = (t, .ok ()) ∧
            s.Loaded values descriptors histories t) := by
  intro s
  constructor
  · intro h
    obtain ⟨t, ht, hloaded⟩ := s.loaded_of_nodup h descriptors histories
    refine ⟨t, ht, hloaded, fun past hpast r hr r' hr' => ?_⟩
    have hid : r'.id ∈ List.range' s.store.nextId values.length :=
      hloaded.ids ▸ List.mem_map_of_mem hr'
    exact Nat.lt_of_lt_of_le (id_lt_of_mem_run hpast hr) (List.mem_range'_1.mp hid).1
  · intro h
    obtain ⟨before, v, after, hvalues, hnodup, hrepeats, hload⟩ :=
      s.load_of_not_nodup h descriptors histories
    refine ⟨before, v, after, hvalues, hnodup, hrepeats, hload, ?_⟩
    intro values descriptors histories h
    rw [load_clear]
    exact s.loaded_of_nodup h descriptors histories

/-- A row is being edited when a load is refused. The next load finds nothing of either. -/
example :
    let s := (ofConfig {}).run [.load [("a", some "1")] .empty .empty, .activate]
    let refused := s.load [("b", none), ("c", none), ("b", some "2")] .empty .empty
    let t := (refused.1.load [("b", none)] .empty .empty).1
    s.editor.isSome ∧ refused.2 = .error (.duplicateProperty "b" false) ∧
      t.editor.isNone ∧ t.rows.map (fun r => (r.id, r.property)) = [(1, "b")] := by
  decide +kernel

end Sheet

end PropertySheet
