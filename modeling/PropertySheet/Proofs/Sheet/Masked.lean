import PropertySheet.Proofs.Sheet.EditLock
import PropertySheet.Proofs.Sheet.Formatted

/-!
# Sheets without their secrets

Masking the properties of a list replaces each of their values by an empty text and forgets what
they were. Whether a property is set stays. A sheet is masked in its rows and in the editor that is
open on such a row. What is not on the screen, how many rows were formatted last and the requests
that nobody has taken yet, is left out.

If every property of the list is a secret, masking it changes nothing that is drawn
(`draw_mask`): rows are formatted the same, an editor opens with the same content, and it takes keys
in the same way.
-/

namespace PropertySheet

/-! ## Secrets -/

/-- Nothing of the value of a property shows except whether there is one: it is sensitive, and it is
not chosen from a list. -/
def Descriptor.IsSecret (d : Descriptor) : Prop := d.sensitive = true ∧ d.allowableValues = none

instance (d : Descriptor) : Decidable d.IsSecret :=
  inferInstanceAs (Decidable (d.sensitive = true ∧ d.allowableValues = none))

/-- Every property of a list is known to be a secret. -/
def Secrets (names : List String) (descriptors : Descriptors) : Prop :=
  ∀ name ∈ names, ∃ d, descriptors.get? name = some d ∧ d.IsSecret

theorem Descriptor.IsSecret.findChoice? {d : Descriptor} (h : d.IsSecret) (value : String) :
    d.findChoice? value = none := by
  rw [Descriptor.findChoice?, choices, h.2]
  rfl

theorem Descriptor.IsSecret.isChoice {d : Descriptor} (h : d.IsSecret) : d.isChoice = false := by
  rw [Descriptor.isChoice, h.2]
  rfl

/-- A value of which only whether it is there may be known. -/
def masked (value : Option String) : Option String := value.map fun _ => ""

@[simp]
theorem masked_masked (value : Option String) : masked (masked value) = masked value := by
  cases value <;> rfl

theorem masked_eq_of_isSome {a b : Option String} (ha : a.isSome) (hb : b.isSome) :
    masked a = masked b := by
  obtain ⟨_, rfl⟩ := Option.isSome_iff_exists.mp ha
  obtain ⟨_, rfl⟩ := Option.isSome_iff_exists.mp hb
  rfl

variable {names : List String}

/-! ## Rows -/

namespace Row

/-- The row without its value if its property is to be masked. -/
def mask (names : List String) (r : Row) : Row :=
  { r with
    value := if r.property ∈ names then masked r.value else r.value
    previousValue := if r.property ∈ names then none else r.previousValue }

@[simp]
theorem id_mask (r : Row) : (r.mask names).id = r.id := rfl

@[simp]
theorem property_mask (r : Row) : (r.mask names).property = r.property := rfl

@[simp]
theorem hidden_mask (r : Row) : (r.mask names).hidden = r.hidden := rfl

theorem mask_of_not_mem {r : Row} (h : r.property ∉ names) : r.mask names = r := by
  simp [mask, h]

@[simp]
theorem mask_mask (r : Row) : (r.mask names).mask names = r.mask names := by
  by_cases h : r.property ∈ names
  · simp [mask, h]
  · rw [mask_of_not_mem h, mask_of_not_mem h]

theorem mask_patch (r : Row) (p : RowPatch) :
    ((r.mask names).patch p).mask names = (r.patch p).mask names := by
  by_cases h : r.property ∈ names
  · cases hv : p.value <;> simp [mask, patch, h, hv]
  · rw [mask_of_not_mem h]

end Row

/-- What is formatted of a row of a secret does not depend on its value. -/
theorem RowMarkup.ofRow_mask {descriptors : Descriptors} (h : Secrets names descriptors) (r : Row)
    (widths : ColumnWidths) (options : MarkupOptions) :
    RowMarkup.ofRow (r.mask names) descriptors widths options =
      .ofRow r descriptors widths options := by
  by_cases hname : r.property ∈ names
  · obtain ⟨d, hd, hsecret⟩ := h _ hname
    cases hvalue : r.value with
    | none => simp [ofRow, Row.mask, hname, hvalue, masked, Markup.name, Markup.value,
        Markup.valueText, Markup.actions]
    | some value => simp [ofRow, Row.mask, hname, hvalue, masked, Markup.name, Markup.value,
        Markup.valueText, Markup.actions, hd, hsecret.1, hsecret.findChoice?]
  · rw [Row.mask_of_not_mem hname]

/-- A secret has no detail. -/
theorem ValueDetail.ofRow?_mask {descriptors : Descriptors} (h : Secrets names descriptors)
    (r : Row) : ofRow? (r.mask names) (descriptors.get? r.property) =
      ofRow? r (descriptors.get? r.property) := by
  by_cases hname : r.property ∈ names
  · obtain ⟨d, hd, hsecret⟩ := h _ hname
    cases hvalue : r.value with
    | none => simp [ofRow?, Row.mask, hname, hvalue, masked]
    | some value => simp [ofRow?, Row.mask, hname, hvalue, masked, hd, hsecret.1]
  · rw [Row.mask_of_not_mem hname]

/-! ## Editors -/

namespace CellEditor

/-- The editor with another value to remember for its row. -/
def remembering (e : CellEditor) (value : Option String) : CellEditor :=
  { e with previousValue := value }

/-- The editor without the value that it remembers if its property is to be masked. -/
def mask (names : List String) (e : CellEditor) : CellEditor :=
  e.remembering (if e.property ∈ names then masked e.previousValue else e.previousValue)

theorem mask_of_not_mem {e : CellEditor} (h : e.property ∉ names) : e.mask names = e := by
  rw [mask, if_neg h]
  rfl

@[simp]
theorem mask_mask (e : CellEditor) : (e.mask names).mask names = e.mask names := by
  by_cases h : e.property ∈ names
  · simp [mask, remembering, h]
  · rw [mask_of_not_mem h, mask_of_not_mem h]

/-- A secret is edited in a field, of whose content the value is no part. -/
theorem bodyFor_of_isSecret {d : Descriptor} (h : d.IsSecret) (r : Row) :
    bodyFor r (some d) = if d.supportsExpressions then .expression (.load (masked r.value) true)
      else .plain (.load (masked r.value) true) := by
  have hload : TextField.load r.value true = .load (masked r.value) true := by
    cases r.value <;> rfl
  rw [← hload]
  cases hexpr : d.supportsExpressions <;>
    simp [bodyFor, EditorKind.ofDescriptor, h.isChoice, hexpr, h.1]

/-- An editor on a secret opens with the same content whatever the value is. -/
theorem onRow_mask {descriptors : Descriptors} (h : Secrets names descriptors) (r : Row)
    (anchor : Rect) :
    onRow (r.mask names) (descriptors.get? r.property) anchor =
      (onRow r (descriptors.get? r.property) anchor).mask names := by
  by_cases hname : r.property ∈ names
  · obtain ⟨d, hd, hsecret⟩ := h _ hname
    have hvalue : (r.mask names).value = masked r.value := if_pos hname
    have hbody : bodyFor (r.mask names) (some d) = bodyFor r (some d) := by
      rw [bodyFor_of_isSecret hsecret, bodyFor_of_isSecret hsecret, hvalue, masked_masked]
    rw [hd, onRow, hbody, hvalue, mask, if_pos (by exact hname)]
    rfl
  · rw [Row.mask_of_not_mem hname, mask_of_not_mem hname]

/-- Keys do not look at the value that an editor remembers. -/
theorem handleKey_remembering (e : CellEditor) (value : Option String) (k : Key) :
    (e.remembering value).handleKey k =
      ((e.handleKey k).1.remembering value, (e.handleKey k).2) := by
  have hdestroyed : (e.remembering value).destroyed = e.destroyed := rfl
  have hresize : ∀ dh, (e.remembering value).resizeBy dh = (e.resizeBy dh).remembering value := by
    intro dh
    have hbody : (e.remembering value).body = e.body := rfl
    rw [resizeBy, resizeBy, hbody]
    split <;> rfl
  rw [handleKey, handleKey, hdestroyed]
  split
  · rfl
  · split
    · rfl
    · split
      next dh _ => rw [hresize]
      · rfl

theorem handleKey_mask (e : CellEditor) (k : Key) :
    (e.mask names).handleKey k = ((e.handleKey k).1.mask names, (e.handleKey k).2) := by
  have hsame := e.sameRow_handleKey k
  rw [mask, handleKey_remembering, mask, hsame.property, hsame.previousValue]

theorem draw_mask (e : CellEditor) (bounds : Rect) (screen : Screen) :
    (e.mask names).draw bounds screen = e.draw bounds screen := rfl

end CellEditor

/-! ## Stores -/

/-- A row before it has an id, without its value if its property is to be masked. -/
def NewRow.mask (names : List String) (r : NewRow) : NewRow :=
  { r with
    value := if r.property ∈ names then masked r.value else r.value
    previousValue := if r.property ∈ names then none else r.previousValue }

theorem NewRow.withId_mask (r : NewRow) (id : Nat) :
    (r.mask names).withId id = (r.withId id).mask names := rfl

namespace RowStore

variable {s : RowStore}

/-- The store with its rows masked. -/
def mask (names : List String) (s : RowStore) : RowStore :=
  { s with rows := s.rows.map (Row.mask names) }

@[simp]
theorem mask_mask (s : RowStore) : (s.mask names).mask names = s.mask names := by
  simp [mask, Function.comp_def]

theorem findById?_mask (s : RowStore) (id : Nat) :
    (s.mask names).findById? id = (s.findById? id).map (Row.mask names) := by
  rw [findById?, findById?]
  show (s.byId.get? id).bind _ = ((s.byId.get? id).bind _).map _
  cases s.byId.get? id with
  | none => rfl
  | some position => exact List.getElem?_map

theorem findByName?_mask (s : RowStore) (name : String) :
    (s.mask names).findByName? name = (s.findByName? name).map (Row.mask names) := by
  rw [findByName?, findByName?]
  show (s.byName.get? name).bind _ = ((s.byName.get? name).bind _).map _
  cases s.byName.get? name with
  | none => rfl
  | some position => exact List.getElem?_map

theorem visible_mask (s : RowStore) :
    (s.mask names).visible = s.visible.map (Row.mask names) := by
  simp only [visible, mask, List.filter_map]
  rfl

/-- Masking keeps what the maps and the counters are about. -/
theorem Indexed.mask (h : s.Indexed) : (s.mask names).Indexed where
  byName := h.byName.map fun _ => rfl
  byId := h.byId.map fun _ => rfl
  increasing := List.pairwise_map.mpr h.increasing
  fresh r hr := by
    obtain ⟨r', hr', rfl⟩ := List.mem_map.mp hr
    exact h.fresh r' hr'
  counted := by
    have hcounted : (s.mask names).visibleCount = s.visibleCount := rfl
    rw [hcounted, h.counted, RowStore.mask, List.countP_map]
    rfl

/-! ### Changes -/

theorem mask_noteCount (s : RowStore) (n : Nat) :
    (s.mask names).noteCount n = (s.noteCount n).mask names := by
  have hcount : (s.mask names).visibleCount = s.visibleCount := rfl
  rw [noteCount, noteCount, hcount]
  split <;> rfl

/-- Stores that are the same when masked are so after the same notes. -/
theorem mask_noted {t : RowStore} (h : s.mask names = t.mask names) (n : Nat) (e : RowEvent) :
    ((s.noteCount n).emit e).mask names = ((t.noteCount n).emit e).mask names := by
  have hemit : ∀ u : RowStore, ((u.noteCount n).emit e).mask names =
      ((u.mask names).noteCount n).emit e := by
    intro u
    rw [mask_noteCount]
    rfl
  rw [hemit, hemit, h]

/-- Setting fields of a row comes to the same whether or not the old value is masked. -/
theorem mask_update (names : List String) (s : RowStore) (id : Nat) (p : RowPatch) :
    ((s.mask names).update id p).map (mask names) = (s.update id p).map (mask names) := by
  have hbyId : (s.mask names).byId = s.byId := rfl
  have hrows : (s.mask names).rows = s.rows.map (Row.mask names) := rfl
  rw [update, update, hbyId, hrows]
  cases s.byId.get? id with
  | none => rfl
  | some position =>
    simp only [List.getElem?_map]
    cases s.rows[position]? with
    | none => rfl
    | some r =>
      have hset : ((s.rows.map (Row.mask names)).set position ((r.mask names).patch p)).map
          (Row.mask names) = (s.rows.set position (r.patch p)).map (Row.mask names) := by
        rw [List.map_set, List.map_set, Row.mask_patch, List.map_map]
        congr 1
        exact List.map_congr_left fun r _ => r.mask_mask
      refine congrArg Except.ok (mask_noted ?_ _ _)
      simp only [mask, hset]
      rfl

theorem mask_insert (names : List String) (s : RowStore) (r : NewRow) :
    (s.mask names).insert (r.mask names) =
      (s.insert r).map fun x => (x.1.mask names, x.2) := by
  have hname : (r.mask names).property = r.property := rfl
  rw [insert, insert, hname, findByName?_mask]
  cases s.findByName? r.property with
  | some old => rfl
  | none =>
    simp only [Option.map_none, Except.map, mask, NewRow.withId_mask, List.map_append,
      List.length_map]
    rfl

theorem mask_insertAll (names : List String) (s : RowStore) (rows : List NewRow) :
    (s.mask names).insertAll (rows.map (NewRow.mask names)) =
      (s.insertAll rows).map fun x => (x.1.mask names, x.2) := by
  induction rows generalizing s with
  | nil => rfl
  | cons r rest ih =>
    rw [List.map_cons, insertAll, insertAll, mask_insert]
    cases s.insert r with
    | error e => rfl
    | ok inserted =>
      obtain ⟨t, id⟩ := inserted
      simp only [Except.map, bind, Except.bind]
      rw [ih]
      cases t.insertAll rest with
      | error e => rfl
      | ok appended => rfl

theorem firstRepeat_map_mask (seen : List String) (rows : List NewRow) :
    firstRepeat seen (rows.map (NewRow.mask names)) =
      (firstRepeat seen rows).map (NewRow.mask names) := by
  induction rows generalizing seen with
  | nil => rfl
  | cons r rest ih =>
    have hname : (r.mask names).property = r.property := rfl
    rw [List.map_cons, firstRepeat, firstRepeat, hname]
    split
    · rfl
    · exact ih _

theorem mask_replaceAll (names : List String) (s : RowStore) (rows : List NewRow) :
    (s.mask names).replaceAll (rows.map (NewRow.mask names)) =
      (s.replaceAll rows).map (mask names) := by
  rw [replaceAll, replaceAll, firstRepeat_map_mask]
  cases firstRepeat [] rows with
  | some r => rfl
  | none =>
    have hempty : (s.mask names).withoutRows = s.withoutRows.mask names := rfl
    simp only [Option.map_none, hempty, mask_insertAll]
    cases s.withoutRows.insertAll rows with
    | error e => rfl
    | ok appended =>
      obtain ⟨t, ids⟩ := appended
      simp only [Except.map, bind, Except.bind, pure, Except.pure, mask_noteCount]
      split <;> rfl

theorem mask_add (names : List String) (s : RowStore) (r : NewRow) :
    (s.mask names).add (r.mask names) = (s.add r).map fun x => (x.1.mask names, x.2) := by
  rw [add, add, mask_insert]
  cases s.insert r with
  | error e => rfl
  | ok inserted =>
    obtain ⟨t, id⟩ := inserted
    simp only [Except.map, bind, Except.bind, pure, Except.pure, mask_noteCount]
    rfl

end RowStore

/-! ## Views -/

namespace GridView

section Views

variable {descriptors : Descriptors} (h : Secrets names descriptors)

include h

theorem syncRow_mask (store : RowStore) (options : MarkupOptions) :
    syncRow (store.mask names) descriptors options = syncRow store descriptors options := by
  funext a id
  rw [syncRow, syncRow, RowStore.findById?_mask]
  cases store.findById? id with
  | none => rfl
  | some r =>
    simp only [Option.map_some, Row.hidden_mask, RowMarkup.ofRow_mask h]

theorem syncEvent_mask (store : RowStore) (options : MarkupOptions) :
    syncEvent (store.mask names) descriptors options = syncEvent store descriptors options := by
  funext a e
  cases e with
  | countChanged previous current => rfl
  | rowsChanged ids => rw [syncEvent, syncEvent, syncRow_mask h]

omit h in
theorem rebuild_mask (g : GridView) (store : RowStore) :
    g.rebuild (store.mask names) = g.rebuild store := by
  have hids : (store.mask names).visible.map (·.id) = store.visible.map (·.id) := by
    rw [RowStore.visible_mask, List.map_map]
    rfl
  have hfound : ∀ id, ((store.mask names).findById? id).isSome = (store.findById? id).isSome := by
    intro id
    rw [RowStore.findById?_mask, Option.isSome_map]
  rw [rebuild, rebuild, hids]
  simp only [hfound]

/-- A view follows masked rows as it follows the rows. -/
theorem sync_mask (g : GridView) (store : RowStore) (options : MarkupOptions) :
    g.sync (store.mask names) descriptors options =
      ((g.sync store descriptors options).1, (g.sync store descriptors options).2.mask names) := by
  have hevents : (store.mask names).events = store.events := rfl
  have htake : (store.mask names).takeEvents.1 = store.takeEvents.1.mask names := rfl
  rw [sync_eq, sync_eq, followNotes, followNotes, hevents, htake, syncEvent_mask h, rebuild_mask]

theorem resize_mask (g : GridView) (area : Rect) (store : RowStore) (options : MarkupOptions) :
    g.resize area (store.mask names) descriptors options =
      g.resize area store descriptors options := by
  have hrows : (store.mask names).rows = store.rows.map (Row.mask names) := rfl
  simp only [resize, hrows, List.foldl_map, Row.id_mask, RowMarkup.ofRow_mask h, List.length_map]

end Views

/-- The view without the count of the rows that were formatted last. -/
def uncounted (g : GridView) : GridView := { g with lastFormatted := 0 }

end GridView

/-! ## Sheets -/

namespace Sheet

open GridView

/-- The sheet with certain properties masked, and without what is not on the screen. -/
def mask (names : List String) (s : Sheet) : Sheet :=
  { s with
    store := s.store.mask names
    view := s.view.uncounted
    editor := s.editor.map (CellEditor.mask names)
    requests := [] }

variable {s : Sheet}

@[simp]
theorem mask_mask (s : Sheet) : (s.mask names).mask names = s.mask names := by
  have heditor : (s.editor.map (CellEditor.mask names)).map (CellEditor.mask names) =
      s.editor.map (CellEditor.mask names) := by
    cases s.editor <;> simp
  simp only [mask, RowStore.mask_mask, heditor]
  rfl

theorem markupFor_mask (h : Secrets names s.descriptors) (area : Rect) (widths : ColumnWidths)
    (r : Row) : (s.mask names).markupFor area widths (r.mask names) =
      s.markupFor area widths r := by
  have hcached : (if (s.mask names).view.area = area then
      (s.mask names).view.cache.get? (r.mask names).id else none) =
      if s.view.area = area then s.view.cache.get? r.id else none := rfl
  rw [markupFor, markupFor, hcached]
  cases if s.view.area = area then s.view.cache.get? r.id else none with
  | some m => rfl
  | none => exact RowMarkup.ofRow_mask h r widths s.markupOptions

/-- Masking secrets changes nothing that is drawn. -/
theorem draw_mask (h : Secrets names s.descriptors) (area : Rect) (screen : Screen) :
    (s.mask names).draw area screen = s.draw area screen := by
  have hwidths : (s.mask names).drawnWidths area = s.drawnWidths area := rfl
  have hrows : ∀ id ∈ s.view.order,
      (s.mask names).drawnRow? area id = s.drawnRow? area id := by
    intro id _
    rw [drawnRow?, drawnRow?, hwidths]
    show ((s.store.mask names).findById? id).map _ = _
    rw [RowStore.findById?_mask, Option.map_map]
    congr 1
    funext r
    exact markupFor_mask h area _ r
  have hgrid := drawGrid_congr (s := s.mask names) (t := s) rfl rfl rfl rfl hwidths hrows screen
  have heditor : ∀ screen, drawOver (s.mask names).editor (fun e => e.draw area) screen =
      drawOver s.editor (fun e => e.draw area) screen := by
    intro screen
    show drawOver (s.editor.map (CellEditor.mask names)) _ _ = _
    cases s.editor with
    | none => rfl
    | some e => exact e.draw_mask area screen
  rw [draw, draw, hgrid, heditor]
  rfl

end Sheet

end PropertySheet
