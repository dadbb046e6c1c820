import Mathlib.Data.List.Basic
import PropertySheet.Proofs.Sheet.Pane
import PropertySheet.Sheet.Draw

/-!
# Rows on the screen are formatted as they are now

A sheet formats a row again only when a note of the store names it, but what a row shows depends on
its descriptor too, and descriptors come with responses. `Pane.Current` says of certain properties
that their rows are nevertheless formatted as they are now. Every step of a pane keeps it, except
the one that replaces the descriptor of such a property while it has a row, so it holds in every
state that is reached without that (`formatted_of_reachable`). The grid is then drawn the same
whether or not it takes the rows from the cache.

With that step it fails: `staleRun` has two requests to add one property pending at a time. The
second response says that the property is a secret, and the value that was entered in the meantime
stays readable.
-/

namespace PropertySheet

open RowStore GridView

namespace Pane

/-- The view has followed every change of the rows, and the rows of certain properties are formatted
as they are now, for columns that fill the area. -/
structure Current (names : String → Prop) (p : Pane) : Prop where
  follows : p.view.Follows p.store
  followed : p.store.events = []
  cached : Caches names p.descriptors p.options p.view p.store
  widths : p.view.widths = .ofWidth p.view.area.inside.width

variable {names : String → Prop} {p q : Pane}

/-! ## One step -/

/-- A view may lag behind the rows before it follows them. -/
theorem current_sync (hfollows : p.view.Follows p.store)
    (hcached : Caches names p.descriptors p.options p.view p.store)
    (hwidths : p.view.widths = .ofWidth p.view.area.inside.width) : p.sync.Current names := by
  obtain ⟨hafter, harea, hsame, -, -⟩ := hfollows.sync_fst p.descriptors p.options
  have harea : p.sync.view.area = p.view.area := harea
  have hsame : p.sync.view.widths = p.view.widths := hsame
  refine ⟨hafter, rfl, hcached.sync hfollows, ?_⟩
  rw [hsame, harea]
  exact hwidths

/-- Following a change that the store announces. -/
theorem Current.sync_announced (h : p.Current names) {store : RowStore} {ids : List Nat}
    (ha : p.store.Announces store ids) : ({ p with store } : Pane).sync.Current names :=
  current_sync (h.follows.announces ha) (h.cached.announces ha) h.widths

theorem ofRow_insert_of_ne {r : Row} {name : String} (hne : r.property ≠ name)
    (descriptors : Descriptors) (d : Descriptor) (widths : ColumnWidths)
    (options : MarkupOptions) :
    RowMarkup.ofRow r (descriptors.insert name d) widths options =
      .ofRow r descriptors widths options := by
  rw [RowMarkup.ofRow, SortedMap.get?_insert, if_neg hne.symm]
  rfl

/-- The row whose descriptor is replaced is noted, and no other row has its name. -/
theorem Current.sync_assigned (h : p.Current names) {r : Row} (hr : r ∈ p.store.rows)
    {store : RowStore} (ha : p.store.Announces store [r.id]) (d : Descriptor) :
    ({ p with store, descriptors := p.descriptors.insert r.property d } : Pane).sync.Current
      names := by
  refine current_sync (h.follows.announces ha) (fun r' hr' hname => ?_) h.widths
  rcases h.cached.announces ha r' hr' hname with hnoted | hcached
  · exact .inl hnoted
  rcases ha.rows r' hr' with hid | hold
  · left
    rw [ha.notedIds]
    exact List.mem_append_right _ hid
  by_cases hsame : r'.property = r.property
  · obtain rfl := h.follows.indexed.eq_of_property_eq hold hr hsame
    left
    rw [ha.notedIds]
    exact List.mem_append_right _ List.mem_cons_self
  · right
    rw [ofRow_insert_of_ne hsame]
    exact hcached

/-- Without rows there is nothing to format, whatever was formatted before. -/
theorem Current.emptied (h : p.Current names) {others : String → Prop} :
    ({ p with
        store := p.store.clear.takeEvents.1
        view := p.view.reset
        descriptors := .empty } : Pane).Current others := by
  have hnone : p.store.clear.takeEvents.1.rows = [] := rows_clear p.store
  refine ⟨follows_reset _ (indexed_clear p.store).takeEvents hnone, rfl, ?_, h.widths⟩
  intro r hr
  rw [hnone] at hr
  cases hr

theorem Current.step {retold : String → Prop} (h : p.Current names)
    (hretold : ∀ name, retold name → ¬ names name) (hstep : Step retold p q) :
    q.Current names := by
  have hidx := h.follows.indexed
  cases hstep with
  | select place => exact ⟨h.follows.selecting place, h.followed, h.cached, h.widths⟩
  | resize area =>
    exact ⟨h.follows.resize area _ _, h.followed, caches_resize hidx p.view area _ _ _, rfl⟩
  | follow => exact current_sync h.follows h.cached h.widths
  | write hu => exact h.sync_announced (hidx.announces_update hu)
  | append ha => exact h.sync_announced (hidx.announces_add ha)
  | @learn name d hnone =>
    refine ⟨h.follows, h.followed, fun r hr hname => ?_, h.widths⟩
    -- a row of the name would be among those that may get a new descriptor
    have hne : r.property ≠ name := by
      rintro rfl
      exact hretold _ (hnone r (hidx.findByName?_eq_some_iff.mpr ⟨hr, rfl⟩)) hname
    rw [ofRow_insert_of_ne hne]
    exact h.cached r hr hname
  | assign d hr hu => exact h.sync_assigned hr (hidx.announces_update hu) d
  | empty => exact h.emptied
  | fill descriptors hempty hrows =>
    have ha := hidx.announces_replaceAll hrows
    refine current_sync (h.follows.announces ha) (fun r hr _ => ?_) h.widths
    rcases ha.rows r hr with hid | hold
    · left
      rw [ha.notedIds]
      exact List.mem_append_right _ hid
    · rw [hempty] at hold
      cases hold

/-! ## Any number of steps -/

theorem Current.course {retold : String → Prop} (h : p.Current names)
    (hretold : ∀ name, retold name → ¬ names name) (hcourse : Course retold p q) :
    q.Current names := by
  induction hcourse with
  | refl => exact h
  | tail _ hstep ih => exact ih.step hretold hstep

end Pane

namespace Sheet

variable {names : String → Prop} {s : Sheet}

/-- A call that does not replace the descriptor of one of certain properties while it has a row
that is not formatted with it. -/
def Formats (names : String → Prop) (s : Sheet) (op : Operation) : Prop :=
  ∀ name ∈ s.retold? op, ¬ names name

instance [DecidablePred names] (s : Sheet) (op : Operation) : Decidable (Formats names s op) :=
  inferInstanceAs (Decidable (∀ name ∈ s.retold? op, ¬ names name))

theorem current_ofConfig (config : SheetConfig) : (ofConfig config).pane.Current names := by
  refine ⟨follows_empty, rfl, fun _ hr => (nomatch hr), ?_⟩
  show ({} : ColumnWidths) = .ofWidth ({} : Rect).inside.width
  decide

theorem current_apply (h : s.pane.Current names) {op : Operation} (hop : s.Formats names op) :
    (s.apply op).pane.Current names :=
  h.course hop (course_apply h.follows.indexed op)

theorem current_of_reachable (h : Reachable (Formats names) s) : s.pane.Current names := by
  induction h with
  | new config => exact current_ofConfig config
  | step _ hop ih => exact current_apply ih hop

/-- With no note left the order is that of the visible rows. -/
theorem order_eq_of_current (h : s.pane.Current names) :
    s.view.order = s.visibleRows.map (·.id) := by
  have hevents : s.store.events = [] := h.followed
  rcases h.follows.ordered with horder | hcount | ⟨r, -, hnoted, -⟩
  · exact horder
  · have hcount : s.store.notesCount = true := hcount
    simp [notesCount, hevents] at hcount
  · have hnoted : r.id ∈ s.store.notedIds := hnoted
    simp [notedIds, hevents] at hnoted

theorem cached_of_current (h : s.pane.Current names) {r : Row} (hr : r ∈ s.rows)
    (hname : names r.property) :
    s.view.cache.get? r.id = some (.ofRow r s.descriptors s.view.widths s.markupOptions) := by
  have hevents : s.store.events = [] := h.followed
  rcases h.cached r hr hname with hnoted | hcached
  · have hnoted : r.id ∈ s.store.notedIds := hnoted
    simp [notedIds, hevents] at hnoted
  · exact hcached

/-! ## What a drawing depends on -/

/-- The columns that a drawing uses: those of the view only if it is for the area of the view. -/
def drawnWidths (s : Sheet) (area : Rect) : ColumnWidths :=
  if s.view.area = area then s.view.widths else .ofWidth area.inside.width

/-- The row of an id as a drawing shows it. -/
def drawnRow? (s : Sheet) (area : Rect) (id : Nat) : Option RowMarkup :=
  (s.store.findById? id).map (s.markupFor area (s.drawnWidths area))

/-- Sheets that agree on their rows as shown draw the same grid. -/
theorem drawGrid_congr {s t : Sheet} {area : Rect} (hconfig : s.config = t.config)
    (horder : s.view.order = t.view.order) (hoffset : s.view.offset = t.view.offset)
    (hselected : s.view.selected = t.view.selected)
    (hwidths : s.drawnWidths area = t.drawnWidths area)
    (hrows : ∀ id ∈ s.view.order, s.drawnRow? area id = t.drawnRow? area id) (screen : Screen) :
    s.drawGrid area screen = t.drawGrid area screen := by
  have hshown : ∀ lines, s.shownIds lines = t.shownIds lines := by
    intro lines
    rw [shownIds, shownIds, horder, hoffset]
  have hid : s.view.selectedId? = t.view.selectedId? := by
    rw [selectedId?, selectedId?, horder, hselected]
  have hrow : ∀ lines, ∀ e ∈ (t.shownIds lines).zipIdx,
      (s.store.findById? e.1).map (s.markupFor area (t.drawnWidths area)) =
        (t.store.findById? e.1).map (t.markupFor area (t.drawnWidths area)) := by
    intro lines e he
    rw [← hshown] at he
    have hmem : e.1 ∈ s.view.order :=
      List.mem_of_mem_drop (List.mem_of_mem_take (List.fst_mem_of_mem_zipIdx he))
    rw [← hwidths]
    simpa [drawnRow?, hwidths] using hrows e.1 hmem
  have htitle : s.title = t.title := by rw [title, title, hconfig]
  have hhelp : s.help = t.help := by rw [help, help, hconfig]
  unfold drawnWidths at hwidths hrow
  rw [drawGrid, drawGrid, htitle]
  split
  · rfl
  · simp only [hwidths, horder, hshown, hid, hhelp]
    congr 2
    refine List.foldl_ext _ _ _ fun screen e he => ?_
    have hsame := hrow _ e he
    cases hs : s.store.findById? e.1 with
    | none =>
      cases ht : t.store.findById? e.1 with
      | none => rfl
      | some r => simp [hs, ht] at hsame
    | some r =>
      cases ht : t.store.findById? e.1 with
      | none => simp [hs, ht] at hsame
      | some r' =>
        rw [hs, ht, Option.map_some, Option.map_some, Option.some.injEq] at hsame
        simp only [hsame]

/-- The sheet as if its rows were formatted for another area. -/
def viewing (s : Sheet) (area : Rect) : Sheet := { s with view := { s.view with area } }

/-- Where every visible row is formatted as it is now, it makes no difference to a drawing whether
the rows are taken from the cache. -/
theorem draw_viewing (h : s.pane.Current names) (hall : ∀ r ∈ s.visibleRows, names r.property)
    {other : Rect} (hother : other ≠ s.view.area) (screen : Screen) :
    (s.viewing other).draw s.view.area screen = s.draw s.view.area screen := by
  have harea : (s.viewing other).view.area ≠ s.view.area := hother
  have hwidths : (s.viewing other).drawnWidths s.view.area = s.drawnWidths s.view.area := by
    rw [drawnWidths, drawnWidths, if_neg harea, if_pos rfl]
    exact h.widths.symm
  have hrows : ∀ id ∈ s.view.order,
      (s.viewing other).drawnRow? s.view.area id = s.drawnRow? s.view.area id := by
    intro id hid
    rw [order_eq_of_current h] at hid
    obtain ⟨r, hr, rfl⟩ := List.mem_map.mp hid
    obtain ⟨hmem, -⟩ := mem_visible.mp hr
    have hfound : s.store.findById? r.id = some r :=
      h.follows.indexed.findById?_eq_some_iff.mpr ⟨hmem, rfl⟩
    have hcached := cached_of_current h hmem (hall r hr)
    have hformatted : (s.viewing other).markupFor s.view.area (s.drawnWidths s.view.area) r =
        s.markupFor s.view.area (s.drawnWidths s.view.area) r := by
      rw [markupFor, markupFor, if_neg harea, if_pos rfl, hcached, drawnWidths, if_pos rfl]
      rfl
    rw [drawnRow?, drawnRow?, hwidths, hfound]
    show (s.store.findById? r.id).map _ = _
    rw [hfound, Option.map_some, Option.map_some, hformatted]
  have hgrid := drawGrid_congr (s := s.viewing other) (t := s) rfl rfl rfl rfl hwidths hrows screen
  rw [draw, draw, hgrid]
  rfl

/-! ## Every state that calls lead to -/

/-- In every state that calls lead to, the rows of a property are cached as they would be formatted
now, unless a call replaced the descriptor of the property while it had a row that was not formatted
with it. Where that holds of every visible row, a drawing for the area of the view is the same when
the rows are formatted for it. -/
theorem formatted_of_reachable (h : Reachable (Formats names) s) :
    (∀ r ∈ s.visibleRows, names r.property →
      s.view.cache.get? r.id = some (.ofRow r s.descriptors s.view.widths s.markupOptions)) ∧
    ((∀ r ∈ s.visibleRows, names r.property) → ∀ other screen, other ≠ s.view.area →
      (s.viewing other).draw s.view.area screen = s.draw s.view.area screen) := by
  have hcurrent := current_of_reachable h
  refine ⟨fun r hr hname => ?_, fun hall other screen hother => ?_⟩
  · exact cached_of_current hcurrent (mem_visible.mp hr).1 hname
  · exact draw_viewing hcurrent hall hother screen

/-- The keys that ask for a property of name "x". -/
def askingForX : List Operation :=
  [.handleKey { code := .char 'a' }, .handleKey { code := .char 'x' },
    .handleKey { code := .enter }]

/-- The keys that enter a value and store it. -/
def enteringAbc : List Operation :=
  [.handleKey { code := .char 'a' }, .handleKey { code := .char 'b' },
    .handleKey { code := .char 'c' }, .handleKey { code := .enter }]

/-- A secret is added and gets a value. -/
def addingSecretRun : List Operation :=
  .resize ⟨0, 0, 80, 20⟩ :: askingForX ++
    .complete (.descriptor 0 (.ok { name := "x", sensitive := true })) :: enteringAbc

/-- The value is not readable, neither in the cache nor when the row is formatted again. -/
theorem formatted_addingSecretRun :
    let s := (ofConfig { dialogContainer := some "main" }).run addingSecretRun
    Reachable (Formats fun _ => True) s ∧
    (∃ r ∈ s.visibleRows, r.value = some "abc" ∧
      (s.view.cache.get? r.id).map (·.value.text) = some Markup.sensitiveValueSet) ∧
    (∀ r ∈ s.visibleRows, True →
      s.view.cache.get? r.id = some (.ofRow r s.descriptors s.view.widths s.markupOptions)) ∧
    ((∀ r ∈ s.visibleRows, True) → ∀ other screen, other ≠ s.view.area →
      (s.viewing other).draw s.view.area screen = s.draw s.view.area screen) := by
  intro s
  have hallowed : AllowedAlong (Formats fun _ => True)
      (ofConfig { dialogContainer := some "main" }) addingSecretRun := by decide +kernel
  have hreachable : Reachable (Formats fun _ => True) s := Reachable.run (.new _) hallowed
  exact ⟨hreachable, by decide +kernel, formatted_of_reachable hreachable⟩

/-- A property is asked for twice before the first response. It gets a value in between, and the
second response says that it is a secret. -/
def staleRun : List Operation :=
  .resize ⟨0, 0, 80, 20⟩ :: askingForX ++ askingForX ++
    .complete (.descriptor 0 (.ok { name := "x" })) :: enteringAbc ++
    [.complete (.descriptor 1 (.ok { name := "x", sensitive := true }))]

/-- The secret stays readable: its row is cached as it was formatted with the old descriptor. -/
theorem cached_ne_formatted_staleRun :
    let s := (ofConfig { dialogContainer := some "main" }).run staleRun
    ∃ r ∈ s.visibleRows,
      (s.view.cache.get? r.id).map (·.value.text) = some "abc" ∧
      (RowMarkup.ofRow r s.descriptors s.view.widths s.markupOptions).value.text =
        Markup.sensitiveValueSet ∧
      s.view.cache.get? r.id ≠ some (.ofRow r s.descriptors s.view.widths s.markupOptions) := by
  decide +kernel

end Sheet

end PropertySheet
