import Mathlib.Data.List.Induction
import PropertySheet.Proofs.GridView.Selection
import PropertySheet.Proofs.RowStore.Notes

/-!
# A grid view follows its rows

A view builds its order anew only when a note says that the number of visible rows changed, or names
a visible row that it does not know, and formats only the rows that notes name. `sync_after` says
that this is enough: whatever happened to the rows since the last synchronisation, afterwards the
order, the places and the formatted rows are those of a view that was built from nothing.

Between two synchronisations the view may be out of date. `Follows` is what holds then: the order is
that of the visible rows, or the notes that are not taken yet call for a new one. `Caches` says the
same of the formatted rows: they are as the rows are now, unless a note names them. Every change
that a store announces keeps both.
-/

namespace PropertySheet

namespace GridView

open RowStore

variable {g : GridView} {s t : RowStore}

/-! ## A view and a store between two synchronisations -/

/-- The notes of a store call for a new order: the number of visible rows changed, or they name a
visible row that is not in the order. -/
def CallsForOrder (s : RowStore) (order : List Nat) : Prop :=
  s.notesCount = true ∨ ∃ r ∈ s.visible, r.id ∈ s.notedIds ∧ r.id ∉ order

/-- A view places the rows of its order, and that is the order of the visible rows unless the notes
of the store call for a new one. -/
structure Follows (g : GridView) (s : RowStore) : Prop where
  indexed : s.Indexed
  placed : ∀ id i, g.positions.get? id = some i ↔ g.order[i]? = some id
  known : ∀ id ∈ g.order, id < s.nextId
  ordered : g.order = s.visible.map (·.id) ∨ CallsForOrder s g.order

/-- The rows of certain properties are cached as they are formatted now, unless a note names
them. -/
def Caches (names : String → Prop) (descriptors : Descriptors) (options : MarkupOptions)
    (g : GridView) (s : RowStore) : Prop :=
  ∀ r ∈ s.rows, names r.property →
    r.id ∈ s.notedIds ∨ g.cache.get? r.id = some (.ofRow r descriptors g.widths options)

theorem follows_empty : Follows {} {} where
  indexed := indexed_empty
  placed _ _ := by simp
  known _ hid := nomatch hid
  ordered := .inl rfl

/-- A view that has forgotten the rows follows a store that has none. -/
theorem follows_reset (g : GridView) (h : s.Indexed) (hnone : s.rows = []) :
    g.reset.Follows s where
  indexed := h
  placed _ _ := by simp [reset]
  known _ hid := nomatch hid
  ordered := .inl (by simp [reset, visible, hnone])

/-- What a store announces keeps the view following it. -/
theorem Follows.announces (h : g.Follows s) {ids : List Nat} (ha : s.Announces t ids) :
    g.Follows t where
  indexed := ha.indexed
  placed := h.placed
  known id hid := Nat.lt_of_lt_of_le (h.known id hid) ha.nextId_le
  ordered := by
    by_cases hcount : s.visibleCount = t.visibleCount
    · rcases ha.visible hcount with hsame | ⟨r, hr, hnoted, hnew⟩
      · rcases h.ordered with horder | hcount | ⟨r, hr, hnoted, hunknown⟩
        · exact .inl (horder.trans hsame.symm)
        · exact .inr (.inl (by rw [ha.notesCount, hcount, Bool.true_or]))
        -- the visible row that the order lacks is still visible
        · have hid : r.id ∈ t.visible.map (·.id) := hsame ▸ List.mem_map_of_mem hr
          obtain ⟨r', hr', hid'⟩ := List.mem_map.mp hid
          refine .inr (.inr ⟨r', hr', ?_, hid' ▸ hunknown⟩)
          rw [ha.notedIds, hid']
          exact List.mem_append_left _ hnoted
      · refine .inr (.inr ⟨r, hr, ?_, fun hid => ?_⟩)
        · rw [ha.notedIds]
          exact List.mem_append_right _ hnoted
        · have := h.known _ hid
          omega
    · exact .inr (.inl (by simp [ha.notesCount, hcount]))

theorem Caches.announces {names : String → Prop} {descriptors : Descriptors}
    {options : MarkupOptions} (h : Caches names descriptors options g s) {ids : List Nat}
    (ha : s.Announces t ids) : Caches names descriptors options g t := by
  intro r hr hname
  rw [ha.notedIds, List.mem_append]
  rcases ha.rows r hr with hnoted | hold
  · exact .inl (.inr hnoted)
  · rcases h r hold hname with hnoted | hcached
    · exact .inl (.inl hnoted)
    · exact .inr hcached

/-! ## Moving the selection -/

theorem Follows.selecting (h : g.Follows s) (place : Nat) : (g.selecting place).Follows s :=
  ⟨h.indexed, h.placed, h.known, h.ordered⟩

/-! ## Taking a new area -/

theorem get?_foldl_insert_ofRow {rows : List Row} (hids : (rows.map (·.id)).Nodup)
    (format : Row → RowMarkup) (cache : SortedMap Nat RowMarkup) {r : Row} (hr : r ∈ rows) :
    (rows.foldl (fun cache (r : Row) => cache.insert r.id (format r)) cache).get? r.id =
      some (format r) := by
  have hother : ∀ (rest : List Row) (cache : SortedMap Nat RowMarkup), r.id ∉ rest.map (·.id) →
      (rest.foldl (fun cache (r : Row) => cache.insert r.id (format r)) cache).get? r.id =
        cache.get? r.id := by
    intro rest
    induction rest with
    | nil => intros; rfl
    | cons r' rest ih =>
      intro cache hnot
      rw [List.map_cons, List.mem_cons, not_or] at hnot
      rw [List.foldl_cons, ih _ hnot.2, SortedMap.get?_insert, if_neg (Ne.symm hnot.1)]
  induction rows generalizing cache with
  | nil => cases hr
  | cons r' rest ih =>
    rw [List.map_cons, List.nodup_cons] at hids
    rw [List.foldl_cons]
    rcases List.mem_cons.mp hr with rfl | hr
    · rw [hother rest _ hids.1, SortedMap.get?_insert, if_pos rfl]
    · exact ih hids.2 _ hr

theorem Indexed.ids_nodup (h : s.Indexed) : (s.rows.map (·.id)).Nodup :=
  List.pairwise_map.mpr (h.increasing.imp Nat.ne_of_lt)

theorem Follows.resize (h : g.Follows s) (area : Rect) (descriptors : Descriptors)
    (options : MarkupOptions) : (g.resize area s descriptors options).Follows s :=
  ⟨h.indexed, h.placed, h.known, h.ordered⟩

/-- Taking a new area formats every row. -/
theorem caches_resize (h : s.Indexed) (g : GridView) (area : Rect) (names : String → Prop)
    (descriptors : Descriptors) (options : MarkupOptions) :
    Caches names descriptors options (g.resize area s descriptors options) s := by
  intro r hr _
  right
  exact get?_foldl_insert_ofRow (Indexed.ids_nodup h)
    (RowMarkup.ofRow · descriptors (.ofWidth area.inside.width) options) .empty hr

/-! ## One synchronisation -/

section Sync

variable {store : RowStore} {descriptors : Descriptors} {options : MarkupOptions}

/-- The notes have been followed: rows that they name are formatted, or forgotten when they are
gone, everything else is as it was, and a new order is due if the notes call for one. -/
structure Tracks (store : RowStore) (descriptors : Descriptors) (options : MarkupOptions)
    (a : SyncState) (ids : List Nat) (counts : Bool) (b : SyncState) : Prop where
  frame : ∃ cache n, b.view = { a.view with cache, lastFormatted := n }
  cache : ∀ id, b.view.cache.get? id =
    if id ∈ ids then (store.findById? id).map (RowMarkup.ofRow · descriptors a.view.widths options)
    else a.view.cache.get? id
  rebuild : b.rebuild = true ↔ a.rebuild = true ∨ counts = true ∨
    ∃ id ∈ ids, ∃ r, store.findById? id = some r ∧ r.hidden = false ∧
      a.view.positions.contains id = false

variable {a b c : SyncState} {ids more : List Nat} {counts counts' : Bool}

theorem tracks_nil (a : SyncState) : Tracks store descriptors options a [] false a where
  frame := ⟨_, _, rfl⟩
  cache _ := by simp
  rebuild := by simp

theorem Tracks.trans (hab : Tracks store descriptors options a ids counts b)
    (hbc : Tracks store descriptors options b more counts' c) :
    Tracks store descriptors options a (ids ++ more) (counts || counts') c := by
  obtain ⟨cache, n, hview⟩ := hab.frame
  obtain ⟨cache', n', hview'⟩ := hbc.frame
  refine ⟨⟨cache', n', by rw [hview', hview]⟩, ?_, ?_⟩
  · intro id
    have hwidths : b.view.widths = a.view.widths := by rw [hview]
    rw [hbc.cache, hab.cache, hwidths]
    by_cases hmore : id ∈ more
    · simp [hmore]
    · simp [hmore]
  · have hpositions : b.view.positions = a.view.positions := by rw [hview]
    rw [hbc.rebuild, hab.rebuild, hpositions]
    simp only [List.mem_append, Bool.or_eq_true]
    constructor
    · rintro ((ha | hc | ⟨id, hid, h⟩) | hc | ⟨id, hid, h⟩)
      · exact .inl ha
      · exact .inr (.inl (.inl hc))
      · exact .inr (.inr ⟨id, .inl hid, h⟩)
      · exact .inr (.inl (.inr hc))
      · exact .inr (.inr ⟨id, .inr hid, h⟩)
    · rintro (ha | (hc | hc) | ⟨id, hid | hid, h⟩)
      · exact .inl (.inl ha)
      · exact .inl (.inr (.inl hc))
      · exact .inr (.inl hc)
      · exact .inl (.inr (.inr ⟨id, hid, h⟩))
      · exact .inr (.inr ⟨id, hid, h⟩)

theorem tracks_syncRow (a : SyncState) (id : Nat) :
    Tracks store descriptors options a [id] false (syncRow store descriptors options a id) := by
  unfold syncRow
  cases hfound : store.findById? id with
  | some r =>
    refine ⟨⟨_, _, rfl⟩, ?_, ?_⟩
    · intro id'
      simp only [SortedMap.get?_insert, List.mem_singleton]
      by_cases hid : id = id'
      · subst hid
        simp [hfound]
      · simp [hid, Ne.symm hid]
    · simp [hfound]
  | none =>
    refine ⟨⟨_, _, rfl⟩, ?_, ?_⟩
    · intro id'
      simp only [SortedMap.get?_erase, List.mem_singleton]
      by_cases hid : id = id'
      · subst hid
        simp [hfound]
      · simp [hid, Ne.symm hid]
    · simp [hfound]

theorem tracks_foldl_syncRow (a : SyncState) (ids : List Nat) :
    Tracks store descriptors options a ids false
      (ids.foldl (syncRow store descriptors options) a) := by
  induction ids generalizing a with
  | nil => exact tracks_nil a
  | cons id ids ih => exact (tracks_syncRow a id).trans (ih _)

theorem tracks_syncEvent (a : SyncState) (e : RowEvent) :
    Tracks store descriptors options a e.ids e.countsRows
      (syncEvent store descriptors options a e) := by
  cases e with
  | countChanged previous current =>
    exact ⟨⟨_, _, rfl⟩, by simp [RowEvent.ids, syncEvent], by simp [RowEvent.countsRows, syncEvent]⟩
  | rowsChanged ids => exact tracks_foldl_syncRow a ids

theorem tracks_foldl_syncEvent (a : SyncState) (events : List RowEvent) :
    Tracks store descriptors options a (events.flatMap RowEvent.ids)
      (events.any RowEvent.countsRows)
      (events.foldl (syncEvent store descriptors options) a) := by
  induction events generalizing a with
  | nil => exact tracks_nil a
  | cons e events ih => exact (tracks_syncEvent a e).trans (ih _)

end Sync

/-! ### Building the order -/

theorem positionsOf_concat (order : List Nat) (id : Nat) :
    positionsOf (order ++ [id]) = (positionsOf order).insert id order.length := by
  rw [positionsOf, List.zipIdx_append, List.foldl_append, Nat.zero_add]
  rfl

/-- A place that is kept for an id is one where the order has it. -/
theorem getElem?_of_get?_positionsOf {order : List Nat} {id i : Nat}
    (h : (positionsOf order).get? id = some i) : order[i]? = some id := by
  induction order using List.reverseRecOn with
  | nil => cases h
  | append_singleton order last ih =>
    rw [positionsOf_concat, SortedMap.get?_insert] at h
    split at h
    next hid =>
      obtain rfl := Option.some.inj h
      rw [List.getElem?_concat_length, hid]
    next hid =>
      have hold := ih h
      obtain ⟨hi, -⟩ := List.getElem?_eq_some_iff.mp hold
      rw [List.getElem?_append_left hi, hold]

/-- Every id of an order has a place. -/
theorem exists_get?_positionsOf {order : List Nat} {id : Nat} (h : id ∈ order) :
    ∃ i, (positionsOf order).get? id = some i := by
  induction order using List.reverseRecOn with
  | nil => cases h
  | append_singleton order last ih =>
    rw [positionsOf_concat, SortedMap.get?_insert]
    split
    · exact ⟨_, rfl⟩
    next hid =>
      rcases List.mem_append.mp h with h | h
      · exact ih h
      · exact absurd (List.mem_singleton.mp h).symm hid

theorem get?_positionsOf {order : List Nat} (hnodup : order.Nodup) (id i : Nat) :
    (positionsOf order).get? id = some i ↔ order[i]? = some id := by
  refine ⟨getElem?_of_get?_positionsOf, fun h => ?_⟩
  obtain ⟨j, hj⟩ := exists_get?_positionsOf (List.mem_of_getElem? h)
  -- an id that is there once has one place
  obtain ⟨hi, -⟩ := List.getElem?_eq_some_iff.mp h
  have hij : i = j :=
    (List.getElem?_inj hi hnodup).mp (h.trans (getElem?_of_get?_positionsOf hj).symm)
  rw [hij, hj]

theorem follows_rebuild (h : s.Indexed) (g : GridView) : (g.rebuild s).Follows s where
  indexed := h
  placed := get?_positionsOf ((Indexed.ids_nodup h).sublist (List.filter_sublist.map _))
  known id hid := by
    obtain ⟨r, hr, rfl⟩ := List.mem_map.mp hid
    exact h.fresh r (mem_visible.mp hr).1
  ordered := .inl rfl

/-- A view that has followed every note of a store, before its order is built anew if that is
due. -/
def followNotes (g : GridView) (s : RowStore) (descriptors : Descriptors)
    (options : MarkupOptions) : SyncState :=
  s.events.foldl (syncEvent s.takeEvents.1 descriptors options)
    { view := { g with lastFormatted := 0 }, rebuild := false }

theorem sync_eq (g : GridView) (s : RowStore) (descriptors : Descriptors)
    (options : MarkupOptions) : g.sync s descriptors options =
      ((if (g.followNotes s descriptors options).rebuild = true
          then (g.followNotes s descriptors options).view.rebuild s.takeEvents.1
          else (g.followNotes s descriptors options).view).scrollToSelection,
        s.takeEvents.1) := rfl

theorem tracks_followNotes (g : GridView) (s : RowStore) (descriptors : Descriptors)
    (options : MarkupOptions) :
    Tracks s.takeEvents.1 descriptors options
      { view := { g with lastFormatted := 0 }, rebuild := false } s.notedIds s.notesCount
      (g.followNotes s descriptors options) :=
  tracks_foldl_syncEvent _ _

/-- What a synchronisation does to a view that follows the store: the order becomes that of the
visible rows, and rows are formatted if a note names them. -/
theorem Follows.sync_fst (h : g.Follows s) (descriptors : Descriptors) (options : MarkupOptions) :
    (g.sync s descriptors options).1.Follows (g.sync s descriptors options).2 ∧
    (g.sync s descriptors options).1.area = g.area ∧
    (g.sync s descriptors options).1.widths = g.widths ∧
    (g.sync s descriptors options).1.order = s.visible.map (·.id) ∧
    ∀ r ∈ s.rows, (g.sync s descriptors options).1.cache.get? r.id =
      if r.id ∈ s.notedIds then some (.ofRow r descriptors g.widths options)
      else g.cache.get? r.id := by
  have hidx := h.indexed.takeEvents
  have htracks := g.tracks_followNotes s descriptors options
  rw [sync_eq]
  generalize g.followNotes s descriptors options = a at htracks ⊢
  obtain ⟨cache, n, hview⟩ := htracks.frame
  have hcache : ∀ r ∈ s.rows, a.view.cache.get? r.id =
      if r.id ∈ s.notedIds then some (.ofRow r descriptors g.widths options)
      else g.cache.get? r.id := by
    intro r hr
    have hfound : s.takeEvents.1.findById? r.id = some r :=
      hidx.findById?_eq_some_iff.mpr ⟨hr, rfl⟩
    have := htracks.cache r.id
    rw [hfound] at this
    exact this
  cases hrebuild : a.rebuild with
  | true =>
    have hfollows := follows_rebuild hidx a.view
    refine ⟨⟨hidx, hfollows.placed, hfollows.known, hfollows.ordered⟩, ?_, ?_, rfl, ?_⟩
    · simp [rebuild, hview]
    · simp [rebuild, hview]
    · intro r hr
      -- the rows that are there are not forgotten
      have hfound : (s.takeEvents.1.findById? r.id).isSome = true := by
        rw [hidx.findById?_eq_some_iff.mpr ⟨hr, rfl⟩]
        rfl
      rw [← hcache r hr]
      simp only [if_true, cache_scrollToSelection, rebuild, SortedMap.get?_filter, hfound]
      cases a.view.cache.get? r.id <;> rfl
  | false =>
    have horder : g.order = s.visible.map (·.id) := by
      rcases h.ordered with horder | hcalls
      · exact horder
      · -- what calls for a new order would have been seen
        have hnot := htracks.rebuild.not.mp (by simp [hrebuild])
        refine absurd (.inr ?_) hnot
        rcases hcalls with hcount | ⟨r, hr, hnoted, hunknown⟩
        · exact .inl hcount
        · obtain ⟨hmem, hvisible⟩ := mem_visible.mp hr
          refine .inr ⟨r.id, hnoted, r, hidx.findById?_eq_some_iff.mpr ⟨hmem, rfl⟩, hvisible, ?_⟩
          have hnone : g.positions.get? r.id = none := by
            rw [Option.eq_none_iff_forall_ne_some]
            intro i hi
            exact hunknown (List.mem_of_getElem? ((h.placed _ _).mp hi))
          simp [SortedMap.contains, hnone]
    have hsame : a.view.order = g.order := by rw [hview]
    have hplaces : a.view.positions = g.positions := by rw [hview]
    refine ⟨⟨hidx, ?_, ?_, .inl ?_⟩, ?_, ?_, ?_, ?_⟩
    · simpa [hsame, hplaces] using h.placed
    · rw [if_neg Bool.false_ne_true, order_scrollToSelection, hsame]
      exact h.known
    · rw [if_neg Bool.false_ne_true, order_scrollToSelection, hsame]
      exact horder
    · simp [hview]
    · simp [hview]
    · simpa [hsame] using horder
    · simpa using hcache

theorem Follows.sync (h : g.Follows s) (descriptors : Descriptors) (options : MarkupOptions) :
    (g.sync s descriptors options).1.Follows (g.sync s descriptors options).2 :=
  (h.sync_fst descriptors options).1

theorem Caches.sync {names : String → Prop} {descriptors : Descriptors} {options : MarkupOptions}
    (h : Caches names descriptors options g s) (hf : g.Follows s) :
    Caches names descriptors options (g.sync s descriptors options).1
      (g.sync s descriptors options).2 := by
  obtain ⟨-, -, hwidths, -, hcache⟩ := hf.sync_fst descriptors options
  intro r hr hname
  right
  rw [hcache r hr, hwidths]
  split
  · rfl
  next hnoted =>
    rcases h r hr hname with hnoted' | hcached
    · exact absurd hnoted' hnoted
    · exact hcached

/-! ## The selected row -/

/-- A row of the order can be selected. -/
theorem Follows.selectedId?_trySelect (h : g.Follows s) {id : Nat} (hid : id ∈ g.order) :
    (g.trySelect id).selectedId? = some id := by
  obtain ⟨place, hplace⟩ := List.mem_iff_getElem?.mp hid
  have hselect : g.trySelect id = g.selecting place := by
    rw [trySelect, select, (h.placed id place).mpr hplace]
    rfl
  rw [hselect]
  exact hplace

/-- A selected row stays selected while it is visible, even if the order is built anew. -/
theorem selectedId?_sync {id : Nat} (hselected : g.selectedId? = some id)
    (hid : id ∈ s.visible.map (·.id)) (descriptors : Descriptors) (options : MarkupOptions) :
    (g.sync s descriptors options).1.selectedId? = some id := by
  have htracks := g.tracks_followNotes s descriptors options
  rw [sync_eq]
  generalize g.followNotes s descriptors options = a at htracks ⊢
  obtain ⟨cache, n, hview⟩ := htracks.frame
  have hbefore : a.view.selectedId? = some id := by rw [hview]; exact hselected
  show (if a.rebuild = true then a.view.rebuild s.takeEvents.1 else a.view).selectedId? = some id
  split
  · -- the place of the row in the new order is looked up
    obtain ⟨place, hplace⟩ := exists_get?_positionsOf hid
    have hselects : (a.view.rebuild s.takeEvents.1).selected = place := by
      have hbind : a.view.selectedId?.bind (positionsOf (s.takeEvents.1.visible.map (·.id))).get? =
          some place := by
        rw [hbefore]
        exact hplace
      simp only [rebuild, hbind]
    rw [selectedId?, hselects]
    exact getElem?_of_get?_positionsOf hplace
  · exact hbefore

/-! ## Any sequence of calls -/

end GridView

/-- A call on a view or on the store that it follows. -/
inductive GridCall where
  | change (call : StoreCall)
  | resize (area : Rect)
  | select (id : Nat)
  | moveSelection (delta : Int)
  | selectFirst
  | selectLast
  | sync

namespace GridView

open RowStore

section Calls

variable (descriptors : Descriptors) (options : MarkupOptions)

/-- A view and its store after a call. A call that the store refuses leaves both. -/
def apply (x : GridView × RowStore) : GridCall → GridView × RowStore
  | .change call => (x.1, (x.2.carryOut call).1)
  | .resize area => (x.1.resize area x.2 descriptors options, x.2)
  | .select id => (x.1.trySelect id, x.2)
  | .moveSelection delta => (x.1.moveSelection delta, x.2)
  | .selectFirst => (x.1.selectFirst, x.2)
  | .selectLast => (x.1.selectLast, x.2)
  | .sync => x.1.sync x.2 descriptors options

/-- An empty view beside an empty store, after a sequence of calls. -/
def after (calls : List GridCall) : GridView × RowStore :=
  calls.foldl (apply descriptors options) ({}, {})

/-- What holds between a view and its store whenever a call may come. -/
def InTouch (x : GridView × RowStore) : Prop :=
  x.1.Follows x.2 ∧ Caches (fun _ => True) descriptors options x.1 x.2

variable {descriptors options} {x : GridView × RowStore}

theorem InTouch.selecting (h : InTouch descriptors options x) (place : Nat) :
    InTouch descriptors options (x.1.selecting place, x.2) :=
  ⟨h.1.selecting place, h.2⟩

theorem InTouch.apply (h : InTouch descriptors options x) (call : GridCall) :
    InTouch descriptors options (apply descriptors options x call) := by
  cases call with
  | change call =>
    rcases h.1.indexed.announces_carryOut call with hsame | ⟨ids, hannounces⟩
    · rw [GridView.apply, hsame]
      exact h
    · exact ⟨h.1.announces hannounces, h.2.announces hannounces⟩
  | resize area =>
    exact ⟨h.1.resize area descriptors options, caches_resize h.1.indexed x.1 area _ _ _⟩
  | select id =>
    rw [GridView.apply]
    rcases x.1.trySelect_cases id with hsame | ⟨place, hplace⟩
    · rw [hsame]
      exact h
    · rw [hplace]
      exact h.selecting place
  | moveSelection delta =>
    rw [GridView.apply]
    rcases x.1.moveSelection_cases delta with hsame | ⟨place, hplace⟩
    · rw [hsame]
      exact h
    · rw [hplace]
      exact h.selecting place
  | selectFirst => exact h.selecting 0
  | selectLast => exact h.selecting (x.1.order.length - 1)
  | sync => exact ⟨h.1.sync descriptors options, h.2.sync h.1⟩

theorem inTouch_after (calls : List GridCall) :
    InTouch descriptors options (after descriptors options calls) := by
  have hstart : InTouch descriptors options ({}, {}) := ⟨follows_empty, fun _ hr => nomatch hr⟩
  suffices h : ∀ (calls : List GridCall) x, InTouch descriptors options x →
      InTouch descriptors options (calls.foldl (GridView.apply descriptors options) x) from
    h calls _ hstart
  intro calls
  induction calls with
  | nil => exact fun _ hx => hx
  | cons call calls ih => exact fun x hx => ih _ (hx.apply call)

/-- The place of a row in the order is its place among the visible rows. -/
theorem Follows.positions_eq_visibleIndex? {g : GridView} {s : RowStore} (h : g.Follows s)
    (horder : g.order = s.visible.map (·.id)) (id : Nat) :
    g.positions.get? id = s.visibleIndex? id := by
  apply Option.ext
  intro i
  have hnodup : (s.visible.map (·.id)).Nodup :=
    (Indexed.ids_nodup h.indexed).sublist (List.filter_sublist.map _)
  rw [h.placed, horder, visibleIndex?, List.findIdx?_eq_some_iff_getElem, List.getElem?_map,
    Option.map_eq_some_iff]
  constructor
  · rintro ⟨r, hr, hid⟩
    obtain ⟨hi, rfl⟩ := List.getElem?_eq_some_iff.mp hr
    refine ⟨hi, by simp [hid], fun j hj hjd => ?_⟩
    have hjd : s.visible[j].id = id := by simpa using hjd
    -- two places of one id would be one place
    have hji : j < i := hj
    have hsame : (s.visible.map (·.id))[j]? = (s.visible.map (·.id))[i]? := by
      rw [List.getElem?_map, List.getElem?_map, hr, List.getElem?_eq_getElem (by omega)]
      simp [hjd, hid]
    have := (List.getElem?_inj (by rw [List.length_map]; omega) hnodup).mp hsame
    omega
  · rintro ⟨hi, hid, -⟩
    exact ⟨s.visible[i], List.getElem?_eq_getElem hi, by simpa using hid⟩

/-- After a synchronisation the view is what it would be if it were built anew, whatever calls there
were before, and however many changes of the store since the last one: the order is that of the
visible rows, the places are its inverse and those among the visible rows, and every visible row is
formatted as it is now for the columns as they are now. -/
theorem sync_after (descriptors : Descriptors) (options : MarkupOptions) (calls : List GridCall) :
    let x := after descriptors options (calls ++ [.sync])
    x.1.order = x.2.visible.map (·.id) ∧
    (∀ id i, x.1.positions.get? id = some i ↔ x.1.order[i]? = some id) ∧
    (∀ id, x.1.positions.get? id = x.2.visibleIndex? id) ∧
    ∀ r ∈ x.2.visible, x.1.cache.get? r.id = some (.ofRow r descriptors x.1.widths options) := by
  intro x
  have htouch : InTouch descriptors options x := inTouch_after _
  have hlast : x = (after descriptors options calls).1.sync (after descriptors options calls).2
      descriptors options := by simp [x, after, GridView.apply]
  have horder : x.1.order = x.2.visible.map (·.id) := by
    rw [hlast]
    exact ((inTouch_after calls).1.sync_fst descriptors options).2.2.2.1
  refine ⟨horder, htouch.1.placed, htouch.1.positions_eq_visibleIndex? horder, fun r hr => ?_⟩
  rcases htouch.2 r (mem_visible.mp hr).1 trivial with hnoted | hcached
  · rw [hlast] at hnoted
    exact nomatch hnoted
  · exact hcached

end Calls

end GridView

end PropertySheet
