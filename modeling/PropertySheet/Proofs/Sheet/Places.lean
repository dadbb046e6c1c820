import PropertySheet.Proofs.Changes
import PropertySheet.Proofs.Sheet.Formatted
import PropertySheet.Sheet.Draw

/-!
# Rows stay in their places

From one emptying of a sheet to the next, rows are only ever appended. A row that is there stays at
its place under its id, name and label, and stays required, optional or the user's; what changes is
its value and, if it is the user's, its visibility. `Grows` says so of two lists of rows. It is read
off `Revised` for one call, and composed for a sequence of calls.

So only rows of the user are ever hidden. The mark for deletion is on no other row either: rows are
drawn from the cache, but what is cached of a row is formatted from a row of its kind (`Marked`).
-/

namespace PropertySheet

open RowStore GridView

/-! ## Lists of rows that grow -/

/-- What stays of a row while it is there. It comes to be hidden only if it is the user's. -/
structure Row.Stays (r r' : Row) : Prop where
  id : r'.id = r.id
  property : r'.property = r.property
  displayName : r'.displayName = r.displayName
  kind : r'.kind = r.kind
  hidden : r'.hidden → r.hidden ∨ r.kind = .userDefined

theorem Row.stays_self (r : Row) : r.Stays r := ⟨rfl, rfl, rfl, rfl, .inl⟩

theorem Row.Stays.trans {a b c : Row} (hab : a.Stays b) (hbc : b.Stays c) : a.Stays c where
  id := hbc.id.trans hab.id
  property := hbc.property.trans hab.property
  displayName := hbc.displayName.trans hab.displayName
  kind := hbc.kind.trans hab.kind
  hidden hc := by
    rcases hbc.hidden hc with hb | huser
    · exact hab.hidden hb
    · exact .inr (hab.kind ▸ huser)

/-- Setting the value of a row. -/
theorem Row.stays_patchAt_value (r : Row) (id : Nat) (v : Option String) :
    r.Stays (patchAt id { value := some v } r) := by
  unfold patchAt
  split
  · exact ⟨rfl, rfl, rfl, rfl, .inl⟩
  · exact r.stays_self

/-- The rows of one list are in another at their places, and the rows behind them are of a certain
sort. -/
structure Grows (new : Row → Prop) (before after : List Row) : Prop where
  kept : ∀ (i : Nat) (r : Row), before[i]? = some r → ∃ r', after[i]? = some r' ∧ r.Stays r'
  added : ∀ (i : Nat) (r' : Row), before.length ≤ i → after[i]? = some r' → new r'

variable {new : Row → Prop} {before between after : List Row}

theorem grows_self (rows : List Row) : Grows new rows rows where
  kept _ r hr := ⟨r, hr, r.stays_self⟩
  added i r' hi hr' := by
    rw [List.getElem?_eq_none hi] at hr'
    cases hr'

theorem Grows.trans (hnew : ∀ r r' : Row, r.Stays r' → new r → new r')
    (h : Grows new before between) (h' : Grows new between after) : Grows new before after where
  kept i r hr := by
    obtain ⟨r', hr', hstays⟩ := h.kept i r hr
    obtain ⟨r'', hr'', hstays'⟩ := h'.kept i r' hr'
    exact ⟨r'', hr'', hstays.trans hstays'⟩
  added i r'' hi hr'' := by
    rcases Nat.lt_or_ge i between.length with hlt | hge
    · -- a row that was new before the second half stays what it is
      obtain ⟨r', hr', hstays⟩ := h'.kept i _ (List.getElem?_eq_getElem hlt)
      rw [hr''] at hr'
      obtain rfl := Option.some.inj hr'
      exact hnew _ _ hstays (h.added i _ hi (List.getElem?_eq_getElem hlt))
    · exact h'.added i r'' hge hr''

theorem Grows.imp {other : Row → Prop} (h : Grows new before after)
    (himp : ∀ r, new r → other r) : Grows other before after :=
  ⟨h.kept, fun i r hi hr => himp r (h.added i r hi hr)⟩

/-- Changing rows where they are. -/
theorem Grows.map (h : Grows new before after) {f : Row → Row} (hf : ∀ r ∈ after, r.Stays (f r))
    (hnew : ∀ r, new r → new (f r)) : Grows new before (after.map f) where
  kept i r hr := by
    obtain ⟨r', hr', hstays⟩ := h.kept i r hr
    refine ⟨f r', ?_, hstays.trans (hf r' (List.mem_of_getElem? hr'))⟩
    rw [List.getElem?_map, hr', Option.map_some]
  added i r' hi hr' := by
    rw [List.getElem?_map] at hr'
    obtain ⟨r, hr, rfl⟩ := Option.map_eq_some_iff.mp hr'
    exact hnew r (h.added i r hi hr)

theorem grows_map {f : Row → Row} (hf : ∀ r ∈ before, r.Stays (f r)) :
    Grows new before (before.map f) :=
  ((grows_self before).map hf fun _ => id).imp fun _ => False.elim

theorem grows_append {r : Row} (hr : new r) : Grows new before (before ++ [r]) where
  kept i r' hr' := by
    obtain ⟨hi, -⟩ := List.getElem?_eq_some_iff.mp hr'
    exact ⟨r', by rw [List.getElem?_append_left hi, hr'], r'.stays_self⟩
  added i r' hi hr' := by
    rw [List.getElem?_append_right hi] at hr'
    rwa [← List.mem_singleton.mp (List.mem_of_getElem? hr')] at hr

/-- Where a row comes from. -/
theorem Grows.origin (h : Grows new before after) {r' : Row} (hr' : r' ∈ after) :
    (∃ r ∈ before, r.Stays r') ∨ new r' := by
  obtain ⟨i, hi⟩ := List.mem_iff_getElem?.mp hr'
  rcases Nat.lt_or_ge i before.length with hlt | hge
  · obtain ⟨r'', hr'', hstays⟩ := h.kept i _ (List.getElem?_eq_getElem hlt)
    rw [hi] at hr''
    obtain rfl := Option.some.inj hr''
    exact .inl ⟨_, List.getElem_mem hlt, hstays⟩
  · exact .inr (h.added i r' hge hi)

/-! ## Calls -/

/-- A row as a property that has just been added has it. -/
def Row.IsAdded (r : Row) : Prop := r.hidden = false ∧ r.kind = .userDefined

namespace RowStore

variable {s t : RowStore}

/-- What a call does to a store keeps the rows in their places. -/
theorem Revised.grows (ht : s.Revised t) (h : s.Indexed) : Grows Row.IsAdded s.rows t.rows := by
  induction ht with
  | kept => exact grows_self _
  | hid hfound huser hu =>
    rw [(h.update hu).1]
    refine grows_map fun r hr => ?_
    unfold patchAt
    split
    next hid =>
      -- the row of this id is the one that was found, which is the user's
      obtain rfl := h.eq_of_id_eq hr (h.findById?_eq_some_iff.mp hfound).1
        (hid.trans (h.findById?_eq_some_iff.mp hfound).2.symm)
      exact ⟨rfl, rfl, rfl, rfl, fun _ => .inr huser⟩
    · exact r.stays_self
  | restored _ _ hu =>
    rw [(h.update hu).1]
    refine grows_map fun r _ => ?_
    unfold patchAt
    split
    · exact ⟨rfl, rfl, rfl, rfl, fun hhidden => absurd hhidden Bool.false_ne_true⟩
    · exact r.stays_self
  | appended ha =>
    obtain ⟨-, -, hrows, -⟩ := h.add ha
    rw [hrows]
    exact grows_append ⟨rfl, rfl⟩
  | wrote ht hu ih =>
    rw [((ht.indexed h).update hu).1]
    refine ih.map (fun r _ => r.stays_patchAt_value _ _) fun r hr => ?_
    unfold patchAt
    split
    · exact hr
    · exact hr
  | noted _ ih => exact ih

end RowStore

/-! ## The mark for deletion -/

/-- A row is cached with the mark for deletion only if it is the user's. -/
def GridView.Spares (g : GridView) (r : Row) : Prop :=
  ∀ m, g.cache.get? r.id = some m → m.actions.delete → r.kind = .userDefined

namespace Pane

/-- The view has followed every change of the rows, and only rows of the user have the mark for
deletion. -/
structure Marked (p : Pane) : Prop where
  current : p.Current fun _ => False
  spares : ∀ r ∈ p.store.rows, p.view.Spares r

variable {p q : Pane}

theorem kind_of_delete_ofRow {r : Row} {descriptors : Descriptors} {widths : ColumnWidths}
    {options : MarkupOptions} (h : (RowMarkup.ofRow r descriptors widths options).actions.delete) :
    r.kind = .userDefined := by
  have hdelete : (!options.readOnly && decide (r.kind = .userDefined)) = true := h
  rw [Bool.and_eq_true] at hdelete
  exact of_decide_eq_true hdelete.2

/-- Rows that are noted are formatted, and the others are cached as they were. -/
theorem spares_sync (hfollows : p.view.Follows p.store)
    (hspares : ∀ r ∈ p.store.rows, r.id ∈ p.store.notedIds ∨ p.view.Spares r) :
    ∀ r ∈ p.sync.store.rows, p.sync.view.Spares r := by
  intro r hr m hm hdelete
  obtain ⟨-, -, -, -, hcache⟩ := hfollows.sync_fst p.descriptors p.options
  have hm : (p.view.sync p.store p.descriptors p.options).1.cache.get? r.id = some m := hm
  rw [hcache r hr] at hm
  split at hm
  · obtain rfl := Option.some.inj hm
    exact kind_of_delete_ofRow hdelete
  next hnoted => exact (hspares r hr).resolve_left hnoted m hm hdelete

theorem Marked.spares_sync_announced (h : p.Marked) {store : RowStore} {ids : List Nat}
    (ha : p.store.Announces store ids) (descriptors : Descriptors) :
    ∀ r ∈ ({ p with store, descriptors } : Pane).sync.store.rows,
      ({ p with store, descriptors } : Pane).sync.view.Spares r := by
  refine spares_sync (h.current.follows.announces ha) fun r hr => ?_
  rw [ha.notedIds]
  rcases ha.rows r hr with hid | hold
  · exact .inl (List.mem_append_right _ hid)
  · exact .inr (h.spares r hold)

theorem Marked.step {retold : String → Prop} (h : p.Marked) (hstep : Step retold p q) :
    q.Marked := by
  have hidx := h.current.follows.indexed
  refine ⟨h.current.step (fun _ _ => id) hstep, ?_⟩
  cases hstep with
  | select place => exact h.spares
  | resize area =>
    intro r hr m hm hdelete
    rcases caches_resize hidx p.view area (fun _ => True) p.descriptors p.options r hr trivial with
      hnoted | hcached
    · rw [notedIds, h.current.followed] at hnoted
      cases hnoted
    · obtain rfl := Option.some.inj (hm.symm.trans hcached)
      exact kind_of_delete_ofRow hdelete
  | follow => exact spares_sync h.current.follows fun r hr => .inr (h.spares r hr)
  | write hu => exact h.spares_sync_announced (hidx.announces_update hu) p.descriptors
  | append ha => exact h.spares_sync_announced (hidx.announces_add ha) p.descriptors
  | learn d _ => exact h.spares
  | assign d _ hu => exact h.spares_sync_announced (hidx.announces_update hu) _
  | empty =>
    intro r hr
    have hnone : p.store.clear.takeEvents.1.rows = [] := rows_clear p.store
    rw [hnone] at hr
    cases hr
  | fill descriptors _ hrows =>
    exact h.spares_sync_announced (hidx.announces_replaceAll hrows) descriptors

theorem Marked.course {retold : String → Prop} (h : p.Marked) (hcourse : Course retold p q) :
    q.Marked := by
  induction hcourse with
  | refl => exact h
  | tail _ hstep ih => exact ih.step hstep

end Pane

namespace Sheet

variable {s : Sheet}

/-! ## Calls on a sheet -/

theorem marked_apply (h : s.pane.Marked) (op : Operation) : (s.apply op).pane.Marked :=
  h.course (course_apply h.current.follows.indexed op)

/-- Every hidden row is one of the user. -/
def HidesOwn (s : Sheet) : Prop := ∀ r ∈ s.rows, r.hidden → r.kind = .userDefined

theorem grows_apply (h : s.store.Indexed) {op : Operation} (hop : op.empties = false) :
    Grows Row.IsAdded s.rows (s.apply op).rows := (s.revised_apply hop).grows h

/-- A load leaves visible rows, and every other call that empties a sheet leaves none. -/
theorem hidden_eq_false_of_empties (s : Sheet) {op : Operation} (hop : op.empties) :
    ∀ r ∈ (s.apply op).rows, r.hidden = false := by
  have hclear : ∀ r ∈ s.clear.rows, r.hidden = false := by
    intro r hr
    have hnone : s.clear.rows = [] := rows_clear s.store
    rw [hnone] at hr
    cases hr
  cases op with
  | load values descriptors histories =>
    rcases s.load_cases values descriptors histories with ⟨e, hload⟩ | ⟨-, -, -, hrows⟩
    · rw [apply, hload]
      exact hclear
    · intro r hr
      rw [apply, rows, hrows] at hr
      obtain ⟨n, hn, id, rfl⟩ := mem_numbered hr
      obtain ⟨v, -, rfl⟩ := List.mem_map.mp hn
      rfl
  | clear => exact hclear
  | destroy => exact hclear
  | _ => cases hop

theorem HidesOwn.apply (h : s.HidesOwn) (hidx : s.store.Indexed) (op : Operation) :
    (s.apply op).HidesOwn := by
  intro r' hr' hhidden
  cases hop : op.empties with
  | true =>
    rw [s.hidden_eq_false_of_empties hop r' hr'] at hhidden
    cases hhidden
  | false =>
    rcases (grows_apply hidx hop).origin hr' with ⟨r, hr, hstays⟩ | hadded
    · rw [hstays.kind]
      rcases hstays.hidden hhidden with hbefore | huser
      · exact h r hr hbefore
      · exact huser
    · exact hadded.2

/-- What holds of the rows of a sheet whatever was called. -/
structure SparesOthers (s : Sheet) : Prop where
  marked : s.pane.Marked
  hides : s.HidesOwn

theorem SparesOthers.indexed (h : s.SparesOthers) : s.store.Indexed :=
  h.marked.current.follows.indexed

theorem sparesOthers_run (config : SheetConfig) (ops : List Operation) :
    ((ofConfig config).run ops).SparesOthers := by
  refine run_invariant (fun s op h => ⟨marked_apply h.marked op, h.hides.apply h.indexed op⟩) ?_ ops
  have hnone : ∀ r, r ∉ (ofConfig config).rows := fun _ => List.not_mem_nil
  exact ⟨⟨current_ofConfig config, fun r hr => absurd hr (hnone r)⟩,
    fun r hr => absurd hr (hnone r)⟩

theorem grows_run (h : s.store.Indexed) {ops : List Operation}
    (hops : ∀ op ∈ ops, op.empties = false) :
    Grows (fun r => r.kind = .userDefined) s.rows (s.run ops).rows := by
  induction ops generalizing s with
  | nil => exact grows_self _
  | cons op ops ih =>
    obtain ⟨hop, hops⟩ := List.forall_mem_cons.mp hops
    have hcall : Grows (fun r => r.kind = .userDefined) s.rows (s.apply op).rows :=
      (grows_apply h hop).imp fun _ hr => hr.2
    exact hcall.trans (fun _ _ hstays huser => hstays.kind.trans huser)
      (ih (indexed_apply h op) hops)

/-! ## Rows that are not the user's -/

theorem SparesOthers.delete_markupFor (h : s.SparesOthers) {r : Row} (hr : r ∈ s.rows)
    (hkind : r.kind ≠ .userDefined) (area : Rect) (widths : ColumnWidths) :
    (s.markupFor area widths r).actions.delete = false := by
  rw [Bool.eq_false_iff]
  intro hdelete
  refine hkind ?_
  rw [markupFor] at hdelete
  split at hdelete
  next m hm =>
    split at hm
    · exact h.marked.spares r hr m hm hdelete
    · cases hm
  · exact Pane.kind_of_delete_ofRow hdelete

theorem deleteSelected_of_kind_ne {r : Row} (hr : s.selectedRow? = some r)
    (hkind : r.kind ≠ .userDefined) : s.deleteSelected = (s, false) := by
  obtain ⟨id, hid, hfound⟩ := Option.bind_eq_some_iff.mp hr
  have hother : (s.store.findById? id).map (·.kind) ≠ some .userDefined := by
    rw [hfound, Option.map_some, ne_eq, Option.some.injEq]
    exact hkind
  rw [deleteSelected, hid]
  dsimp only
  rw [if_pos hother, ite_self]

/-! ## From one emptying to the next -/

/-- Whatever is called and whatever responses come, from one emptying of a sheet to the next: the
rows stay in their places as what they are, and those that come are appended, each visible and the
user's when it comes. Only rows of the user are ever hidden. So a row that is not the user's is
visible, is drawn without the mark for deletion and cannot be deleted, and is saved only for a value
that it has. -/
theorem rows_stay_in_place (config : SheetConfig) (before : List Operation)
    {between : List Operation} (hbetween : ∀ op ∈ between, op.empties = false) :
    let s := (ofConfig config).run before
    let t := s.run between
    Grows (fun r => r.kind = .userDefined) s.rows t.rows ∧
    (∀ op : Operation, op.empties = false →
      Grows (fun r => r.hidden = false ∧ r.kind = .userDefined) t.rows (t.apply op).rows) ∧
    (∀ r ∈ t.rows, r.hidden → r.kind = .userDefined) ∧
    ∀ r ∈ t.rows, r.kind ≠ .userDefined →
      r.hidden = false ∧
      (∀ area widths, (t.markupFor area widths r).actions.delete = false) ∧
      (t.selectedRow? = some r → t.deleteSelected = (t, false)) ∧
      t.changes.get? r.property = if r.isDirty then some r.value else none := by
  intro s t
  have hs : s.SparesOthers := sparesOthers_run config before
  have ht : t.SparesOthers := by
    have hrun := sparesOthers_run config (before ++ between)
    rwa [run_append] at hrun
  refine ⟨grows_run hs.indexed hbetween, fun op hop => grows_apply ht.indexed hop, ht.hides, ?_⟩
  intro r hr hkind
  have hvisible : r.hidden = false := by
    rw [Bool.eq_false_iff]
    exact fun hhidden => hkind (ht.hides r hr hhidden)
  refine ⟨hvisible, ht.delete_markupFor hr hkind, fun hselected => ?_, ?_⟩
  · exact deleteSelected_of_kind_ne hselected hkind
  · refine (Changes.get?_ofRows_of_mem ht.indexed.properties_nodup hr).trans ?_
    rw [Changes.ofRow, hvisible]
    rfl

/-- A required property and one of the user. -/
def loadingPath : Operation :=
  .load [("Path", some "/tmp"), ("note", none)]
    (SortedMap.ofList [("Path", { name := "Path", required := true })]) .empty

/-- A property is added and gets a value, is deleted, is brought back and is deleted again. The same
is tried with the required one. -/
def deletingRun : List Operation :=
  [.addProperty "x", .complete (.descriptor 0 (.ok { name := "x" }))] ++ enteringAbc ++
    [.deleteSelected, .select "Path", .deleteSelected, .addProperty "x",
      .handleKey { code := .esc }, .handleKey { code := .char 'd' }, .select "Path",
      .handleKey { code := .char 'd' }]

theorem rows_stay_in_place_deletingRun :
    let s := (ofConfig { dialogContainer := some "main" }).run [loadingPath]
    let t := s.run deletingRun
    (∀ op ∈ deletingRun, op.empties = false) ∧
    t.rows.map (fun r => (r.id, r.property, r.kind, r.hidden)) =
      [(0, "Path", .required, false), (1, "note", .userDefined, false),
        (2, "x", .userDefined, true)] ∧
    t.selectedRow?.map (·.property) = some "Path" ∧
    Grows (fun r => r.kind = .userDefined) s.rows t.rows ∧
    (∀ op : Operation, op.empties = false →
      Grows (fun r => r.hidden = false ∧ r.kind = .userDefined) t.rows (t.apply op).rows) ∧
    (∀ r ∈ t.rows, r.hidden → r.kind = .userDefined) ∧
    ∀ r ∈ t.rows, r.kind ≠ .userDefined →
      r.hidden = false ∧
      (∀ area widths, (t.markupFor area widths r).actions.delete = false) ∧
      (t.selectedRow? = some r → t.deleteSelected = (t, false)) ∧
      t.changes.get? r.property = if r.isDirty then some r.value else none := by
  have hbetween : ∀ op ∈ deletingRun, op.empties = false := by
    rw [deletingRun, enteringAbc]
    simp [Operation.empties]
  exact ⟨hbetween, by decide +kernel, by decide +kernel,
    rows_stay_in_place { dialogContainer := some "main" } [loadingPath] hbetween⟩

end Sheet

end PropertySheet
