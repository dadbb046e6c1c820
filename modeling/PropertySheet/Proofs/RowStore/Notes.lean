import Mathlib.Data.List.Nodup
import PropertySheet.Proofs.RowStore.Calls

/-!
# What the notes of a row store tell

Whoever shows the rows of a store sees it through notes only. `Announces` says what these tell of a
change: they name every row that is not as it was, and they say when the number of visible rows
changed. When it did not, the same rows are visible, in the same order, with one exception: rows
can be replaced by others, as many of them visible as before. But then a note names a visible row
whose id is new.

Every call on a store announces what it does; a call that fails does nothing
(`Indexed.announces_carryOut`).
-/

namespace PropertySheet

/-! ## What notes say -/

/-- The rows that a note names. -/
def RowEvent.ids : RowEvent → List Nat
  | .countChanged _ _ => []
  | .rowsChanged ids => ids

/-- Whether a note says that the number of visible rows changed. -/
def RowEvent.countsRows : RowEvent → Bool
  | .countChanged _ _ => true
  | .rowsChanged _ => false

namespace RowStore

/-- The rows that the notes not taken yet name. -/
def notedIds (s : RowStore) : List Nat := s.events.flatMap RowEvent.ids

/-- Whether a note not taken yet says that the number of visible rows changed. -/
def notesCount (s : RowStore) : Bool := s.events.any RowEvent.countsRows

/-- A change of a store that its notes tell of: they name every row that is not as it was, they say
when the number of visible rows changed, and if it did not, then the same rows are visible, or
one that is new. -/
structure Announces (s t : RowStore) (ids : List Nat) : Prop where
  indexed : t.Indexed
  nextId_le : s.nextId ≤ t.nextId
  notedIds : t.notedIds = s.notedIds ++ ids
  notesCount : t.notesCount = (s.notesCount || decide (s.visibleCount ≠ t.visibleCount))
  rows : ∀ r ∈ t.rows, r.id ∈ ids ∨ r ∈ s.rows
  visible : s.visibleCount = t.visibleCount →
    t.visible.map (·.id) = s.visible.map (·.id) ∨
      ∃ r ∈ t.visible, r.id ∈ ids ∧ s.nextId ≤ r.id

variable {s t u : RowStore}

theorem mem_visible {r : Row} : r ∈ s.visible ↔ r ∈ s.rows ∧ r.hidden = false := by
  simp [visible]

theorem Indexed.visibleCount_eq_length (h : s.Indexed) : s.visibleCount = s.visible.length := by
  rw [h.counted, visible, List.countP_eq_length_filter]

theorem Indexed.visible_eq_nil (h : s.Indexed) (hcount : s.visibleCount = 0) : s.visible = [] := by
  rw [← List.length_eq_zero_iff, ← h.visibleCount_eq_length, hcount]

/-! ## Every change announces itself -/

theorem notedIds_noteCount (h : u.events = s.events) :
    (u.noteCount s.visibleCount).notedIds = s.notedIds := by
  unfold noteCount
  split
  · simp [notedIds, h]
  · simp [notedIds, h, emit, RowEvent.ids]

theorem notesCount_noteCount (h : u.events = s.events) :
    (u.noteCount s.visibleCount).notesCount =
      (s.notesCount || decide (s.visibleCount ≠ u.visibleCount)) := by
  unfold noteCount
  split
  next hsame => simp [notesCount, h, hsame]
  next hother => simp [notesCount, h, hother, emit, RowEvent.countsRows]

theorem notedIds_emit (ids : List Nat) :
    (s.emit (.rowsChanged ids)).notedIds = s.notedIds ++ ids := by
  simp [notedIds, emit, RowEvent.ids]

theorem notesCount_emit (ids : List Nat) :
    (s.emit (.rowsChanged ids)).notesCount = s.notesCount := by
  simp [notesCount, emit, RowEvent.countsRows]

theorem events_insert {r : NewRow} {id : Nat} (h : s.insert r = .ok (t, id)) :
    t.events = s.events := by
  rw [RowStore.insert] at h
  split at h
  · cases h
  · obtain ⟨rfl, -⟩ := Prod.mk.inj (Except.ok.inj h)
    rfl

theorem events_insertAll {rs : List NewRow} {ids : List Nat} (h : s.insertAll rs = .ok (t, ids)) :
    t.events = s.events := by
  induction rs generalizing s ids with
  | nil =>
    obtain ⟨rfl, -⟩ := Prod.mk.inj (Except.ok.inj h)
    rfl
  | cons r rest ih =>
    rw [RowStore.insertAll] at h
    cases hr : s.insert r with
    | error e =>
      rw [hr] at h
      cases h
    | ok inserted =>
      obtain ⟨u, id⟩ := inserted
      cases hrest : u.insertAll rest with
      | error e =>
        simp only [hr, hrest, bind, Except.bind] at h
        cases h
      | ok appended =>
        obtain ⟨v, more⟩ := appended
        simp only [hr, hrest, bind, Except.bind] at h
        obtain ⟨rfl, -⟩ := Prod.mk.inj (Except.ok.inj h)
        rw [ih hrest, events_insert hr]

/-- A row whose visibility stays leaves the order of the visible rows. -/
theorem visible_map_patchAt {id : Nat} {p : RowPatch} {rows : List Row}
    (h : ∀ r ∈ rows, (patchAt id p r).hidden = r.hidden) :
    ((rows.map (patchAt id p)).filter fun r => !r.hidden).map (·.id) =
      (rows.filter fun r => !r.hidden).map (·.id) := by
  induction rows with
  | nil => rfl
  | cons r rest ih =>
    have hrest := ih fun r' hr' => h r' (List.mem_cons_of_mem _ hr')
    have hr := h r List.mem_cons_self
    cases hhidden : r.hidden with
    | true => simp [hr, hhidden, hrest]
    | false => simp [hr, hhidden, hrest]

theorem eq_of_countAfter_eq {n : Nat} {before after : Bool} (hpos : before = false → 0 < n)
    (h : countAfter n before after = n) : after = before := by
  cases before with
  | false =>
    have := hpos rfl
    cases after with
    | false => rfl
    | true =>
      simp only [countAfter, Bool.false_eq_true, if_false, if_true] at h
      omega
  | true =>
    cases after with
    | false => simp [countAfter] at h
    | true => rfl

theorem Indexed.announces_update (h : s.Indexed) {id : Nat} {p : RowPatch}
    (hu : s.update id p = .ok t) : s.Announces t [id] := by
  obtain ⟨hrows, hnext, hidx⟩ := h.update hu
  have hvisible : s.visibleCount = t.visibleCount →
      t.visible.map (·.id) = s.visible.map (·.id) := by
    intro hcount
    rw [visible, visible, hrows]
    refine visible_map_patchAt fun r hr => ?_
    by_cases hid : r.id = id
    · -- a row that changed its visibility would have changed the count
      have hfound := h.findById?_eq_some_iff.mpr ⟨hr, hid⟩
      have hafter := visibleCount_update hfound hu
      have hpos := h.visibleCount_pos hr
      rw [patchAt, if_pos hid]
      exact eq_of_countAfter_eq hpos (hafter.symm.trans hcount.symm)
    · rw [patchAt, if_neg hid]
  have hrow : ∀ r ∈ t.rows, r.id ∈ [id] ∨ r ∈ s.rows := by
    intro r' hr'
    rw [hrows] at hr'
    obtain ⟨r, hr, rfl⟩ := List.mem_map.mp hr'
    by_cases hid : r.id = id
    · exact .inl (by simp [hid])
    · exact .inr (by simpa [patchAt, hid] using hr)
  rw [RowStore.update] at hu
  split at hu
  · cases hu
  · split at hu
    · cases hu
    · obtain rfl := Except.ok.inj hu
      refine ⟨hidx, Nat.le_of_eq hnext.symm, ?_, ?_, hrow, fun hcount => .inl (hvisible hcount)⟩
      · rw [notedIds_emit, notedIds_noteCount]
        rfl
      · rw [notesCount_emit, notesCount_noteCount]
        · simp
        · rfl

theorem Indexed.announces_add (h : s.Indexed) {r : NewRow} {id : Nat}
    (ha : s.add r = .ok (t, id)) : s.Announces t [id] := by
  obtain ⟨rfl, -, hrows, hnext, hidx⟩ := h.add ha
  have hvisible : s.visibleCount = t.visibleCount →
      t.visible.map (·.id) = s.visible.map (·.id) := by
    intro hcount
    have hhidden : r.hidden = true := by
      have hlength := congrArg (List.countP fun r => !r.hidden) hrows
      rw [← hidx.counted, List.countP_append, ← h.counted, hcount] at hlength
      simpa [NewRow.withId] using hlength
    simp [visible, hrows, NewRow.withId, hhidden]
  have hrow : ∀ row ∈ t.rows, row.id ∈ [s.nextId] ∨ row ∈ s.rows := by
    intro row hrow
    rw [hrows, List.mem_append, List.mem_singleton] at hrow
    rcases hrow with hold | rfl
    · exact .inr hold
    · exact .inl (by simp [NewRow.withId])
  rw [RowStore.add] at ha
  cases hi : s.insert r with
  | error e =>
    rw [hi] at ha
    cases ha
  | ok inserted =>
    rw [hi] at ha
    obtain ⟨rfl, hid⟩ := Prod.mk.inj (Except.ok.inj ha)
    have hevents : inserted.1.events = s.events := events_insert hi
    refine ⟨hidx, by omega, ?_, ?_, hrow, fun hcount => .inl (hvisible hcount)⟩
    · rw [notedIds_emit, notedIds_noteCount hevents, hid]
    · rw [notesCount_emit, notesCount_noteCount hevents]
      simp

theorem map_id_numbered (n : Nat) (rs : List NewRow) :
    (numbered n rs).map (·.id) = List.range' n rs.length := by
  induction rs generalizing n with
  | nil => rfl
  | cons r rest ih => exact congrArg (n :: ·) (ih (n + 1))

/-- Replacing the rows names them all. If as many are visible as before, one of those is new. -/
theorem Indexed.announces_replaceAll (h : s.Indexed) {rs : List NewRow}
    (hr : s.replaceAll rs = .ok t) : s.Announces t (t.rows.map (·.id)) := by
  obtain ⟨hrows, hle, hidx⟩ := indexed_replaceAll hr
  have hids : t.rows.map (·.id) = List.range' s.nextId rs.length := by
    rw [hrows, map_id_numbered]
  have hvisible : s.visibleCount = t.visibleCount →
      t.visible.map (·.id) = s.visible.map (·.id) ∨
        ∃ r ∈ t.visible, r.id ∈ t.rows.map (·.id) ∧ s.nextId ≤ r.id := by
    intro hcount
    cases hshown : t.visible with
    | nil =>
      left
      have hnone : s.visibleCount = 0 := by
        rw [hcount, hidx.visibleCount_eq_length, hshown, List.length_nil]
      rw [h.visible_eq_nil hnone]
    | cons r rest =>
      right
      have hmem : r ∈ t.rows := (mem_visible.mp (hshown ▸ List.mem_cons_self)).1
      have hid : r.id ∈ t.rows.map (·.id) := List.mem_map_of_mem hmem
      refine ⟨r, List.mem_cons_self, hid, ?_⟩
      rw [hids, List.mem_range'_1] at hid
      exact hid.1
  have hrow : ∀ r ∈ t.rows, r.id ∈ t.rows.map (·.id) ∨ r ∈ s.rows :=
    fun r hr => .inl (List.mem_map_of_mem hr)
  rw [RowStore.replaceAll] at hr
  split at hr
  · cases hr
  next hrepeat =>
    obtain ⟨u, -, hall, -⟩ := s.appendEach_withoutRows (firstRepeat_eq_none_iff.mp hrepeat).1
    have hevents : u.events = s.withoutRows.events := events_insertAll hall
    have hevents : u.events = s.events := hevents
    rw [hall] at hr
    obtain rfl := Except.ok.inj hr
    refine ⟨hidx, hle, ?_, ?_, hrow, hvisible⟩
    · rw [hids]
      split
      next hempty =>
        rw [notedIds_noteCount hevents]
        simpa using hempty
      · rw [notedIds_emit, notedIds_noteCount hevents]
    · split
      · rw [notesCount_noteCount hevents]
        simp
      · rw [notesCount_emit, notesCount_noteCount hevents]
        simp

theorem Indexed.announces_clear (h : s.Indexed) : s.Announces s.clear [] := by
  have hnone : s.clear.visible = [] := by simp [visible]
  refine ⟨indexed_clear s, Nat.le_of_eq (nextId_clear s).symm, ?_, ?_, ?_, ?_⟩
  · rw [clear, notedIds_noteCount, List.append_nil]
    rfl
  · rw [clear, notesCount_noteCount]
    · simp
    · rfl
  · simp
  · intro hcount
    left
    rw [hnone, h.visible_eq_nil (by simpa [clear, withoutRows] using hcount)]

/-- A call that succeeds announces what it does; one that is refused does nothing. -/
theorem Indexed.announces_carryOut (h : s.Indexed) (call : StoreCall) :
    (s.carryOut call).1 = s ∨ ∃ ids, s.Announces (s.carryOut call).1 ids := by
  by_cases hr : s.Refuses call
  · obtain ⟨e, he⟩ := h.carryOut_of_refuses hr
    exact .inl (by rw [he])
  right
  cases call with
  | replaceAll rows =>
    obtain ⟨t, ht, -⟩ := exists_replaceAll s (not_not.mp hr)
    rw [RowStore.carryOut, replaceEach_eq, ht]
    exact ⟨_, h.announces_replaceAll ht⟩
  | add r =>
    cases ha : s.add r with
    | error e =>
      obtain ⟨t, n, ht, -⟩ := h.carryOut_of_not_refuses hr
      simp [RowStore.carryOut, ha] at ht
    | ok added =>
      rw [RowStore.carryOut, ha]
      exact ⟨_, h.announces_add ha⟩
  | update id p =>
    cases hu : s.update id p with
    | error e =>
      obtain ⟨t, n, ht, -⟩ := h.carryOut_of_not_refuses hr
      simp [RowStore.carryOut, hu] at ht
    | ok t =>
      rw [RowStore.carryOut, hu]
      exact ⟨_, h.announces_update hu⟩
  | clear => exact ⟨_, h.announces_clear⟩

end RowStore

end PropertySheet
