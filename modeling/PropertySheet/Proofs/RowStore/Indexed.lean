import Mathlib.Data.List.Basic
import PropertySheet.RowStore

/-!
# The indexes of the row store

A store keeps its rows in one list and finds them through two maps of positions, beside a counter of
ids and a count of visible rows. `Indexed` says that these agree: each map binds exactly the names
or ids of the rows to their positions, ids grow along the list and stay below the counter, and the
count is right.

From it follows that a lookup answers like a search of the list (`findById?_eq_some_iff`,
`findByName?_eq_some_iff`), and hence that no two rows share a name or an id. Each change of the
store keeps it; the lemmas `Indexed.update`, `Indexed.add`, `indexed_replaceAll` and `indexed_clear`
also say which rows are there afterwards. Nobody outside this module has to look at positions.
-/

namespace PropertySheet

/-- Where no two elements share a key, a key singles out one element. -/
theorem filter_key_eq_singleton {α β : Type} [DecidableEq β] {key : α → β} {l : List α}
    (h : (l.map key).Nodup) {a : α} (ha : a ∈ l) : l.filter (key · = key a) = [a] := by
  induction l with
  | nil => cases ha
  | cons b l ih =>
    obtain ⟨hb, hl⟩ := List.nodup_cons.mp h
    rcases List.mem_cons.mp ha with rfl | ha
    · have hnone : l.filter (key · = key a) = [] := by
        refine List.filter_eq_nil_iff.mpr fun c hc heq => hb ?_
        exact of_decide_eq_true heq ▸ List.mem_map_of_mem hc
      simp [hnone]
    · have hne : key b ≠ key a := fun heq => hb (heq ▸ List.mem_map_of_mem ha)
      rw [List.filter_cons_of_neg (by simpa using hne)]
      exact ih hl ha

namespace RowStore

/-! ## One index -/

section Index

variable {κ : Type} [LE κ] [LT κ] [DecidableLT κ] [DecidableEq κ] [Std.IsLinearOrder κ]
  [Std.LawfulOrderLT κ] {index : SortedMap κ Nat} {key : Row → κ} {rows : List Row}

omit [LE κ] [DecidableLT κ] [Std.IsLinearOrder κ] [Std.LawfulOrderLT κ] in
/-- A map binds exactly the keys of the rows, each to the position of its row. -/
def Indexes (index : SortedMap κ Nat) (key : Row → κ) (rows : List Row) : Prop :=
  ∀ k i, index.get? k = some i ↔ ∃ r, rows[i]? = some r ∧ key r = k

omit [LE κ] [DecidableLT κ] [Std.IsLinearOrder κ] [Std.LawfulOrderLT κ] in
/-- A lookup through an index finds what a search finds. -/
theorem Indexes.bind_eq_some_iff (h : Indexes index key rows) {k : κ} {r : Row} :
    ((index.get? k).bind fun i => rows[i]?) = some r ↔ r ∈ rows ∧ key r = k := by
  rw [Option.bind_eq_some_iff]
  constructor
  · rintro ⟨i, hi, hr⟩
    obtain ⟨r', hr', hk⟩ := (h k i).mp hi
    rw [hr] at hr'
    obtain rfl := Option.some.inj hr'
    exact ⟨List.mem_of_getElem? hr, hk⟩
  · rintro ⟨hr, hk⟩
    obtain ⟨i, hi⟩ := List.mem_iff_getElem?.mp hr
    exact ⟨i, (h k i).mpr ⟨r, hi, hk⟩, hi⟩

omit [LE κ] [DecidableLT κ] [Std.IsLinearOrder κ] [Std.LawfulOrderLT κ] in
/-- No two positions hold rows of one key. -/
theorem Indexes.position_eq (h : Indexes index key rows) {i j : Nat} {a b : Row}
    (ha : rows[i]? = some a) (hb : rows[j]? = some b) (hk : key a = key b) : i = j := by
  have h1 := (h (key b) i).mpr ⟨a, ha, hk⟩
  have h2 := (h (key b) j).mpr ⟨b, hb, rfl⟩
  exact Option.some.inj (h1.symm.trans h2)

omit [LE κ] [DecidableLT κ] [Std.IsLinearOrder κ] [Std.LawfulOrderLT κ] in
/-- A change that keeps the keys of the rows in place keeps the index. -/
theorem Indexes.map (h : Indexes index key rows) {f : Row → Row} (hf : ∀ r, key (f r) = key r) :
    Indexes index key (rows.map f) := by
  intro k i
  rw [h k i]
  simp [hf]

/-- A row of a new key is indexed by the position behind the others. -/
theorem Indexes.append (h : Indexes index key rows) (new : Row)
    (hnew : ∀ r ∈ rows, key r ≠ key new) :
    Indexes (index.insert (key new) rows.length) key (rows ++ [new]) := by
  intro k i
  have happend : ∀ r, (rows ++ [new])[i]? = some r ↔
      rows[i]? = some r ∨ i = rows.length ∧ r = new := by
    intro r
    rw [List.getElem?_append]
    split
    next hi => simp [Nat.ne_of_lt hi]
    next hi =>
      rw [List.getElem?_eq_none (Nat.le_of_not_lt hi), List.getElem?_singleton]
      by_cases heq : i = rows.length
      · simp [heq, eq_comm]
      · have : i - rows.length ≠ 0 := by omega
        simp [heq, this]
  rw [SortedMap.get?_insert]
  simp only [happend]
  by_cases hk : key new = k
  · subst hk
    rw [if_pos rfl, Option.some.injEq]
    constructor
    · rintro rfl
      exact ⟨new, .inr ⟨rfl, rfl⟩, rfl⟩
    · rintro ⟨r, hr | ⟨rfl, _⟩, hkey⟩
      · exact absurd hkey (hnew r (List.mem_of_getElem? hr))
      · rfl
  · rw [if_neg hk, h k i]
    constructor
    · rintro ⟨r, hr, hkey⟩
      exact ⟨r, .inl hr, hkey⟩
    · rintro ⟨r, hr | ⟨_, rfl⟩, hkey⟩
      · exact ⟨r, hr, hkey⟩
      · exact absurd hkey hk

end Index

/-! ## The whole store -/

/-- The maps, the counters and the list of a store agree. -/
structure Indexed (s : RowStore) : Prop where
  byName : Indexes s.byName (·.property) s.rows
  byId : Indexes s.byId (·.id) s.rows
  increasing : s.rows.Pairwise fun a b => a.id < b.id
  fresh : ∀ r ∈ s.rows, r.id < s.nextId
  counted : s.visibleCount = s.rows.countP fun r => !r.hidden

variable {s t : RowStore}

theorem Indexed.findById?_eq_some_iff (h : s.Indexed) {id : Nat} {r : Row} :
    s.findById? id = some r ↔ r ∈ s.rows ∧ r.id = id := h.byId.bind_eq_some_iff

theorem Indexed.findByName?_eq_some_iff (h : s.Indexed) {name : String} {r : Row} :
    s.findByName? name = some r ↔ r ∈ s.rows ∧ r.property = name := h.byName.bind_eq_some_iff

theorem Indexed.findByName?_eq_none_iff (h : s.Indexed) {name : String} :
    s.findByName? name = none ↔ ∀ r ∈ s.rows, r.property ≠ name := by
  simp only [Option.eq_none_iff_forall_ne_some, ne_eq, h.findByName?_eq_some_iff, not_and]

/-- Rows of one id are one row. -/
theorem Indexed.eq_of_id_eq (h : s.Indexed) {a b : Row} (ha : a ∈ s.rows) (hb : b ∈ s.rows)
    (hid : a.id = b.id) : a = b := by
  have h1 := h.findById?_eq_some_iff.mpr ⟨ha, hid⟩
  have h2 := h.findById?_eq_some_iff.mpr ⟨hb, rfl⟩
  exact Option.some.inj (h1.symm.trans h2)

/-- Rows of one name are one row. -/
theorem Indexed.eq_of_property_eq (h : s.Indexed) {a b : Row} (ha : a ∈ s.rows) (hb : b ∈ s.rows)
    (hname : a.property = b.property) : a = b := by
  have h1 := h.findByName?_eq_some_iff.mpr ⟨ha, hname⟩
  have h2 := h.findByName?_eq_some_iff.mpr ⟨hb, rfl⟩
  exact Option.some.inj (h1.symm.trans h2)

theorem Indexed.properties_nodup (h : s.Indexed) : (s.rows.map (·.property)).Nodup := by
  rw [List.Nodup, List.pairwise_map, List.pairwise_iff_getElem]
  intro i j hi hj hij hname
  have := h.byName.position_eq (List.getElem?_eq_getElem hi) (List.getElem?_eq_getElem hj) hname
  omega

/-! ## Notes do not matter -/

@[simp]
theorem rows_emit (s : RowStore) (e : RowEvent) : (s.emit e).rows = s.rows := rfl

@[simp]
theorem nextId_emit (s : RowStore) (e : RowEvent) : (s.emit e).nextId = s.nextId := rfl

@[simp]
theorem rows_noteCount (s : RowStore) (n : Nat) : (s.noteCount n).rows = s.rows := by
  rw [noteCount]
  split <;> rfl

@[simp]
theorem nextId_noteCount (s : RowStore) (n : Nat) : (s.noteCount n).nextId = s.nextId := by
  rw [noteCount]
  split <;> rfl

@[simp]
theorem visibleCount_emit (s : RowStore) (e : RowEvent) :
    (s.emit e).visibleCount = s.visibleCount := rfl

@[simp]
theorem visibleCount_noteCount (s : RowStore) (n : Nat) :
    (s.noteCount n).visibleCount = s.visibleCount := by
  rw [noteCount]
  split <;> rfl

theorem Indexed.emit (h : s.Indexed) (e : RowEvent) : (s.emit e).Indexed :=
  ⟨h.byName, h.byId, h.increasing, h.fresh, h.counted⟩

theorem Indexed.noteCount (h : s.Indexed) (n : Nat) : (s.noteCount n).Indexed := by
  rw [RowStore.noteCount]
  split
  · exact h
  · exact h.emit _

theorem Indexed.takeEvents (h : s.Indexed) : s.takeEvents.1.Indexed :=
  ⟨h.byName, h.byId, h.increasing, h.fresh, h.counted⟩

/-! ## Emptying -/

theorem indexed_empty : ({} : RowStore).Indexed where
  byName := by simp [Indexes]
  byId := by simp [Indexes]
  increasing := .nil
  fresh := by simp
  counted := rfl

theorem indexed_withoutRows (s : RowStore) : s.withoutRows.Indexed where
  byName := by simp [withoutRows, Indexes]
  byId := by simp [withoutRows, Indexes]
  increasing := .nil
  fresh := by simp [withoutRows]
  counted := rfl

theorem indexed_clear (s : RowStore) : s.clear.Indexed := (indexed_withoutRows s).noteCount _

@[simp]
theorem rows_clear (s : RowStore) : s.clear.rows = [] := rows_noteCount _ _

@[simp]
theorem nextId_clear (s : RowStore) : s.clear.nextId = s.nextId := nextId_noteCount _ _

/-! ## Setting fields of a row -/

/-- Set fields of the row of an id, and of no other. -/
def patchAt (id : Nat) (p : RowPatch) (r : Row) : Row := if r.id = id then r.patch p else r

@[simp]
theorem id_patchAt (id : Nat) (p : RowPatch) (r : Row) : (patchAt id p r).id = r.id := by
  rw [patchAt]
  split <;> rfl

@[simp]
theorem property_patchAt (id : Nat) (p : RowPatch) (r : Row) :
    (patchAt id p r).property = r.property := by
  rw [patchAt]
  split <;> rfl

/-- Setting the row at a position sets the row of an id, since no other row has it. -/
theorem Indexed.set_eq_map (h : s.Indexed) {i : Nat} {r : Row} (hr : s.rows[i]? = some r)
    (p : RowPatch) : s.rows.set i (r.patch p) = s.rows.map (patchAt r.id p) := by
  obtain ⟨hi, _⟩ := List.getElem?_eq_some_iff.mp hr
  apply List.ext_getElem?
  intro j
  rw [List.getElem?_set, List.getElem?_map]
  by_cases hij : i = j
  · subst hij
    rw [if_pos rfl, if_pos hi, hr]
    simp [patchAt]
  · rw [if_neg hij]
    cases hj : s.rows[j]? with
    | none => rfl
    | some r' =>
      have hid : r'.id ≠ r.id := fun hid => hij (h.byId.position_eq hr hj hid.symm)
      simp [patchAt, hid]

/-- The count follows the visibility of the one row that changes. -/
theorem countAfter_eq (rows : List Row) {i : Nat} (hi : i < rows.length) (r : Row) :
    countAfter (rows.countP fun r => !r.hidden) rows[i].hidden r.hidden =
      (rows.set i r).countP fun r => !r.hidden := by
  rw [List.countP_set hi]
  have hpos : rows[i].hidden = false → 0 < rows.countP fun r => !r.hidden := by
    intro hvisible
    exact List.countP_pos_iff.mpr ⟨rows[i], List.getElem_mem hi, by simp [hvisible]⟩
  cases hbefore : rows[i].hidden <;> cases hafter : r.hidden <;> simp [countAfter]
  have := hpos hbefore
  omega

/-- What an update does. It fails only for an id that no row has. -/
theorem Indexed.update (h : s.Indexed) {id : Nat} {p : RowPatch} (hu : s.update id p = .ok t) :
    t.rows = s.rows.map (patchAt id p) ∧ t.nextId = s.nextId ∧ t.Indexed := by
  rw [RowStore.update] at hu
  split at hu
  · cases hu
  next i hi =>
    split at hu
    · cases hu
    next r hr =>
      obtain ⟨r', hr', hid⟩ := (h.byId id i).mp hi
      rw [hr] at hr'
      obtain rfl := Option.some.inj hr'
      obtain rfl := Except.ok.inj hu
      obtain ⟨hlt, hri⟩ := List.getElem?_eq_some_iff.mp hr
      have hrows : s.rows.set i (r.patch p) = s.rows.map (patchAt id p) := hid ▸ h.set_eq_map hr p
      refine ⟨by simpa using hrows, by simp, Indexed.emit (Indexed.noteCount ?_ _) _⟩
      constructor
      · rw [hrows]
        exact h.byName.map (property_patchAt id p)
      · rw [hrows]
        exact h.byId.map (id_patchAt id p)
      · rw [hrows, List.pairwise_map]
        simpa using h.increasing
      · intro row hrow
        rw [hrows] at hrow
        obtain ⟨old, hold, rfl⟩ := List.mem_map.mp hrow
        simpa using h.fresh old hold
      · show countAfter s.visibleCount r.hidden (r.patch p).hidden = _
        rw [← countAfter_eq s.rows hlt, ← h.counted, hri]

theorem exists_update {id : Nat} {r : Row} (hr : s.findById? id = some r) (p : RowPatch) :
    ∃ t, s.update id p = .ok t := by
  obtain ⟨i, hi, hrow⟩ := Option.bind_eq_some_iff.mp hr
  rw [RowStore.update]
  simp only [hi, hrow]
  exact ⟨_, rfl⟩

/-- Where no row has an id, a patch of that id changes none. -/
theorem Indexed.map_patchAt_of_none (h : s.Indexed) {id : Nat} (hnone : s.findById? id = none)
    (p : RowPatch) : s.rows.map (patchAt id p) = s.rows := by
  have hother : ∀ r ∈ s.rows, patchAt id p r = r := by
    intro r hr
    refine if_neg fun hid => ?_
    have hfound := h.findById?_eq_some_iff.mpr ⟨hr, hid⟩
    cases hnone.symm.trans hfound
  rw [List.map_congr_left hother, List.map_id']

/-- Setting the value of a row leaves a note of it, and nothing else changes. -/
theorem Indexed.update_value (h : s.Indexed) {r : Row} (hr : r ∈ s.rows)
    (value : Option String) :
    s.update r.id { value := some value } =
      .ok (({ s with rows := s.rows.map (patchAt r.id { value := some value }) } : RowStore).emit
        (.rowsChanged [r.id])) := by
  have hfound := h.findById?_eq_some_iff.mpr ⟨hr, rfl⟩
  obtain ⟨i, hi, hrow⟩ := Option.bind_eq_some_iff.mp hfound
  have hcount : countAfter s.visibleCount r.hidden r.hidden = s.visibleCount := if_pos rfl
  have hhidden : (r.patch { value := some value }).hidden = r.hidden := rfl
  rw [RowStore.update]
  simp only [hi, hrow, hhidden, hcount, h.set_eq_map hrow]
  rw [RowStore.noteCount, if_pos rfl]

/-! ## Appending rows -/

/-- What an insertion does. It fails only for a name that a row has. -/
theorem Indexed.insert (h : s.Indexed) {r : NewRow} {id : Nat} (hi : s.insert r = .ok (t, id)) :
    id = s.nextId ∧ (∀ row ∈ s.rows, row.property ≠ r.property) ∧
      t.rows = s.rows ++ [r.withId s.nextId] ∧ t.nextId = s.nextId + 1 ∧ t.Indexed := by
  rw [RowStore.insert] at hi
  split at hi
  · cases hi
  next hnone =>
    have hnew := h.findByName?_eq_none_iff.mp hnone
    simp only [Except.ok.injEq, Prod.mk.injEq] at hi
    obtain ⟨rfl, rfl⟩ := hi
    refine ⟨rfl, hnew, rfl, rfl, ?_⟩
    constructor
    · exact h.byName.append (r.withId s.nextId) hnew
    · exact h.byId.append (r.withId s.nextId) fun row hrow => Nat.ne_of_lt (h.fresh row hrow)
    · rw [List.pairwise_append]
      refine ⟨h.increasing, List.pairwise_singleton _ _, ?_⟩
      intro row hrow new hmem
      rw [List.mem_singleton.mp hmem]
      exact h.fresh row hrow
    · intro row hrow
      show row.id < s.nextId + 1
      rcases List.mem_append.mp hrow with hold | hmem
      · exact Nat.lt_succ_of_lt (h.fresh row hold)
      · rw [List.mem_singleton.mp hmem]
        exact Nat.lt_succ_self _
    · simp only [List.countP_append, List.countP_singleton, h.counted, NewRow.withId]
      cases r.hidden <;> simp

theorem exists_insert {r : NewRow} (hr : s.findByName? r.property = none) :
    ∃ t, s.insert r = .ok (t, s.nextId) := by
  rw [RowStore.insert, hr]
  exact ⟨_, rfl⟩

/-- What adding a row does. It fails only for a name that a row has. -/
theorem Indexed.add (h : s.Indexed) {r : NewRow} {id : Nat} (ha : s.add r = .ok (t, id)) :
    id = s.nextId ∧ (∀ row ∈ s.rows, row.property ≠ r.property) ∧
      t.rows = s.rows ++ [r.withId s.nextId] ∧ t.nextId = s.nextId + 1 ∧ t.Indexed := by
  rw [RowStore.add] at ha
  cases hi : s.insert r with
  | error e =>
    rw [hi] at ha
    cases ha
  | ok inserted =>
    rw [hi] at ha
    obtain ⟨rfl, rfl⟩ := Prod.mk.inj (Except.ok.inj ha)
    obtain ⟨hid, hnew, hrows, hnext, hidx⟩ := h.insert hi
    exact ⟨hid, hnew, by simpa using hrows, by simpa using hnext, (hidx.noteCount _).emit _⟩

theorem exists_add {r : NewRow} (hr : s.findByName? r.property = none) :
    ∃ t, s.add r = .ok (t, s.nextId) := by
  obtain ⟨t, ht⟩ := exists_insert hr
  rw [RowStore.add, ht]
  exact ⟨_, rfl⟩

/-- Rows under consecutive ids. -/
def numbered : Nat → List NewRow → List Row
  | _, [] => []
  | n, r :: rest => r.withId n :: numbered (n + 1) rest

theorem map_property_numbered (n : Nat) (rs : List NewRow) :
    (numbered n rs).map (·.property) = rs.map (·.property) := by
  induction rs generalizing n with
  | nil => rfl
  | cons r rest ih => exact congrArg (r.property :: ·) (ih (n + 1))

theorem mem_numbered {n : Nat} {rs : List NewRow} {row : Row} (h : row ∈ numbered n rs) :
    ∃ r ∈ rs, ∃ id, row = r.withId id := by
  induction rs generalizing n with
  | nil => cases h
  | cons r rest ih =>
    rcases List.mem_cons.mp h with rfl | h
    · exact ⟨r, by simp, n, rfl⟩
    · obtain ⟨r', hr', hid⟩ := ih h
      exact ⟨r', by simp [hr'], hid⟩

theorem exists_mem_numbered (n : Nat) {rs : List NewRow} {r : NewRow} (h : r ∈ rs) :
    ∃ id, r.withId id ∈ numbered n rs := by
  induction rs generalizing n with
  | nil => cases h
  | cons r' rest ih =>
    rcases List.mem_cons.mp h with rfl | h
    · exact ⟨n, by simp [numbered]⟩
    · obtain ⟨id, hid⟩ := ih (n + 1) h
      exact ⟨id, by simp [numbered, hid]⟩

theorem Indexed.insertAll {rs : List NewRow} {ids : List Nat} (h : s.Indexed)
    (hi : s.insertAll rs = .ok (t, ids)) :
    t.rows = s.rows ++ numbered s.nextId rs ∧ s.nextId ≤ t.nextId ∧ t.Indexed := by
  induction rs generalizing s ids with
  | nil =>
    obtain ⟨rfl, rfl⟩ := Prod.mk.inj (Except.ok.inj hi)
    exact ⟨by simp [numbered], Nat.le_refl _, h⟩
  | cons r rest ih =>
    rw [RowStore.insertAll] at hi
    cases hr : s.insert r with
    | error e =>
      rw [hr] at hi
      cases hi
    | ok inserted =>
      obtain ⟨u, id⟩ := inserted
      cases hrest : u.insertAll rest with
      | error e =>
        simp only [hr, hrest, bind, Except.bind] at hi
        cases hi
      | ok appended =>
        obtain ⟨v, more⟩ := appended
        simp only [hr, hrest, bind, Except.bind] at hi
        obtain ⟨rfl, rfl⟩ := Prod.mk.inj (Except.ok.inj hi)
        obtain ⟨_, _, hrows, hnext, hidx⟩ := h.insert hr
        obtain ⟨hrows', hle, hidx'⟩ := ih hidx hrest
        refine ⟨?_, by omega, hidx'⟩
        rw [hrows', hrows, hnext, numbered, List.append_assoc, List.singleton_append]

/-- What replacing the rows does. It fails only for a list that repeats a name. -/
theorem indexed_replaceAll {rs : List NewRow} (hr : s.replaceAll rs = .ok t) :
    t.rows = numbered s.nextId rs ∧ s.nextId ≤ t.nextId ∧ t.Indexed := by
  rw [RowStore.replaceAll] at hr
  split at hr
  · cases hr
  · cases hi : s.withoutRows.insertAll rs with
    | error e =>
      rw [hi] at hr
      cases hr
    | ok inserted =>
      obtain ⟨u, ids⟩ := inserted
      rw [hi] at hr
      obtain rfl := Except.ok.inj hr
      obtain ⟨hrows, hle, hidx⟩ := (indexed_withoutRows s).insertAll hi
      have hrows : u.rows = numbered s.nextId rs := hrows
      have hle : s.nextId ≤ u.nextId := hle
      split
      · exact ⟨by simpa using hrows, by simpa using hle, hidx.noteCount _⟩
      · exact ⟨by simpa using hrows, by simpa using hle, (hidx.noteCount _).emit _⟩

end RowStore

end PropertySheet
