import Mathlib.Data.List.Nodup
import PropertySheet.Proofs.RowStore.Indexed

/-!
# Calls on the row store

A store changes through four calls: its rows are replaced, a row is added, fields of a row are set,
and the rows are removed. Three of them may fail. `carryOut` says what a call leaves behind when it
works on the store in place, also on the way to a failure: a list of rows is checked for a repeated
name first, but from then on the old rows are gone, and a row refused in the middle of the list
would leave the store half filled.

`replaceEach_eq` says that this never happens. With it, `indexed_after` describes the store after
any sequence of calls: its indexes agree with its rows, the ids that it gave out are all the numbers
below its counter, each of them once, and a call fails exactly when it is to be refused, and then
changes nothing.
-/

namespace PropertySheet

/-- A call that changes the rows of a store. -/
inductive StoreCall where
  | replaceAll (rows : List NewRow)
  | add (r : NewRow)
  | update (id : Nat) (p : RowPatch)
  | clear

namespace RowStore

/-! ## Calls in place -/

/-- Append rows in place. A row that is refused leaves those that went before it. -/
def appendEach (s : RowStore) : List NewRow → RowStore × Except Failure (List Nat)
  | [] => (s, .ok [])
  | r :: rest =>
    match s.insert r with
    | .error e => (s, .error e)
    | .ok (t, id) => ((t.appendEach rest).1, (t.appendEach rest).2.map (id :: ·))

/-- Replace every row in place: when the first row is appended the old ones are gone. -/
def replaceEach (s : RowStore) (rows : List NewRow) : RowStore × Except Failure (List Nat) :=
  match firstRepeat [] rows with
  | some r => (s, .error (.duplicateProperty r.property r.hidden))
  | none =>
    match s.withoutRows.appendEach rows with
    | (t, .error e) => (t, .error e)
    | (t, .ok ids) =>
      let t := t.noteCount s.visibleCount
      (if ids.isEmpty then t else t.emit (.rowsChanged ids), .ok ids)

/-- The store that a call leaves, and the ids that it gave out or why it failed. -/
def carryOut (s : RowStore) : StoreCall → RowStore × Except Failure (List Nat)
  | .replaceAll rows => s.replaceEach rows
  | .add r =>
    match s.add r with
    | .ok (t, id) => (t, .ok [id])
    | .error e => (s, .error e)
  | .update id p =>
    match s.update id p with
    | .ok t => (t, .ok [])
    | .error e => (s, .error e)
  | .clear => (s.clear, .ok [])

/-- What a store refuses: a list that repeats a name, a name that a row has already, hidden or not,
and an id that no row has. -/
def Refuses (s : RowStore) : StoreCall → Prop
  | .replaceAll rows => ¬ (rows.map (·.property)).Nodup
  | .add r => ∃ row ∈ s.rows, row.property = r.property
  | .update id _ => ∀ row ∈ s.rows, row.id ≠ id
  | .clear => False

/-- The store after a sequence of calls, the first one first. -/
def after (s : RowStore) (calls : List StoreCall) : RowStore :=
  calls.foldl (fun s call => (s.carryOut call).1) s

/-- The ids that a sequence of calls gives out, in order. -/
def idsGiven (s : RowStore) : List StoreCall → List Nat
  | [] => []
  | call :: calls =>
    (s.carryOut call).2.toOption.getD [] ++ (s.carryOut call).1.idsGiven calls

@[simp]
theorem after_nil (s : RowStore) : s.after [] = s := rfl

@[simp]
theorem after_cons (s : RowStore) (call : StoreCall) (calls : List StoreCall) :
    s.after (call :: calls) = (s.carryOut call).1.after calls := rfl

variable {s t : RowStore}

/-! ## A lookup is a search -/

theorem eq_find?_of_forall_iff {rows : List Row} {found : Option Row} {p : Row → Prop}
    [DecidablePred p] (h : ∀ r, found = some r ↔ r ∈ rows ∧ p r) : found = rows.find? p := by
  cases hfind : rows.find? p with
  | none =>
    rw [Option.eq_none_iff_forall_ne_some]
    intro r hr
    obtain ⟨hmem, hp⟩ := (h r).mp hr
    have hnot := List.find?_eq_none.mp hfind r hmem
    exact hnot (decide_eq_true hp)
  | some r =>
    have hp : p r := of_decide_eq_true (List.find?_some (p := fun r => decide (p r)) hfind)
    exact (h r).mpr ⟨List.mem_of_find?_eq_some hfind, hp⟩

theorem Indexed.findByName?_eq_find? (h : s.Indexed) (name : String) :
    s.findByName? name = s.rows.find? (·.property = name) :=
  eq_find?_of_forall_iff fun _ => h.findByName?_eq_some_iff

theorem Indexed.findById?_eq_find? (h : s.Indexed) (id : Nat) :
    s.findById? id = s.rows.find? (·.id = id) :=
  eq_find?_of_forall_iff fun _ => h.findById?_eq_some_iff

/-! ## Appending a list of rows -/

/-- A list has no first repeat when its names differ from one another and from those seen. -/
theorem firstRepeat_eq_none_iff {seen : List String} {rows : List NewRow} :
    firstRepeat seen rows = none ↔
      (rows.map (·.property)).Nodup ∧ ∀ r ∈ rows, r.property ∉ seen := by
  induction rows generalizing seen with
  | nil => simp [firstRepeat]
  | cons r rest ih =>
    rw [firstRepeat]
    split
    next hseen => simp [hseen]
    next hseen =>
      rw [ih, List.map_cons, List.nodup_cons]
      simp only [List.mem_cons, not_or, List.mem_map, not_exists, not_and, forall_eq_or_imp]
      constructor
      · rintro ⟨hnodup, hrest⟩
        exact ⟨⟨fun r' hr' => (hrest r' hr').1, hnodup⟩, hseen, fun r' hr' => (hrest r' hr').2⟩
      · rintro ⟨⟨hhead, hnodup⟩, _, hrest⟩
        exact ⟨hnodup, fun r' hr' => ⟨hhead r' hr', hrest r' hr'⟩⟩

/-- The first repeat of a list has a name seen before it, and no row before it has. -/
theorem exists_of_firstRepeat {seen : List String} {rows : List NewRow} {r : NewRow}
    (h : firstRepeat seen rows = some r) :
    ∃ before after, rows = before ++ r :: after ∧ (before.map (·.property)).Nodup ∧
      (∀ b ∈ before, b.property ∉ seen) ∧
      (r.property ∈ seen ∨ r.property ∈ before.map (·.property)) := by
  induction rows generalizing seen with
  | nil => cases h
  | cons first rest ih =>
    rw [firstRepeat] at h
    split at h
    next hseen =>
      obtain rfl := Option.some.inj h
      exact ⟨[], rest, rfl, List.nodup_nil, nofun, .inl hseen⟩
    next hnew =>
      obtain ⟨before, after, rfl, hnodup, hunseen, hrepeats⟩ := ih h
      refine ⟨first :: before, after, rfl, ?_, ?_, ?_⟩
      · refine List.nodup_cons.mpr ⟨fun hmem => ?_, hnodup⟩
        obtain ⟨b, hb, hname⟩ := List.mem_map.mp hmem
        exact hunseen b hb (hname ▸ List.mem_cons_self)
      · intro b hb
        rcases List.mem_cons.mp hb with rfl | hb
        · exact hnew
        · exact fun hseen => hunseen b hb (List.mem_cons_of_mem _ hseen)
      · rcases hrepeats with hseen | hbefore
        · rcases List.mem_cons.mp hseen with hname | hseen
          · exact .inr (hname ▸ List.mem_cons_self)
          · exact .inl hseen
        · exact .inr (List.mem_cons_of_mem _ hbefore)

/-- Rows of new names that differ are all appended, under the next ids. In place or not makes no
difference then. -/
theorem Indexed.appendEach_of_new (h : s.Indexed) {rows : List NewRow}
    (hnodup : (rows.map (·.property)).Nodup)
    (hnew : ∀ r ∈ rows, ∀ row ∈ s.rows, row.property ≠ r.property) :
    ∃ t, s.appendEach rows = (t, .ok (List.range' s.nextId rows.length)) ∧
      s.insertAll rows = .ok (t, List.range' s.nextId rows.length) ∧
      t.nextId = s.nextId + rows.length := by
  induction rows generalizing s with
  | nil => exact ⟨s, rfl, rfl, rfl⟩
  | cons r rest ih =>
    obtain ⟨hhead, hnodup⟩ := List.nodup_cons.mp hnodup
    obtain ⟨u, hu⟩ := exists_insert (h.findByName?_eq_none_iff.mpr (hnew r (by simp)))
    obtain ⟨_, _, hrows, hnext, hidx⟩ := h.insert hu
    -- the row just appended has none of the names to come
    have hrest : ∀ r' ∈ rest, ∀ row ∈ u.rows, row.property ≠ r'.property := by
      intro r' hr' row hrow
      rw [hrows, List.mem_append, List.mem_singleton] at hrow
      rcases hrow with hrow | rfl
      · exact hnew r' (by simp [hr']) row hrow
      · intro heq
        exact hhead (List.mem_map.mpr ⟨r', hr', heq.symm⟩)
    obtain ⟨t, hplace, hall, hcount⟩ := ih hidx hnodup hrest
    have hids : s.nextId :: List.range' u.nextId rest.length =
        List.range' s.nextId (rest.length + 1) := by
      rw [hnext, List.range'_succ]
    refine ⟨t, ?_, ?_, ?_⟩
    · rw [appendEach, hu]
      simp [hplace, Except.map, hids]
    · rw [RowStore.insertAll, hu]
      simp only [bind, Except.bind, hall, pure, Except.pure, hids, List.length_cons]
    · rw [hcount, hnext, List.length_cons]
      omega

/-- A store without its rows takes any rows of names that differ. -/
theorem appendEach_withoutRows (s : RowStore) {rows : List NewRow}
    (hnodup : (rows.map (·.property)).Nodup) :
    ∃ t, s.withoutRows.appendEach rows = (t, .ok (List.range' s.nextId rows.length)) ∧
      s.withoutRows.insertAll rows = .ok (t, List.range' s.nextId rows.length) ∧
      t.nextId = s.nextId + rows.length :=
  (indexed_withoutRows s).appendEach_of_new hnodup (by simp [withoutRows])

/-! ## Calls that fail change nothing -/

/-- Replacing the rows in place fails, if at all, before anything is gone. -/
theorem replaceEach_eq (s : RowStore) (rows : List NewRow) :
    s.replaceEach rows =
      match s.replaceAll rows with
      | .ok t => (t, .ok (List.range' s.nextId rows.length))
      | .error e => (s, .error e) := by
  rw [replaceEach, RowStore.replaceAll]
  cases hrepeat : firstRepeat [] rows with
  | some r => rfl
  | none =>
    obtain ⟨hnodup, _⟩ := firstRepeat_eq_none_iff.mp hrepeat
    obtain ⟨t, hplace, hall, _⟩ := s.appendEach_withoutRows hnodup
    simp only [hplace, hall, bind, Except.bind, pure, Except.pure]

theorem exists_replaceAll (s : RowStore) {rows : List NewRow}
    (h : (rows.map (·.property)).Nodup) :
    ∃ t, s.replaceAll rows = .ok t ∧ t.nextId = s.nextId + rows.length := by
  have hrepeat : firstRepeat [] rows = none := firstRepeat_eq_none_iff.mpr ⟨h, by simp⟩
  obtain ⟨t, _, hall, hcount⟩ := s.appendEach_withoutRows h
  rw [RowStore.replaceAll, hrepeat]
  simp only [hall, bind, Except.bind, pure, Except.pure]
  refine ⟨_, rfl, ?_⟩
  split
  · rw [nextId_noteCount, hcount]
  · rw [nextId_emit, nextId_noteCount, hcount]

/-- A call that is to be refused fails and leaves the store as it was. -/
theorem Indexed.carryOut_of_refuses (h : s.Indexed) {call : StoreCall} (hr : s.Refuses call) :
    ∃ e, s.carryOut call = (s, .error e) := by
  cases call with
  | replaceAll rows =>
    rw [carryOut, replaceEach]
    cases hrepeat : firstRepeat [] rows with
    | some r => exact ⟨_, rfl⟩
    | none => exact absurd (firstRepeat_eq_none_iff.mp hrepeat).1 hr
  | add r =>
    obtain ⟨row, hrow, hname⟩ := hr
    have hfound := h.findByName?_eq_some_iff.mpr ⟨hrow, hname⟩
    refine ⟨.duplicateProperty r.property row.hidden, ?_⟩
    simp [carryOut, RowStore.add, RowStore.insert, hfound, bind, Except.bind]
  | update id p =>
    have hnone : s.byId.get? id = none := by
      rw [Option.eq_none_iff_forall_ne_some]
      intro i hi
      obtain ⟨row, hrow, hid⟩ := (h.byId id i).mp hi
      exact hr row (List.mem_of_getElem? hrow) hid
    refine ⟨.unknownRow id, ?_⟩
    simp [carryOut, RowStore.update, hnone]
  | clear => exact hr.elim

/-- A call that is not refused succeeds, gives out the next ids, as many as it appends rows, and
keeps the indexes. -/
theorem Indexed.carryOut_of_not_refuses (h : s.Indexed) {call : StoreCall}
    (hr : ¬ s.Refuses call) :
    ∃ t n, s.carryOut call = (t, .ok (List.range' s.nextId n)) ∧ t.nextId = s.nextId + n ∧
      t.Indexed := by
  cases call with
  | replaceAll rows =>
    obtain ⟨t, ht, hcount⟩ := exists_replaceAll s (not_not.mp hr)
    refine ⟨t, rows.length, ?_, hcount, (indexed_replaceAll ht).2.2⟩
    rw [carryOut, replaceEach_eq, ht]
  | add r =>
    have hnone : s.findByName? r.property = none := by
      rw [h.findByName?_eq_none_iff]
      intro row hrow hname
      exact hr ⟨row, hrow, hname⟩
    obtain ⟨t, ht⟩ := exists_add hnone
    obtain ⟨_, _, _, hnext, hidx⟩ := h.add ht
    refine ⟨t, 1, ?_, hnext, hidx⟩
    rw [carryOut, ht]
    rfl
  | update id p =>
    have hsome : ∃ row ∈ s.rows, row.id = id := by
      simpa only [Refuses, not_forall, not_not, exists_prop] using hr
    obtain ⟨row, hrow, hid⟩ := hsome
    obtain ⟨t, ht⟩ := exists_update (h.findById?_eq_some_iff.mpr ⟨hrow, hid⟩) p
    obtain ⟨_, hnext, hidx⟩ := h.update ht
    refine ⟨t, 0, ?_, hnext, hidx⟩
    rw [carryOut, ht]
    rfl
  | clear => exact ⟨s.clear, 0, rfl, nextId_clear s, indexed_clear s⟩

/-- What one call leaves: indexes that agree, and a counter that has gone past the ids it gave
out. -/
theorem Indexed.carryOut (h : s.Indexed) (call : StoreCall) :
    (s.carryOut call).1.Indexed ∧ ∃ n,
      (s.carryOut call).2.toOption.getD [] = List.range' s.nextId n ∧
      (s.carryOut call).1.nextId = s.nextId + n := by
  by_cases hr : s.Refuses call
  · obtain ⟨e, he⟩ := h.carryOut_of_refuses hr
    rw [he]
    exact ⟨h, 0, rfl, rfl⟩
  · obtain ⟨t, n, ht, hnext, hidx⟩ := h.carryOut_of_not_refuses hr
    rw [ht]
    exact ⟨hidx, n, rfl, hnext⟩

/-- A call fails exactly when it is to be refused. -/
theorem Indexed.carryOut_error_iff (h : s.Indexed) (call : StoreCall) :
    (∃ e, (s.carryOut call).2 = .error e) ↔ s.Refuses call := by
  constructor
  · rintro ⟨e, he⟩
    by_contra hr
    obtain ⟨t, n, ht, _⟩ := h.carryOut_of_not_refuses hr
    rw [ht] at he
    cases he
  · intro hr
    obtain ⟨e, he⟩ := h.carryOut_of_refuses hr
    exact ⟨e, by rw [he]⟩

/-! ## The count of visible rows -/

theorem Indexed.visibleCount_pos (h : s.Indexed) {r : Row} (hr : r ∈ s.rows)
    (hvisible : r.hidden = false) : 0 < s.visibleCount := by
  rw [h.counted]
  exact List.countP_pos_iff.mpr ⟨r, hr, by simp [hvisible]⟩

theorem visibleCount_update {id : Nat} {p : RowPatch} {r : Row} (hr : s.findById? id = some r)
    (hu : s.update id p = .ok t) :
    t.visibleCount = countAfter s.visibleCount r.hidden (r.patch p).hidden := by
  obtain ⟨i, hi, hrow⟩ := Option.bind_eq_some_iff.mp hr
  rw [RowStore.update] at hu
  simp only [hi, hrow] at hu
  obtain rfl := Except.ok.inj hu
  simp

/-- Hiding a visible row takes exactly one off the count of visible rows, which is never nothing. -/
theorem Indexed.visibleCount_update_of_hides (h : s.Indexed) {id : Nat} {p : RowPatch} {r : Row}
    (hr : s.findById? id = some r) (hvisible : r.hidden = false)
    (hhides : (r.patch p).hidden = true) (hu : s.update id p = .ok t) :
    t.visibleCount + 1 = s.visibleCount := by
  have hpos := h.visibleCount_pos (h.findById?_eq_some_iff.mp hr).1 hvisible
  rw [visibleCount_update hr hu, hvisible, hhides]
  simp only [countAfter, Bool.false_eq_true, if_false, if_true]
  omega

/-! ## Any sequence of calls -/

theorem Indexed.after (h : s.Indexed) (calls : List StoreCall) :
    (s.after calls).Indexed ∧ ∃ n,
      s.idsGiven calls = List.range' s.nextId n ∧ (s.after calls).nextId = s.nextId + n := by
  induction calls generalizing s with
  | nil => exact ⟨h, 0, rfl, rfl⟩
  | cons call calls ih =>
    obtain ⟨hidx, m, hids, hnext⟩ := h.carryOut call
    obtain ⟨hidx', n, hids', hnext'⟩ := ih hidx
    refine ⟨hidx', m + n, ?_, ?_⟩
    · rw [idsGiven, hids, hids', hnext, List.range'_append_1]
    · rw [after_cons, hnext', hnext]
      omega

/-- What holds of a store after any sequence of calls: its names differ, its maps bind the names and
the ids of its rows to their positions, so that a lookup is a search; ids grow along the rows and
stay below the counter, and those given out so far are the numbers below it, each once; the count of
visible rows is right, and hiding a row takes one off it; and a call fails exactly when it is to be
refused, and then leaves the store as it was. -/
theorem indexed_after (calls : List StoreCall) :
    let s := after {} calls
    s.Indexed ∧
    (s.rows.map (·.property)).Nodup ∧
    (∀ name, s.findByName? name = s.rows.find? (·.property = name)) ∧
    (∀ id, s.findById? id = s.rows.find? (·.id = id)) ∧
    idsGiven {} calls = List.range s.nextId ∧
    (∀ id p r t, s.findById? id = some r → r.hidden = false → (r.patch p).hidden = true →
      s.update id p = .ok t → t.visibleCount + 1 = s.visibleCount) ∧
    ∀ call, ((∃ e, (s.carryOut call).2 = .error e) ↔ s.Refuses call) ∧
      (s.Refuses call → (s.carryOut call).1 = s) := by
  intro s
  obtain ⟨hidx, n, hids, hnext⟩ := indexed_empty.after calls
  have hnext : s.nextId = n := by simpa using hnext
  refine ⟨hidx, hidx.properties_nodup, hidx.findByName?_eq_find?, hidx.findById?_eq_find?, ?_, ?_,
    fun call => ⟨hidx.carryOut_error_iff call, fun hr => ?_⟩⟩
  · rw [hnext, List.range_eq_range', hids]
  · intro id p r t hr hvisible hhides hu
    exact hidx.visibleCount_update_of_hides hr hvisible hhides hu
  · obtain ⟨e, he⟩ := hidx.carryOut_of_refuses hr
    rw [he]

end RowStore

end PropertySheet
