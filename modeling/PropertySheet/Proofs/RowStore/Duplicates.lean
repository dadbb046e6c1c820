import PropertySheet.Proofs.RowStore.Unsaved

/-!
# What a store says of a repeated name

Two calls refuse a name that is there already, and each has its own search for it. An addition looks
the name up among the rows; a replacement goes through the new list before any of it is a row. Both
answer with the name and a flag. The flag is to say whether the row that holds the name is hidden,
so that whoever asked knows to show it again.

An addition says so. A replacement names the first name that repeats (`firstRepeat_eq_some_iff`),
but the flag is that of the row it refuses, whereas the name is held by a row before it.
`duplicate_flags` puts both together, and says that a replacement is right exactly if the two rows
agree in the flag.
-/

namespace PropertySheet

namespace RowStore

variable {s : RowStore} {rows : List NewRow} {holder repeated r : NewRow}

/-! ## The first repeat of a list -/

/-- The first row of a list whose name occurred before it, and the row in which it occurred. -/
structure FirstRepeat (rows : List NewRow) (holder repeated : NewRow) : Prop where
  name_eq : repeated.property = holder.property
  split : ∃ before rest, rows = before ++ repeated :: rest ∧
    (before.map (·.property)).Nodup ∧ holder ∈ before

/-- The search passes rows of names that differ, and stops at the next one if its name is among
them. -/
theorem firstRepeat_append {seen : List String} {before : List NewRow} (rest : List NewRow)
    (hnodup : (before.map (·.property)).Nodup) (hnew : ∀ b ∈ before, b.property ∉ seen)
    (hrepeats : r.property ∈ before.map (·.property) ∨ r.property ∈ seen) :
    firstRepeat seen (before ++ r :: rest) = some r := by
  induction before generalizing seen with
  | nil =>
    have hseen : r.property ∈ seen := by simpa using hrepeats
    rw [List.nil_append, firstRepeat, if_pos hseen]
  | cons b before ih =>
    obtain ⟨hb, hnodup⟩ := List.nodup_cons.mp hnodup
    rw [List.cons_append, firstRepeat, if_neg (hnew b List.mem_cons_self)]
    refine ih hnodup (fun b' hb' => ?_) ?_
    · rw [List.mem_cons, not_or]
      refine ⟨fun hname => hb ?_, hnew b' (List.mem_cons_of_mem _ hb')⟩
      exact List.mem_map.mpr ⟨b', hb', hname⟩
    · rw [List.map_cons, List.mem_cons] at hrepeats
      rw [List.mem_cons]
      tauto

theorem firstRepeat_eq_some_iff :
    firstRepeat [] rows = some repeated ↔ ∃ holder, FirstRepeat rows holder repeated := by
  constructor
  · intro h
    obtain ⟨before, rest, hrows, hnodup, -, hrepeats⟩ := exists_of_firstRepeat h
    rcases hrepeats with hseen | hbefore
    · cases hseen
    · obtain ⟨holder, hholder, hname⟩ := List.mem_map.mp hbefore
      exact ⟨holder, hname.symm, before, rest, hrows, hnodup, hholder⟩
  · rintro ⟨holder, hname, before, rest, rfl, hnodup, hholder⟩
    refine firstRepeat_append rest hnodup (fun _ _ => List.not_mem_nil) (.inl ?_)
    exact hname ▸ List.mem_map_of_mem hholder

/-! ## What the two calls answer -/

/-- A replacement is refused with the name of the first repeat and the flag of the row refused. -/
theorem carryOut_replaceAll_of_firstRepeat (s : RowStore) (h : FirstRepeat rows holder repeated) :
    (s.carryOut (.replaceAll rows)).2 =
      .error (.duplicateProperty holder.property repeated.hidden) := by
  rw [carryOut, replaceEach, firstRepeat_eq_some_iff.mpr ⟨holder, h⟩, ← h.name_eq]

/-- A replacement that is refused has a first repeat. -/
theorem exists_firstRepeat_of_error {e : Failure}
    (h : (s.carryOut (.replaceAll rows)).2 = .error e) :
    ∃ holder repeated, FirstRepeat rows holder repeated := by
  cases hrepeat : firstRepeat [] rows with
  | some r =>
    obtain ⟨holder, hfirst⟩ := firstRepeat_eq_some_iff.mp hrepeat
    exact ⟨holder, r, hfirst⟩
  | none =>
    obtain ⟨t, ht, -⟩ := exists_replaceAll s (firstRepeat_eq_none_iff.mp hrepeat).1
    rw [carryOut, replaceEach_eq, ht] at h
    cases h

/-- An addition is refused with the name and the flag of the row that has the name. -/
theorem Indexed.exists_row_of_error (h : s.Indexed) {e : Failure}
    (he : (s.carryOut (.add r)).2 = .error e) :
    ∃ row ∈ s.rows, row.property = r.property ∧
      e = .duplicateProperty row.property row.hidden := by
  obtain ⟨row, hrow, hname⟩ := (h.carryOut_error_iff (.add r)).mp ⟨e, he⟩
  have hfound := h.findByName?_eq_some_iff.mpr ⟨hrow, hname⟩
  refine ⟨row, hrow, hname, ?_⟩
  rw [RowStore.carryOut, RowStore.add, RowStore.insert, hfound] at he
  rw [hname]
  exact (Except.error.inj he).symm

/-- In every store that calls lead to: a refused addition is told the name and the flag of the row
that holds the name. A refused replacement is told the first name of its list that repeats; the flag
is that of the row that repeats it, so it is the flag of the row that holds the name exactly if both
have the same. -/
theorem duplicate_flags (h : s.Reached) :
    (∀ r e, (s.carryOut (.add r)).2 = .error e →
      ∃ row ∈ s.rows, row.property = r.property ∧
        e = .duplicateProperty row.property row.hidden) ∧
    ∀ rows, (∀ e, (s.carryOut (.replaceAll rows)).2 = .error e →
        ∃ holder repeated, FirstRepeat rows holder repeated ∧
          e = .duplicateProperty holder.property repeated.hidden) ∧
      ∀ holder repeated, FirstRepeat rows holder repeated →
        ((s.carryOut (.replaceAll rows)).2 =
            .error (.duplicateProperty holder.property holder.hidden) ↔
          repeated.hidden = holder.hidden) := by
  refine ⟨fun r e he => h.indexed.exists_row_of_error he, fun rows => ⟨fun e he => ?_, ?_⟩⟩
  · obtain ⟨holder, repeated, hfirst⟩ := exists_firstRepeat_of_error he
    have hrefused := s.carryOut_replaceAll_of_firstRepeat hfirst
    exact ⟨holder, repeated, hfirst, Except.error.inj (he.symm.trans hrefused)⟩
  · intro holder repeated hfirst
    rw [s.carryOut_replaceAll_of_firstRepeat hfirst]
    simp

/-- A name is refused that a hidden row has, and a list in which a visible row repeats the name of a
visible one behind a hidden row. -/
theorem duplicate_flags_editingCalls :
    let s := after {} editingCalls
    let rows : List NewRow := [
      { NewRow.loaded "a" "a" none .optional with hidden := true },
      .loaded "b" "b" none .optional,
      .loaded "b" "b" (some "1") .optional]
    s.Reached ∧
    (∃ row ∈ s.rows, row.property = "extra" ∧
      Failure.duplicateProperty "extra" true = .duplicateProperty row.property row.hidden) ∧
    (s.carryOut (.replaceAll rows)).2 = .error (.duplicateProperty "b" false) := by
  intro s rows
  have hreached : s.Reached := Reached.new.after editingCalls
  have hfirst : FirstRepeat rows (.loaded "b" "b" none .optional)
      (.loaded "b" "b" (some "1") .optional) :=
    ⟨rfl, rows.take 2, [], rfl, by decide, by decide⟩
  obtain ⟨hadd, hreplace⟩ := duplicate_flags hreached
  refine ⟨hreached, hadd (.loaded "extra" "extra" none .userDefined) _ (by decide +kernel), ?_⟩
  exact ((hreplace rows).2 _ _ hfirst).mpr rfl

/-- A hidden row repeats the name of a visible one. The store answers that the name belongs to a
hidden row. -/
theorem not_duplicate_flags_hiddenRepeat :
    let holder : NewRow := .loaded "a" "a" none .optional
    let repeated : NewRow := { holder with hidden := true }
    FirstRepeat [holder, repeated] holder repeated ∧
    (carryOut {} (.replaceAll [holder, repeated])).2 ≠
      .error (.duplicateProperty holder.property holder.hidden) := by
  intro holder repeated
  exact ⟨⟨rfl, [holder], [], rfl, by decide, by decide⟩, by decide⟩

end RowStore

end PropertySheet
