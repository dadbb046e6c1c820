import PropertySheet.Proofs.Editor.Committing
import PropertySheet.Proofs.Editor.Field

/-!
# Editors that are committed as they opened

An editor need not take a key before it is committed: another editor that opens commits it, and so
does the prompt for a new property. `Displaced` lists the two ways in which the row gets another
value by that, and `commit_onRow_iff` says that there are no others. A field falls back to the
default of a required property that has no value, and a list without an entry of the value opens on
its first one.

Neither can happen again to a row that has taken the value of a commit. Such a value is none only
where there is no default to fall back to, and a list has an entry of all that it commits. So the
row keeps that value however often an editor is opened on it (`reopens_edited`).
-/

namespace PropertySheet

/-! ## Fields -/

/-- The default that a required property falls back to. -/
def Descriptor.fallback? (d : Descriptor) : Option String :=
  if d.required then d.visibleDefault? else none

theorem Descriptor.fallback?_eq_some_iff {d : Descriptor} {v : String} :
    d.fallback? = some v ↔
      d.required = true ∧ d.defaultValue = some v ∧ Text.isBlank (some v) = false := by
  unfold fallback? visibleDefault?
  split
  next hrequired => simp [hrequired, Option.filter_eq_some_iff]
  next hoptional => simp [hoptional]

namespace TextField

/-- A field stands for the value that it was opened on, or for the default where there is none. -/
theorem resolve_load (value : Option String) (sensitive : Bool) (d : Option Descriptor) :
    (load value sensitive).resolve d value =
      value.orElse fun _ => d.bind Descriptor.fallback? := by
  cases value with
  | none =>
    cases d with
    | none => rfl
    | some d =>
      show (if d.required then d.visibleDefault?.orElse fun _ => none else none) = d.fallback?
      simp [Descriptor.fallback?]
  | some v =>
    cases sensitive with
    | true => rfl
    | false =>
      show (withContent v.toList v.isEmpty false).resolve d (some v) = some v
      by_cases hempty : v = ""
      · rw [hempty]
        rfl
      · simp [resolve, withContent, text, hempty]

/-- A field that stands for no value where there was one has no default to fall back to. -/
theorem fallback?_of_resolve_eq_none {f : TextField} {d : Option Descriptor}
    {previous : Option String} (h : f.resolve d previous = none) (hprevious : previous ≠ none) :
    d.bind Descriptor.fallback? = none := by
  unfold resolve at h
  split at h
  · split at h
    · cases h
    · cases d with
      | none => rfl
      | some d =>
        dsimp only at h
        show d.fallback? = none
        unfold Descriptor.fallback?
        split at h
        next hrequired =>
          rw [if_pos hrequired]
          cases hdefault : d.visibleDefault? with
          | none => rfl
          | some v =>
            rw [hdefault] at h
            cases h
        next hoptional => rw [if_neg hoptional]
  · split at h
    · exact absurd h hprevious
    · cases h

theorem text_load (value : Option String) : (load value false).text = value.getD "" := by
  cases value with
  | none => rfl
  | some v => exact String.ofList_toList

theorem emptyRequested_load (value : Option String) :
    (load value false).emptyRequested = true ↔ value = some "" := by
  cases value with
  | none => simp [load, withContent]
  | some v => simp [load, withContent]

end TextField

/-! ## Commits without any key -/

/-- The value that an editor puts in place of that of its row if it is committed as it opened. -/
inductive Row.Displaced (r : Row) : Option Descriptor → Option String → Prop
  /-- The field of a required property without a value falls back to the visible default. -/
  | byDefault {d : Descriptor} {v : String} :
      EditorKind.ofDescriptor (some d) ≠ .choice → r.value = none → d.required = true →
      d.defaultValue = some v → Text.isBlank (some v) = false → r.Displaced (some d) (some v)
  /-- A list without an entry of the value opens on its first one. An empty text in place of none is
  no change. -/
  | byFirst {d : Descriptor} {first : ChoiceEntry} {v : Option String} :
      EditorKind.ofDescriptor (some d) = .choice →
      (∀ e ∈ ChoiceList.entriesOf d r.previousValue, e.value ≠ .value r.value) →
      (ChoiceList.entriesOf d r.previousValue).head? = some first → first.value = .value v →
      ¬ (r.value = none ∧ v = some "") → r.Displaced (some d) v

theorem EditorKind.ofDescriptor_eq_choice_iff {d : Descriptor} :
    ofDescriptor (some d) = .choice ↔ d.isChoice = true := by
  show (if d.isChoice then EditorKind.choice else if d.supportsExpressions then .expression
    else .plain) = .choice ↔ _
  cases d.isChoice with
  | true => simp
  | false => cases d.supportsExpressions <;> simp

variable {r : Row} {d : Option Descriptor} {v : Option String}

theorem Row.displaced_iff_of_field (hfield : EditorKind.ofDescriptor d ≠ .choice) :
    r.Displaced d v ↔ r.value = none ∧ v ≠ none ∧ d.bind Descriptor.fallback? = v := by
  constructor
  · intro h
    cases h with
    | byDefault _ hunset hrequired hdefault hvisible =>
      exact ⟨hunset, by simp,
        Descriptor.fallback?_eq_some_iff.mpr ⟨hrequired, hdefault, hvisible⟩⟩
    | byFirst hlist => exact absurd hlist hfield
  · rintro ⟨hunset, hset, hfallback⟩
    obtain ⟨w, rfl⟩ := Option.ne_none_iff_exists'.mp hset
    obtain ⟨d, rfl, hd⟩ := Option.bind_eq_some_iff.mp hfallback
    obtain ⟨hrequired, hdefault, hvisible⟩ := Descriptor.fallback?_eq_some_iff.mp hd
    exact .byDefault hfield hunset hrequired hdefault hvisible

theorem Row.displaced_iff_of_list {d : Descriptor} (hlist : d.isChoice = true) :
    r.Displaced (some d) v ↔
      ¬ d.Lists r.value ∧ d.firstListed = v ∧ ¬ (r.value = none ∧ v = some "") := by
  have hkind := EditorKind.ofDescriptor_eq_choice_iff.mpr hlist
  have hlists : d.Lists r.value ↔
      ∃ e ∈ ChoiceList.entriesOf d r.previousValue, e.value = .value r.value :=
    ChoiceList.lists_iff
  have hhead : (ChoiceList.entriesOf d r.previousValue).head?.map ChoiceEntry.value =
      some (.value d.firstListed) := by
    rw [List.head?_eq_getElem?]
    exact ChoiceList.value_head_entriesOf
  constructor
  · intro h
    cases h with
    | byDefault hfield => exact absurd hkind hfield
    | byFirst _ hmissing hfirst hvalue hchange =>
      rw [hfirst, Option.map_some, hvalue] at hhead
      refine ⟨fun h => ?_, ?_, hchange⟩
      · obtain ⟨e, he, hsame⟩ := hlists.mp h
        exact hmissing e he hsame
      · cases hhead
        rfl
  · rintro ⟨hmissing, rfl, hchange⟩
    obtain ⟨first, hfirst, hvalue⟩ := Option.map_eq_some_iff.mp hhead
    exact .byFirst hkind (fun e he hsame => hmissing (hlists.mpr ⟨e, he, hsame⟩)) hfirst hvalue
      hchange

namespace CellEditor

theorem commit_onRow_of_field (hfield : EditorKind.ofDescriptor d ≠ .choice) (anchor : Rect) :
    (onRow r d anchor).commit = ⟨r.value.orElse fun _ => d.bind Descriptor.fallback?,
      (r.value.orElse fun _ => d.bind Descriptor.fallback?) ≠ r.value⟩ := by
  rw [← TextField.resolve_load r.value (d.any (·.sensitive)) d]
  exact commit_of_field? (field?_onRow r hfield anchor)

theorem commit_onRow_of_list {d : Descriptor} (hlist : d.isChoice = true) (anchor : Rect) :
    (onRow r (some d) anchor).commit = ⟨if d.Lists r.value then r.value else d.firstListed,
      ¬ d.Lists r.value ∧ ¬ (r.value = none ∧ d.firstListed = some "")⟩ := by
  have hvalue : (onRow r (some d) anchor).commit.value =
      if d.Lists r.value then r.value else d.firstListed := value_onRow r anchor hlist
  have hdirty := (commit_typing r anchor hlist []).2
  change (onRow r (some d) anchor).commit.dirty = true ↔
    (onRow r (some d) anchor).commit.value ≠ r.value ∧
      ¬ ((onRow r (some d) anchor).commit.value = some "" ∧ r.value = none) at hdirty
  rw [hvalue] at hdirty
  have hsame : (onRow r (some d) anchor).commit.dirty =
      decide (¬ d.Lists r.value ∧ ¬ (r.value = none ∧ d.firstListed = some "")) := by
    rw [Bool.eq_iff_iff, hdirty, decide_eq_true_eq]
    by_cases hlists : d.Lists r.value
    · simp [hlists]
    · -- the list has the value of its first entry, so that this is another one
      have hother : d.firstListed ≠ r.value := fun hsame => hlists (hsame ▸ d.lists_firstListed)
      simp [hlists, hother, and_comm]
  rw [← hvalue, ← hsame]

/-- An editor that is committed as it opened changes its row to a value exactly if it displaces that
of the row by it. -/
theorem commit_onRow_iff (r : Row) (d : Option Descriptor) (anchor : Rect) (v : Option String) :
    (onRow r d anchor).commit = ⟨v, true⟩ ↔ r.Displaced d v := by
  by_cases hkind : EditorKind.ofDescriptor d = .choice
  · cases d with
    | none => cases hkind
    | some d =>
      have hlist := EditorKind.ofDescriptor_eq_choice_iff.mp hkind
      rw [Row.displaced_iff_of_list hlist, commit_onRow_of_list hlist, EditorCommit.mk.injEq,
        decide_eq_true_eq]
      by_cases hlists : d.Lists r.value
      · simp [hlists]
      · rw [if_neg hlists]
        constructor
        · rintro ⟨rfl, -, hchange⟩
          exact ⟨hlists, rfl, hchange⟩
        · rintro ⟨-, rfl, hchange⟩
          exact ⟨rfl, hlists, hchange⟩
  · rw [Row.displaced_iff_of_field hkind, commit_onRow_of_field hkind, EditorCommit.mk.injEq]
    cases r.value with
    | none =>
      show d.bind Descriptor.fallback? = v ∧ decide (d.bind Descriptor.fallback? ≠ none) = true ↔ _
      rw [decide_eq_true_eq]
      constructor
      · rintro ⟨rfl, hset⟩
        exact ⟨rfl, hset, rfl⟩
      · rintro ⟨-, hset, rfl⟩
        exact ⟨rfl, hset⟩
    | some w => simp

/-- A field never displaces a value, be it a secret or the empty text. -/
theorem commit_onRow_of_isSome (hfield : EditorKind.ofDescriptor d ≠ .choice)
    (hset : r.value.isSome) (anchor : Rect) : (onRow r d anchor).commit = ⟨r.value, false⟩ := by
  obtain ⟨w, hw⟩ := Option.isSome_iff_exists.mp hset
  rw [commit_onRow_of_field hfield, hw]
  simp

end CellEditor

/-! ## Rows that were edited -/

/-- A row after an editor on it has taken keys and was committed. -/
def Row.edited (r : Row) (d : Option Descriptor) (anchor : Rect) (keys : List Key) : Row :=
  let c := ((CellEditor.onRow r d anchor).typing keys).commit
  if c.dirty then { r with value := c.value } else r

/-- A row after one edit after the other, each with its keys. -/
def Row.editedBy (r : Row) (d : Option Descriptor) (edits : List (Rect × List Key)) : Row :=
  edits.foldl (fun r edit => r.edited d edit.1 edit.2) r

/-- What an editor shows of a row that keeps a value: to commit it without any key is no change, and
a field whose value is no secret has the text of the value, and its box tells the empty text from
none. -/
structure Row.Reopens (r : Row) (d : Option Descriptor) (value : Option String) : Prop where
  commit (anchor : Rect) : (CellEditor.onRow r d anchor).commit = ⟨value, false⟩
  text {anchor : Rect} {f : TextField} (hfield : (CellEditor.onRow r d anchor).body.field? = some f)
    (hplain : d.any (·.sensitive) = false) : f.text = value.getD ""
  emptyRequested {anchor : Rect} {f : TextField}
    (hfield : (CellEditor.onRow r d anchor).body.field? = some f)
    (hplain : d.any (·.sensitive) = false) : f.emptyRequested = true ↔ value = some ""

namespace Row

theorem edited_of_dirty {anchor : Rect} {keys : List Key}
    (hdirty : ((CellEditor.onRow r d anchor).typing keys).commit.dirty = true) :
    r.edited d anchor keys =
      { r with value := ((CellEditor.onRow r d anchor).typing keys).commit.value } :=
  if_pos hdirty

theorem edited_of_not_dirty {anchor : Rect} {keys : List Key}
    (hsame : ((CellEditor.onRow r d anchor).typing keys).commit.dirty = false) :
    r.edited d anchor keys = r :=
  if_neg (by rw [hsame]; exact Bool.false_ne_true)

theorem edited_nil_of_displaced {anchor : Rect} (h : r.Displaced d v) :
    r.edited d anchor [] = { r with value := v } := by
  have hcommit : ((CellEditor.onRow r d anchor).typing []).commit = ⟨v, true⟩ :=
    (CellEditor.commit_onRow_iff r d anchor v).mpr h
  rw [edited_of_dirty (by rw [hcommit]), hcommit]

theorem edited_nil_of_not_displaced {anchor : Rect} (h : ∀ v, ¬ r.Displaced d v) :
    r.edited d anchor [] = r := by
  refine edited_of_not_dirty (Bool.eq_false_iff.mpr fun hdirty => ?_)
  exact h _ ((CellEditor.commit_onRow_iff r d anchor _).mp (by rw [← hdirty]; rfl))

/-- What a field shows follows from the value that it opens on, so that only the commit is left. -/
theorem reopens_of_commit (h : ∀ anchor, (CellEditor.onRow r d anchor).commit = ⟨r.value, false⟩) :
    r.Reopens d r.value := by
  have hload : ∀ {anchor f}, (CellEditor.onRow r d anchor).body.field? = some f →
      d.any (·.sensitive) = false → f = .load r.value false := by
    intro anchor f hfield hplain
    have hkind : EditorKind.ofDescriptor d ≠ .choice := by
      intro hlist
      cases d with
      | none => cases hlist
      | some d =>
        rw [CellEditor.body_onRow_choice r anchor
          (EditorKind.ofDescriptor_eq_choice_iff.mp hlist)] at hfield
        cases hfield
    rw [CellEditor.field?_onRow r hkind, hplain] at hfield
    exact (Option.some.inj hfield).symm
  exact {
    commit := h
    text := fun hfield hplain => hload hfield hplain ▸ TextField.text_load r.value
    emptyRequested := fun hfield hplain =>
      hload hfield hplain ▸ TextField.emptyRequested_load r.value }

/-- A row that has taken the value of a commit keeps it. -/
theorem reopens_edited {anchor : Rect} {keys : List Key}
    (hdirty : ((CellEditor.onRow r d anchor).typing keys).commit.dirty = true) :
    (r.edited d anchor keys).Reopens d
      ((CellEditor.onRow r d anchor).typing keys).commit.value := by
  rw [edited_of_dirty hdirty]
  refine reopens_of_commit (r := { r with value := _ }) fun anchor' => ?_
  by_cases hkind : EditorKind.ofDescriptor d = .choice
  · cases d with
    | none => cases hkind
    | some d =>
      have hlist := EditorKind.ofDescriptor_eq_choice_iff.mp hkind
      -- a list has entries of all that it commits
      have hlisted : d.Lists ((CellEditor.onRow r (some d) anchor).typing keys).commit.value := by
        rcases (CellEditor.commit_typing r anchor hlist keys).1 with hopen | hoffered
        · rw [hopen, CellEditor.value_onRow r anchor hlist]
          split
          next hlists => exact hlists
          · exact d.lists_firstListed
        · exact hoffered.lists
      generalize ((CellEditor.onRow r (some d) anchor).typing keys).commit.value = v at hlisted ⊢
      rw [CellEditor.commit_onRow_of_list hlist]
      simp [hlisted]
  · obtain ⟨f, -, -, hcommit⟩ := CellEditor.commit_typing_of_field r hkind anchor keys
    rw [hcommit] at hdirty ⊢
    have hother : f.resolve d r.value ≠ r.value := of_decide_eq_true hdirty
    rw [CellEditor.commit_onRow_of_field hkind]
    dsimp only
    cases hv : f.resolve d r.value with
    | none =>
      -- a default would have been committed in place of none
      have hnone := TextField.fallback?_of_resolve_eq_none hv (fun h => hother (hv.trans h.symm))
      simp [hnone]
    | some w => simp

/-- What a row keeps, it keeps through any edit. -/
theorem Reopens.edited (h : r.Reopens d r.value) (anchor : Rect) (keys : List Key) :
    (r.edited d anchor keys).Reopens d (r.edited d anchor keys).value := by
  cases hdirty : ((CellEditor.onRow r d anchor).typing keys).commit.dirty with
  | true =>
    have hreopens := reopens_edited hdirty
    rwa [edited_of_dirty hdirty] at hreopens ⊢
  | false => rwa [edited_of_not_dirty hdirty]

theorem Reopens.editedBy (h : r.Reopens d r.value) (edits : List (Rect × List Key)) :
    (r.editedBy d edits).Reopens d (r.editedBy d edits).value := by
  induction edits generalizing r with
  | nil => exact h
  | cons edit edits ih => exact ih (h.edited edit.1 edit.2)

end Row

end PropertySheet
