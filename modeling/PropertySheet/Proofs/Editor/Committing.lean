import PropertySheet.Proofs.Editor.Typing

/-!
# What an editor commits

An entry of a list of values is disabled if the user may not choose it: `offers_iff` says which
values have one that is not. Keys select such entries only, so all depends on the value that the
list opens on (`commit_typing`). That is the value of the row where the list has it. Where it does
not, the list opens on its first entry, whether or not that one is disabled, and a commit without
any move stores it.

So the values that a list of choices commits are offered unless the first entry stands in for a
value that is gone (`commits_offered_iff`). A required property keeps a value in every field, and in
a list as long as there is anything to choose (`commit_isSome_iff`).
-/

namespace PropertySheet

/-! ## Values to choose -/

namespace Descriptor

/-- The values that the user may choose: none at all if none is required, and what the user may read
or the property had at load time. -/
def Offers (d : Descriptor) (loadValue : Option String) : Option String → Prop
  | none => d.required = false
  | some v => ∃ a ∈ d.choices, a.value = v ∧ (a.isReadable ∨ some v = loadValue)

/-- The values that have an entry, be it disabled. -/
def Lists (d : Descriptor) : Option String → Prop
  | none => d.required = false ∨ d.choices = []
  | some v => ∃ a ∈ d.choices, a.value = v

/-- The value of the first entry. -/
def firstListed (d : Descriptor) : Option String :=
  if d.required then d.choices.head?.map AllowableValue.value else none

variable {d : Descriptor}

instance : DecidablePred d.Lists
  | none => inferInstanceAs (Decidable (_ ∨ _))
  | some v => inferInstanceAs (Decidable (∃ a ∈ d.choices, a.value = v))

instance (loadValue : Option String) : DecidablePred (d.Offers loadValue)
  | none => inferInstanceAs (Decidable (_ = _))
  | some v =>
    inferInstanceAs (Decidable (∃ a ∈ d.choices, a.value = v ∧ (a.isReadable ∨ some v = loadValue)))

theorem lists_firstListed (d : Descriptor) : d.Lists d.firstListed := by
  unfold firstListed
  split
  · cases hchoices : d.choices with
    | nil => exact .inr hchoices
    | cons a rest => exact ⟨a, by simp [hchoices], rfl⟩
  next hoptional => exact .inl (by simpa using hoptional)

theorem isSome_firstListed (hrequired : d.required = true) :
    d.firstListed.isSome ↔ d.choices ≠ [] := by
  unfold firstListed
  rw [if_pos hrequired]
  cases d.choices with
  | nil => simp
  | cons a rest => simp

/-- A value other than none is one of some choices. -/
theorem Lists.choices_ne_nil {value : Option String} (h : d.Lists value) (hset : value.isSome) :
    d.choices ≠ [] := by
  obtain ⟨v, rfl⟩ := Option.isSome_iff_exists.mp hset
  obtain ⟨a, ha, -⟩ := h
  exact List.ne_nil_of_mem ha

theorem Offers.lists {loadValue value : Option String} (h : d.Offers loadValue value) :
    d.Lists value := by
  cases value with
  | none => exact .inl h
  | some v =>
    obtain ⟨a, ha, hvalue, -⟩ := h
    exact ⟨a, ha, hvalue⟩

theorem Offers.isSome {loadValue value : Option String} (h : d.Offers loadValue value)
    (hrequired : d.required = true) : value.isSome := by
  cases value with
  | none => cases hrequired.symm.trans h
  | some v => rfl

end Descriptor

namespace ChoiceList

variable {d : Descriptor} {loadValue value : Option String}

/-- The entries of a list. The one that is disabled by itself is there if nothing else is. -/
theorem mem_entriesOf {e : ChoiceEntry} :
    e ∈ entriesOf d loadValue ↔
      (d.required = false ∧ e = unsetEntry false) ∨
      (∃ a ∈ d.choices, allowableEntry loadValue a = e) ∨
      (d.required = true ∧ d.choices = [] ∧ e = unsetEntry true) ∨
      (d.serviceType.isSome ∧ e = createEntry) := by
  unfold entriesOf
  cases hrequired : d.required with
  | false => simp
  | true =>
    by_cases hempty : d.choices = []
    · simp [hempty]
    · simp [hempty]

/-- A value may be chosen if the user may read it, or if the property had it. -/
theorem enabled_allowableEntry (a : AllowableValue) :
    (allowableEntry loadValue a).disabled = false ↔ a.isReadable ∨ some a.value = loadValue := by
  show (!a.isReadable && decide (some a.value ≠ loadValue)) = false ↔ _
  rw [Bool.and_eq_false_iff, Bool.not_eq_false', decide_eq_false_iff_not, ne_eq,
    Decidable.not_not]

/-- A list has the entries of the values that its descriptor lists. -/
theorem lists_iff : d.Lists value ↔ ∃ e ∈ entriesOf d loadValue, e.value = .value value := by
  simp only [mem_entriesOf]
  constructor
  · intro h
    cases value with
    | none =>
      cases hrequired : d.required with
      | false => exact ⟨_, .inl ⟨rfl, rfl⟩, rfl⟩
      | true =>
        have hempty : d.choices = [] := by simpa [Descriptor.Lists, hrequired] using h
        exact ⟨_, .inr (.inr (.inl ⟨rfl, hempty, rfl⟩)), rfl⟩
    | some v =>
      obtain ⟨a, ha, rfl⟩ := h
      exact ⟨_, .inr (.inl ⟨a, ha, rfl⟩), rfl⟩
  · rintro ⟨e, ⟨hoptional, rfl⟩ | ⟨a, ha, rfl⟩ | ⟨-, hempty, rfl⟩ | ⟨-, rfl⟩, hvalue⟩
    · cases hvalue
      exact .inl hoptional
    · cases hvalue
      exact ⟨a, ha, rfl⟩
    · cases hvalue
      exact .inr hempty
    · cases hvalue

/-- The values that a descriptor offers are those of the entries that are not disabled. -/
theorem offers_iff : d.Offers loadValue value ↔
    ∃ e ∈ entriesOf d loadValue, e.value = .value value ∧ e.disabled = false := by
  simp only [mem_entriesOf]
  constructor
  · intro h
    cases value with
    | none => exact ⟨_, .inl ⟨h, rfl⟩, rfl, rfl⟩
    | some v =>
      obtain ⟨a, ha, rfl, hchosen⟩ := h
      exact ⟨_, .inr (.inl ⟨a, ha, rfl⟩), rfl, (enabled_allowableEntry a).mpr hchosen⟩
  · rintro ⟨e, ⟨hoptional, rfl⟩ | ⟨a, ha, rfl⟩ | ⟨-, -, rfl⟩ | ⟨-, rfl⟩, hvalue, henabled⟩
    · cases hvalue
      exact hoptional
    · cases hvalue
      exact ⟨a, ha, rfl, (enabled_allowableEntry a).mp henabled⟩
    · cases henabled
    · cases hvalue

/-- The first entry is one of a value. -/
theorem value_head_entriesOf :
    (entriesOf d loadValue)[0]?.map ChoiceEntry.value = some (.value d.firstListed) := by
  unfold entriesOf Descriptor.firstListed
  cases hrequired : d.required with
  | false => rfl
  | true =>
    cases d.choices with
    | nil => rfl
    | cons a rest => rfl

/-- The place of a value is that of an entry of it, if there is one. -/
theorem value_placeOf {entries : List ChoiceEntry} (h : ∃ e ∈ entries, e.value = .value value) :
    entries[placeOf entries value]?.map ChoiceEntry.value = some (.value value) := by
  obtain ⟨e, he, hvalue⟩ := h
  unfold placeOf
  cases hplace : entries.findIdx? (·.value = .value value) with
  | none =>
    have habsent := List.findIdx?_eq_none_iff.mp hplace e he
    simp [hvalue] at habsent
  | some place =>
    obtain ⟨hlt, hfound, -⟩ := List.findIdx?_eq_some_iff_getElem.mp hplace
    show entries[place]?.map ChoiceEntry.value = _
    rw [List.getElem?_eq_getElem hlt]
    simpa using hfound

/-- A value without an entry has the first place. -/
theorem placeOf_eq_zero {entries : List ChoiceEntry}
    (h : ¬ ∃ e ∈ entries, e.value = .value value) : placeOf entries value = 0 := by
  have habsent : entries.findIdx? (·.value = .value value) = none := by
    refine List.findIdx?_eq_none_iff.mpr fun e he => ?_
    simp only [decide_eq_false_iff_not]
    intro hvalue
    exact h ⟨e, he, hvalue⟩
  rw [placeOf, habsent]
  rfl

/-- A list opens on the entry of its value if it has that, and on its first entry otherwise. -/
theorem valueAt_selected_load : (load d value loadValue).valueAt (load d value loadValue).selected =
    some (.value (if d.Lists value then value else d.firstListed)) := by
  show (entriesOf d loadValue)[placeOf (entriesOf d loadValue) value]?.map _ = _
  split
  next hlists => exact value_placeOf (lists_iff.mp hlists)
  next hmissing =>
    rw [placeOf_eq_zero fun h => hmissing (lists_iff.mpr h)]
    exact value_head_entriesOf

/-- A list opens on its value if it has that, and on the one of its first entry otherwise. -/
theorem selectedValue_load : (load d value loadValue).selectedValue =
    if d.Lists value then value else d.firstListed := by
  simp only [selectedValue, valueAt_selected_load]

/-- A commit changes the value if another one is selected, except for an empty text in place of
none. -/
theorem isChanged_iff (l : ChoiceList) : l.isChanged = true ↔
    l.selectedValue ≠ l.initialValue ∧
      ¬ (l.selectedValue = some "" ∧ l.initialValue = none) := by
  unfold isChanged
  cases l.initialValue with
  | none => simp [and_comm]
  | some v => simp

end ChoiceList

/-! ## Commits -/

/-- A required property with a value has one for every content of a field. -/
theorem TextField.resolve_isSome (f : TextField) {d : Descriptor} {previous : Option String}
    (hrequired : d.required = true) (hprevious : previous.isSome) :
    (f.resolve (some d) previous).isSome := by
  unfold TextField.resolve
  split
  · split
    · rfl
    · simp [hrequired, hprevious]
  · split
    · exact hprevious
    · rfl

namespace CellEditor

variable {d : Descriptor} (r : Row) (anchor : Rect)

theorem body_onRow_choice (hchoice : d.isChoice = true) :
    (onRow r (some d) anchor).body = .choice (.load d r.value r.previousValue) := by
  show bodyFor r (some d) = _
  simp [bodyFor, EditorKind.ofDescriptor, hchoice]

theorem body_onRow_field (hfree : d.isChoice = false) :
    ∃ f, (onRow r (some d) anchor).body = .plain f ∨
      (onRow r (some d) anchor).body = .expression f := by
  show ∃ f, bodyFor r (some d) = _ ∨ bodyFor r (some d) = _
  cases hexpressions : d.supportsExpressions with
  | false => exact ⟨_, .inl (by simp [bodyFor, EditorKind.ofDescriptor, hfree, hexpressions]; rfl)⟩
  | true => exact ⟨_, .inr (by simp [bodyFor, EditorKind.ofDescriptor, hfree, hexpressions]; rfl)⟩

/-- A list opens on the value of the row if it has it, and on its first entry otherwise. -/
theorem value_onRow (hchoice : d.isChoice = true) : (onRow r (some d) anchor).value =
    if d.Lists r.value then r.value else d.firstListed := by
  unfold value
  rw [body_onRow_choice r anchor hchoice]
  exact ChoiceList.selectedValue_load

/-- After any keys a list stands for the value that it opened on or for one that is offered, and a
commit is a change if that value is another one than that of the row. -/
theorem commit_typing (hchoice : d.isChoice = true) (keys : List Key) :
    let c := ((onRow r (some d) anchor).typing keys).commit
    (c.value = (onRow r (some d) anchor).value ∨ d.Offers r.previousValue c.value) ∧
    (c.dirty = true ↔ c.value ≠ r.value ∧ ¬ (c.value = some "" ∧ r.value = none)) := by
  have hbody := body_onRow_choice r anchor hchoice
  obtain ⟨surface, l, htyped, hmoved⟩ := typing_choice hbody keys
  rw [htyped]
  show (l.selectedValue = _ ∨ d.Offers r.previousValue l.selectedValue) ∧ (l.isChanged = true ↔ _)
  constructor
  · rcases hmoved.selected with hkept | ⟨e, he, hvalue, henabled⟩
    · left
      rw [hkept, value, hbody]
    · right
      exact ChoiceList.offers_iff.mpr ⟨e, he, hvalue, henabled⟩
  · rw [l.isChanged_iff, hmoved.initialValue]
    exact Iff.rfl

/-- Whatever is typed in a list, a commit that changes the row stores an offered value: exactly if
the list has the value of the row, or its first entry is offered, or that entry is the empty text and
the row has no value, which is no change. -/
theorem commits_offered_iff (hchoice : d.isChoice = true) :
    (∀ keys : List Key,
      let c := ((onRow r (some d) anchor).typing keys).commit
      c.dirty = true → d.Offers r.previousValue c.value) ↔
    d.Lists r.value ∨ d.Offers r.previousValue d.firstListed ∨
      (d.firstListed = some "" ∧ r.value = none) := by
  constructor
  · intro h
    by_cases hlists : d.Lists r.value
    · exact .inl hlists
    by_cases hempty : d.firstListed = some "" ∧ r.value = none
    · exact .inr (.inr hempty)
    -- no key is needed to commit the first entry
    have hopen : ((onRow r (some d) anchor).typing []).commit.value = d.firstListed :=
      (value_onRow r anchor hchoice).trans (if_neg hlists)
    have hother : d.firstListed ≠ r.value := fun hsame => hlists (hsame ▸ d.lists_firstListed)
    have hdirty : ((onRow r (some d) anchor).typing []).commit.dirty = true := by
      refine (commit_typing r anchor hchoice []).2.mpr ?_
      rw [hopen]
      exact ⟨hother, hempty⟩
    have hoffered := h [] hdirty
    rw [hopen] at hoffered
    exact .inr (.inl hoffered)
  · intro h keys c hdirty
    obtain ⟨hvalue, hchanged⟩ := commit_typing r anchor hchoice keys
    obtain ⟨hother, hnonempty⟩ := hchanged.mp hdirty
    rcases hvalue with hopen | hoffered
    · rw [value_onRow r anchor hchoice] at hopen
      split at hopen
      · exact absurd hopen hother
      next hmissing =>
        rcases h with hlists | hoffered | ⟨hfirst, hunset⟩
        · exact absurd hlists hmissing
        · show d.Offers r.previousValue (CellEditor.commit _).value
          rw [hopen]
          exact hoffered
        · exact absurd ⟨hopen.trans hfirst, hunset⟩ hnonempty
    · exact hoffered

/-- A row of a service, as it is loaded. -/
def serviceRow (value : Option String) : Row :=
  (NewRow.loaded "Cache" "Cache" value .required).withId 0

/-- A property that takes one of two services. The user may not read the first one. -/
def unreadableFirst : Descriptor :=
  { name := "Cache", required := true,
    allowableValues := some [{ value := "svc-1", canRead := some false }, { value := "svc-2" }] }

/-- The property has the service that the user may not read, and may change to the other one. -/
theorem commits_offered_iff_unreadableLoaded :
    let r := serviceRow (some "svc-1")
    unreadableFirst.isChoice = true ∧ unreadableFirst.Lists r.value ∧
    ((onRow r (some unreadableFirst) {}).typing [{ code := .down }]).commit =
      ⟨some "svc-2", true⟩ ∧
    ∀ keys : List Key,
      let c := ((onRow r (some unreadableFirst) {}).typing keys).commit
      c.dirty = true → unreadableFirst.Offers r.previousValue c.value := by
  intro r
  have hlists : unreadableFirst.Lists r.value := by decide
  exact ⟨by decide, hlists, by decide, (commits_offered_iff r {} (by decide)).mpr (.inl hlists)⟩

/-- The property has no service. Without any key the editor commits the one that the user may not
read, and that is a change. -/
theorem not_commits_offered_unsetRow :
    let r := serviceRow none
    let c := ((onRow r (some unreadableFirst) {}).typing []).commit
    unreadableFirst.isChoice = true ∧ c = ⟨some "svc-1", true⟩ ∧
    ¬ unreadableFirst.Offers r.previousValue c.value := by
  decide

/-- Whatever is typed in the editor of a required property that has a value, a commit keeps a value:
exactly if the property does not take its values from an empty list. -/
theorem commit_isSome_iff (hrequired : d.required = true) (hset : r.value.isSome)
    (keys : List Key) :
    ((onRow r (some d) anchor).typing keys).commit.value.isSome ↔ d.allowableValues ≠ some [] := by
  cases hvalues : d.allowableValues with
  | none =>
    have hfree : d.isChoice = false := by simp [Descriptor.isChoice, hvalues]
    obtain ⟨f, hbody⟩ := body_onRow_field r anchor hfree
    obtain ⟨surface, body, htyped, f', hfield⟩ := typing_field hbody keys
    have hvalue : ((onRow r (some d) anchor).typing keys).commit.value =
        f'.resolve (some d) r.value := by
      rw [htyped]
      rcases hfield with rfl | rfl
      · rfl
      · rfl
    simp [hvalue, f'.resolve_isSome hrequired hset]
  | some values =>
    have hchoice : d.isChoice = true := by simp [Descriptor.isChoice, hvalues]
    have hany : some values ≠ some [] ↔ d.choices ≠ [] := by simp [Descriptor.choices, hvalues]
    rw [hany]
    obtain ⟨hvalue, -⟩ := commit_typing r anchor hchoice keys
    rw [value_onRow r anchor hchoice] at hvalue
    generalize ((onRow r (some d) anchor).typing keys).commit.value = c at hvalue ⊢
    rcases hvalue with rfl | hoffered
    · split
      next hlists => exact ⟨fun _ => hlists.choices_ne_nil hset, fun _ => hset⟩
      · exact Descriptor.isSome_firstListed hrequired
    · have hsome : c.isSome := hoffered.isSome hrequired
      exact ⟨fun _ => hoffered.lists.choices_ne_nil hsome, fun _ => hsome⟩

/-- The user clears the field of a required property. The row keeps its value. -/
theorem commit_isSome_iff_clearedField :
    let d : Descriptor := { name := "Cache", required := true }
    let r := serviceRow (some "svc-1")
    let e := (onRow r (some d) {}).typing [{ code := .char 'u', control := true }]
    d.required = true ∧ r.value.isSome ∧ e.body = .plain { TextField.load r.value false with
      chars := [], cursor := 0 } ∧ e.commit.value.isSome := by
  intro d r e
  exact ⟨rfl, rfl, by decide, (commit_isSome_iff r {} (by decide) (by decide) _).mpr (by decide)⟩

/-- A required property has a service, and there is none to choose from any more. Without any key the
editor commits that the property is unset. -/
theorem not_commit_isSome_withoutServices :
    let d : Descriptor := { name := "Cache", required := true, allowableValues := some [] }
    let r := serviceRow (some "svc-1")
    d.required = true ∧ r.value.isSome ∧
    ((onRow r (some d) {}).typing []).commit = ⟨none, true⟩ := by
  decide

end CellEditor

end PropertySheet
