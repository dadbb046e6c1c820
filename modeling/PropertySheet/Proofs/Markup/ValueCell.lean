import PropertySheet.Markup

/-!
# What a value cell tells of its value

A value is absent, empty or some text, and these three are never to be taken for one another; of a
secret only that it is set may be told. `TellsApart` says when a cell keeps to that.

The cell resolves a value in steps: absent, secret, display name of an allowable value, empty. The
last step looks at what the step before it found and not at the value. So a cell keeps to the rule
unless the value is an allowable one that came without a display name (`tellsApart_iff`). Of such a
value the cell says that it is empty.
-/

namespace PropertySheet

namespace Markup

variable {r : Row} {d : Option Descriptor}

/-! ## The steps -/

/-- The text that stands for a value which is no secret: the display name of the allowable value
that it is, or the value itself. -/
def shownText (d : Option Descriptor) (value : String) : String :=
  ((d.bind (·.findChoice? value)).map (·.displayName)).getD value

theorem valueText_of_none (h : r.value = none) : valueText r d = (noValueSet, .unset) := by
  rw [valueText, h]

theorem valueText_of_sensitive {value : String} (h : r.value = some value)
    (hd : d.any (·.sensitive) = true) : valueText r d = (sensitiveValueSet, .sensitive) := by
  simp only [valueText, h, hd, if_true]

theorem valueText_of_plain {value : String} (h : r.value = some value)
    (hd : d.any (·.sensitive) = false) :
    valueText r d = if shownText d value = "" then (emptyStringSet, .blank)
      else (shownText d value, .value) := by
  rcases Option.eq_none_or_eq_some (d.bind (·.findChoice? value)) with hnone | ⟨choice, hchoice⟩
  · simp [valueText, h, hd, shownText, hnone]
  · simp [valueText, h, hd, shownText, hchoice]

theorem style_value (r : Row) (d : Option Descriptor) (columns : Nat) :
    (value r d columns).style = (valueText r d).2 := rfl

/-! ## Telling apart -/

/-- A value cell tells an absent value, an empty one and a text apart, and tells of a secret only
that it is set: any other secret would be shown alike. -/
structure TellsApart (r : Row) (d : Option Descriptor) (columns : Nat) : Prop where
  unset : (value r d columns).style = .unset ↔ r.value = none
  sensitive : (value r d columns).style = .sensitive ↔
    r.value.isSome = true ∧ d.any (·.sensitive) = true
  concealed : (value r d columns).style = .sensitive →
    ∀ other, value { r with value := some other } d columns = value r d columns
  blank : (value r d columns).style = .blank → r.value = some ""
  shown : ∀ text, r.value = some text → text ≠ "" → d.any (·.sensitive) = false →
    (value r d columns).style = .value

/-- A value that is not empty is found among the allowable ones, but has no display name there. -/
def ShowsNameless (r : Row) (d : Option Descriptor) : Prop :=
  d.any (·.sensitive) = false ∧ ∃ value choice, r.value = some value ∧ value ≠ "" ∧
    d.bind (·.findChoice? value) = some choice ∧ choice.displayName = ""

/-- A value without a text to stand for it is empty, or an allowable one without a display name. -/
theorem shownText_eq_empty_iff {value : String} :
    shownText d value = "" ↔ (∃ choice, d.bind (·.findChoice? value) = some choice ∧
      choice.displayName = "") ∨ (d.bind (·.findChoice? value) = none ∧ value = "") := by
  rw [shownText]
  cases d.bind (·.findChoice? value) <;> simp

theorem tellsApart_of_none (h : r.value = none) (columns : Nat) : TellsApart r d columns := by
  have hstyle : (value r d columns).style = .unset := by rw [style_value, valueText_of_none h]
  constructor <;> simp [hstyle, h]

theorem tellsApart_of_sensitive {text : String} (h : r.value = some text)
    (hd : d.any (·.sensitive) = true) (columns : Nat) : TellsApart r d columns := by
  have hstyle : (value r d columns).style = .sensitive := by
    rw [style_value, valueText_of_sensitive h hd]
  have hsame : ∀ other, value { r with value := some other } d columns = value r d columns := by
    intro other
    rw [value, value, valueText_of_sensitive (r := { r with value := some other }) rfl hd,
      valueText_of_sensitive h hd]
  constructor <;> simp_all

/-- Of a value that is set and no secret, the cell tells what it is exactly if an empty text stands
for no other value than the empty one. -/
theorem tellsApart_iff_of_plain {text : String} (h : r.value = some text)
    (hd : d.any (·.sensitive) = false) (columns : Nat) :
    TellsApart r d columns ↔ (shownText d text = "" → text = "") := by
  have hstyle : (value r d columns).style =
      if shownText d text = "" then .blank else .value := by
    rw [style_value, valueText_of_plain h hd]
    split <;> rfl
  constructor
  · intro hapart hempty
    have hblank := hapart.blank (by rw [hstyle, if_pos hempty])
    simpa [h] using hblank
  · intro hempty
    by_cases hshown : shownText d text = ""
    · have hblank : (value r d columns).style = .blank := by rw [hstyle, if_pos hshown]
      constructor <;> simp_all
    · have hvalue : (value r d columns).style = .value := by rw [hstyle, if_neg hshown]
      constructor <;> simp_all

/-- For every row, descriptor and width: the cell tells apart an absent value, an empty one, a text
and a secret, and tells nothing of the secret, exactly unless the value is a text that the descriptor
allows under an empty display name. -/
theorem tellsApart_iff (r : Row) (d : Option Descriptor) (columns : Nat) :
    TellsApart r d columns ↔ ¬ ShowsNameless r d := by
  cases h : r.value with
  | none => simp [tellsApart_of_none h, ShowsNameless, h]
  | some text =>
    cases hd : d.any (·.sensitive) with
    | true => simp [tellsApart_of_sensitive h hd, ShowsNameless, hd]
    | false =>
      rw [tellsApart_iff_of_plain h hd, shownText_eq_empty_iff]
      simp only [ShowsNameless, hd, h, Option.some.injEq, true_and, not_exists, not_and]
      constructor
      · rintro hempty _ choice rfl hne hchoice hname
        exact hne (hempty (.inl ⟨choice, hchoice, hname⟩))
      · rintro hnamed (⟨choice, hchoice, hname⟩ | ⟨-, hempty⟩)
        · exact Decidable.byContradiction fun hne => hnamed text choice rfl hne hchoice hname
        · exact hempty

/-- An allowable value for which the backend sent no display name. -/
def namelessDescriptor : Descriptor := { name := "p", allowableValues := some [{ value := "a" }] }

/-- A value of one letter is shown as an empty one. -/
theorem not_tellsApart_namelessChoice :
    ¬ ∀ (r : Row) (d : Option Descriptor) (columns : Nat), TellsApart r d columns := by
  intro h
  have hblank := (h ⟨0, "p", "p", some "a", some "a", .optional, false⟩ namelessDescriptor 40).blank
  exact absurd (hblank (by decide)) (by decide)

end Markup

end PropertySheet
