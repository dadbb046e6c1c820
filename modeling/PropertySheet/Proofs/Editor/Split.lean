import PropertySheet.Editor.TextField

/-!
# A text that is split at the cursor

A field keeps its text in one piece and the cursor as a number. `SplitField` keeps the characters
before the cursor and those behind it apart, the nearest ones first, and no number at all: to type is
to put characters onto the one list, to delete is to take one off the other, and to move is to hand
one over. `toField_after` says that both come to the same after any edits.

A secret differs in its first edit only, which starts over with nothing. For that the field compares
its text with the placeholder, and the split one does not: as long as the secret has not been
edited, there is either the placeholder or nothing at all (`Conceals`).
-/

namespace PropertySheet

/-- An edit of a field. -/
inductive TextEdit where
  | insertChar (c : Char)
  | insertText (s : String)
  | backspace
  | delete
  | clear
  | moveLeft
  | moveRight
  | moveHome
  | moveEnd
  | toggleEmpty
  | reset
deriving DecidableEq, Repr

namespace TextField

/-- The field after an edit. -/
def edit (f : TextField) : TextEdit → TextField
  | .insertChar c => f.insert [c]
  | .insertText s => f.insert s.toList
  | .backspace => f.backspace
  | .delete => f.delete
  | .clear => f.clear
  | .moveLeft => f.moveLeft
  | .moveRight => f.moveRight
  | .moveHome => f.moveHome
  | .moveEnd => f.moveEnd
  | .toggleEmpty => f.toggleEmpty
  | .reset => f.reset

/-- The field after edits, the first one first. -/
def after (f : TextField) (edits : List TextEdit) : TextField := edits.foldl edit f

end TextField

/-- A field whose text is split at the cursor. -/
structure SplitField where
  /-- The characters before the cursor, the nearest one first. -/
  before : List Char
  /-- The characters behind the cursor. -/
  behind : List Char
  initial : List Char
  initialEmptyRequested : Bool
  initialPlaceholder : Bool
  emptyRequested : Bool
  placeholder : Bool

namespace SplitField

/-! ## Editing -/

def load (value : Option String) (sensitive : Bool) : SplitField :=
  let initial := if sensitive && value.isSome then sensitivePlaceholder.toList
    else (value.getD "").toList
  let empty := !sensitive && value.any String.isEmpty
  { before := initial.reverse, behind := [], initial, initialEmptyRequested := empty,
    initialPlaceholder := sensitive, emptyRequested := empty, placeholder := sensitive }

/-- The first edit of a secret starts over with nothing. -/
def beginEdit (z : SplitField) : SplitField :=
  if z.placeholder then { z with before := [], behind := [], placeholder := false } else z

def insert (z : SplitField) (cs : List Char) : SplitField :=
  { z.beginEdit with before := cs.reverse ++ z.beginEdit.before }

def backspace (z : SplitField) : SplitField :=
  { z.beginEdit with before := z.beginEdit.before.tail }

def delete (z : SplitField) : SplitField :=
  { z.beginEdit with behind := z.beginEdit.behind.tail }

def clear (z : SplitField) : SplitField := { z.beginEdit with before := [], behind := [] }

def moveLeft (z : SplitField) : SplitField :=
  match z.before with
  | [] => z
  | c :: rest => { z with before := rest, behind := c :: z.behind }

def moveRight (z : SplitField) : SplitField :=
  match z.behind with
  | [] => z
  | c :: rest => { z with before := c :: z.before, behind := rest }

def moveHome (z : SplitField) : SplitField :=
  { z with before := [], behind := z.before.reverse ++ z.behind }

def moveEnd (z : SplitField) : SplitField :=
  { z with before := z.behind.reverse ++ z.before, behind := [] }

def toggleEmpty (z : SplitField) : SplitField := { z with emptyRequested := !z.emptyRequested }

def reset (z : SplitField) : SplitField :=
  { z with
    before := z.initial.reverse
    behind := []
    emptyRequested := z.initialEmptyRequested
    placeholder := z.initialPlaceholder }

def edit (z : SplitField) : TextEdit → SplitField
  | .insertChar c => z.insert [c]
  | .insertText s => z.insert s.toList
  | .backspace => z.backspace
  | .delete => z.delete
  | .clear => z.clear
  | .moveLeft => z.moveLeft
  | .moveRight => z.moveRight
  | .moveHome => z.moveHome
  | .moveEnd => z.moveEnd
  | .toggleEmpty => z.toggleEmpty
  | .reset => z.reset

def after (z : SplitField) (edits : List TextEdit) : SplitField := edits.foldl edit z

/-! ## The same field in one piece -/

/-- The text in one piece. -/
def chars (z : SplitField) : List Char := z.before.reverse ++ z.behind

/-- The field in one piece. -/
def toField (z : SplitField) : TextField :=
  { chars := z.chars, cursor := z.before.length, initial := z.initial,
    initialEmptyRequested := z.initialEmptyRequested, initialPlaceholder := z.initialPlaceholder,
    emptyRequested := z.emptyRequested, placeholder := z.placeholder }

/-- What a secret may show before it is edited. -/
def Shows (cs : List Char) : Prop := cs = [] ∨ cs = sensitivePlaceholder.toList

/-- A secret that has not been edited shows the placeholder or nothing, and so it does when it is put
back as it was. -/
structure Conceals (z : SplitField) : Prop where
  chars : z.placeholder = true → Shows z.chars
  initial : z.initialPlaceholder = true → Shows z.initial

variable {z : SplitField}

theorem toField_load (value : Option String) (sensitive : Bool) :
    (load value sensitive).toField = .load value sensitive := by
  cases value with
  | none => cases sensitive <;> rfl
  | some v =>
    cases sensitive with
    | true => rfl
    | false => simp [load, toField, chars, TextField.load, TextField.withContent]

theorem conceals_load (value : Option String) (sensitive : Bool) :
    (load value sensitive).Conceals := by
  cases sensitive with
  | false => exact ⟨nofun, nofun⟩
  | true =>
    cases value with
    | none => exact ⟨fun _ => .inl rfl, fun _ => .inl rfl⟩
    | some v => exact ⟨fun _ => .inr rfl, fun _ => .inr rfl⟩

/-! ## One edit -/

/-- Before the cursor stands what comes before it in one piece, and behind it what follows. -/
theorem take_cursor (z : SplitField) : z.chars.take z.before.length = z.before.reverse := by
  rw [← List.length_reverse, chars, List.take_left]

theorem drop_cursor (z : SplitField) : z.chars.drop z.before.length = z.behind := by
  rw [← List.length_reverse, chars, List.drop_left]

@[simp]
theorem placeholder_beginEdit (z : SplitField) : z.beginEdit.placeholder = false := by
  unfold beginEdit
  split
  · rfl
  next h => simpa using h

@[simp]
theorem initial_beginEdit (z : SplitField) : z.beginEdit.initial = z.initial := by
  unfold beginEdit
  split <;> rfl

@[simp]
theorem initialPlaceholder_beginEdit (z : SplitField) :
    z.beginEdit.initialPlaceholder = z.initialPlaceholder := by
  unfold beginEdit
  split <;> rfl

theorem toField_beginEdit (h : z.Conceals) : z.toField.beginEdit = z.beginEdit.toField := by
  unfold beginEdit TextField.beginEdit
  cases hplaceholder : z.placeholder with
  | false => simp [toField, hplaceholder]
  | true =>
    have hset : z.toField.placeholder = true := hplaceholder
    rw [if_pos hset, if_pos rfl]
    rcases h.chars hplaceholder with hnone | hshown
    · -- nothing is not the placeholder, but there is nothing to drop either
      obtain ⟨hbefore, hbehind⟩ := List.append_eq_nil_iff.mp hnone
      have hother : z.toField.chars ≠ sensitivePlaceholder.toList := by
        show z.chars ≠ _
        rw [hnone]
        decide
      rw [if_neg hother]
      simp_all [toField, chars]
    · have hsame : z.toField.chars = sensitivePlaceholder.toList := hshown
      rw [if_pos hsame]
      rfl

theorem toField_insert (h : z.Conceals) (cs : List Char) :
    z.toField.insert cs = (z.insert cs).toField := by
  unfold TextField.insert insert
  rw [toField_beginEdit h]
  generalize z.beginEdit = z
  have hchars : z.chars.take z.before.length ++ cs ++ z.chars.drop z.before.length =
      (cs.reverse ++ z.before).reverse ++ z.behind := by
    rw [take_cursor, drop_cursor, List.reverse_append, List.reverse_reverse]
  have hcursor : z.before.length + cs.length = (cs.reverse ++ z.before).length := by
    rw [List.length_append, List.length_reverse, Nat.add_comm]
  show ({ z.toField with
      chars := z.chars.take z.before.length ++ cs ++ z.chars.drop z.before.length
      cursor := z.before.length + cs.length } : TextField) = _
  rw [hchars, hcursor]
  rfl

theorem toField_backspace (h : z.Conceals) : z.toField.backspace = z.backspace.toField := by
  unfold TextField.backspace backspace
  rw [toField_beginEdit h]
  generalize z.beginEdit = z
  cases hbefore : z.before with
  | nil =>
    have hstart : z.toField.cursor = 0 := by simp [toField, hbefore]
    rw [if_pos hstart]
    simp [toField, chars, hbefore]
  | cons c rest =>
    have hcursor : z.toField.cursor = rest.length + 1 := by simp [toField, hbefore]
    -- the place before the cursor is that of the nearest character
    have hchars : z.chars.eraseIdx rest.length = rest.reverse ++ z.behind := by
      rw [chars, hbefore, List.reverse_cons, List.append_assoc, List.singleton_append,
        List.eraseIdx_append_of_length_le (by simp)]
      simp
    rw [if_neg (by omega), hcursor]
    simp only [toField, Nat.add_sub_cancel, hchars, List.tail_cons]
    rfl

theorem toField_delete (h : z.Conceals) : z.toField.delete = z.delete.toField := by
  unfold TextField.delete delete
  rw [toField_beginEdit h]
  generalize z.beginEdit = z
  have hchars : z.chars.eraseIdx z.before.length = z.before.reverse ++ z.behind.tail := by
    rw [chars, List.eraseIdx_append_of_length_le (by simp)]
    simp
  simp only [toField, hchars]
  rfl

theorem toField_clear (h : z.Conceals) : z.toField.clear = z.clear.toField := by
  unfold TextField.clear clear
  rw [toField_beginEdit h]
  rfl

theorem toField_moveLeft (z : SplitField) : z.toField.moveLeft = z.moveLeft.toField := by
  unfold TextField.moveLeft moveLeft
  cases hbefore : z.before with
  | nil => simp [toField, hbefore]
  | cons c rest => simp [toField, chars, hbefore]

theorem toField_moveRight (z : SplitField) : z.toField.moveRight = z.moveRight.toField := by
  unfold TextField.moveRight moveRight
  cases hbehind : z.behind with
  | nil => simp [toField, chars, hbehind]
  | cons c rest =>
    have hcursor : min (z.before.length + 1) z.chars.length = z.before.length + 1 := by
      simp [chars, hbehind]
    simp [toField, chars, hbehind] at hcursor ⊢

theorem toField_moveHome (z : SplitField) : z.toField.moveHome = z.moveHome.toField := rfl

theorem toField_moveEnd (z : SplitField) : z.toField.moveEnd = z.moveEnd.toField := by
  simp [TextField.moveEnd, moveEnd, toField, chars, Nat.add_comm]

theorem toField_reset (z : SplitField) : z.toField.reset = z.reset.toField := by
  simp [TextField.reset, reset, toField, chars]

/-- An edit does the same to the split text and to the one in one piece. -/
theorem toField_edit (h : z.Conceals) (edit : TextEdit) :
    z.toField.edit edit = (z.edit edit).toField := by
  cases edit with
  | insertChar c => exact toField_insert h [c]
  | insertText s => exact toField_insert h s.toList
  | backspace => exact toField_backspace h
  | delete => exact toField_delete h
  | clear => exact toField_clear h
  | moveLeft => exact z.toField_moveLeft
  | moveRight => exact z.toField_moveRight
  | moveHome => exact z.toField_moveHome
  | moveEnd => exact z.toField_moveEnd
  | toggleEmpty => rfl
  | reset => exact z.toField_reset

/-! ## Any edits -/

/-- To move over a text shows no other one. -/
theorem Conceals.moved (h : z.Conceals) {before behind : List Char}
    (hsame : before.reverse ++ behind = z.chars) : Conceals { z with before, behind } := by
  refine ⟨fun hplaceholder => ?_, h.initial⟩
  show Shows (before.reverse ++ behind)
  rw [hsame]
  exact h.chars hplaceholder

/-- Once a secret is edited there is nothing to conceal but what it was at first. -/
theorem Conceals.edited (h : z.Conceals) (before behind : List Char) :
    Conceals { z.beginEdit with before, behind } :=
  ⟨fun hplaceholder => absurd hplaceholder (by simp), by simpa using h.initial⟩

theorem Conceals.edit (h : z.Conceals) (edit : TextEdit) : (z.edit edit).Conceals := by
  cases edit with
  | insertChar c => exact h.edited _ _
  | insertText s => exact h.edited _ _
  | backspace => exact h.edited _ _
  | delete => exact h.edited _ _
  | clear => exact h.edited _ _
  | moveLeft =>
    show z.moveLeft.Conceals
    unfold moveLeft
    split
    · exact h
    next c rest hbefore => exact h.moved (by simp [SplitField.chars, hbefore])
  | moveRight =>
    show z.moveRight.Conceals
    unfold moveRight
    split
    · exact h
    next c rest hbehind => exact h.moved (by simp [SplitField.chars, hbehind])
  | moveHome => exact h.moved rfl
  | moveEnd => exact h.moved (by simp [SplitField.chars])
  | toggleEmpty => exact ⟨h.chars, h.initial⟩
  | reset =>
    refine ⟨fun hplaceholder => ?_, h.initial⟩
    show Shows (z.initial.reverse.reverse ++ [])
    rw [List.reverse_reverse, List.append_nil]
    exact h.initial hplaceholder

/-- Edits do the same to the split text and to the one in one piece. -/
theorem toField_after (h : z.Conceals) (edits : List TextEdit) :
    z.toField.after edits = (z.after edits).toField := by
  induction edits generalizing z with
  | nil => rfl
  | cons edit edits ih =>
    show (z.toField.edit edit).after edits = _
    rw [toField_edit h]
    exact ih (h.edit edit)

/-- The cursor is a place in the text. -/
theorem cursor_toField_le (z : SplitField) : z.toField.cursor ≤ z.toField.chars.length := by
  simp [toField, chars]

end SplitField

end PropertySheet
