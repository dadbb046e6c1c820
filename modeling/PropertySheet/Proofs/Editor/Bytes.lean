import PropertySheet.Proofs.Editor.Split

/-!
# A text of bytes

A text in memory is a sequence of bytes, and a character takes one to four of them. The cursor of a
field counts characters. So whoever edits the bytes has to go from a place among the characters to
the byte that it starts at, and must not put or take anything in the middle of a character.

`ByteField` edits the bytes in this way. It fails where a byte is not the first one of a character.
`TextField.after_load` says that it never does, and that it comes to the same text as the field.
-/

namespace PropertySheet

/-! ## Bytes of a text -/

namespace Text

/-- The characters, each with the byte that it starts at. The first one starts at `start`. -/
def charIndices (start : Nat) : List Char → List (Nat × Char)
  | [] => []
  | c :: rest => (start, c) :: charIndices (start + c.utf8Size) rest

/-- The byte at which a character starts, or the end where there is no such character. -/
def byteOffset (s : String) (place : Nat) : String.Pos.Raw :=
  ⟨((charIndices 0 s.toList)[place]?.map Prod.fst).getD s.utf8ByteSize⟩

/-- Put a text at a byte, unless that is in the middle of a character. -/
def insertAt? (s : String) (p : String.Pos.Raw) (t : String) : Option String :=
  if h : p.IsValid s then some ((s.sliceTo ⟨p, h⟩).copy ++ t ++ (s.sliceFrom ⟨p, h⟩).copy)
  else none

/-- Remove the character at a byte, unless that is in the middle of one or at the end. -/
def removeAt? (s : String) (p : String.Pos.Raw) : Option String :=
  if h : p.IsValid s then
    match (s.sliceFrom ⟨p, h⟩).copy.toList with
    | [] => none
    | _ :: rest => some ((s.sliceTo ⟨p, h⟩).copy ++ String.ofList rest)
  else none

theorem charIndices_append (start : Nat) (xs ys : List Char) :
    (((charIndices start (xs ++ ys))[xs.length]?).map Prod.fst).getD
        (start + (String.ofList (xs ++ ys)).utf8ByteSize) =
      start + (String.ofList xs).utf8ByteSize := by
  induction xs generalizing start with
  | nil => cases ys <;> simp [charIndices]
  | cons c xs ih =>
    have hstart := ih (start + c.utf8Size)
    simp only [String.ofList_cons, String.utf8ByteSize_append, String.utf8ByteSize_singleton,
      List.cons_append, ← Nat.add_assoc] at hstart ⊢
    exact hstart

/-- What comes before a character takes the bytes before the one that it starts at. -/
theorem byteOffset_append (xs ys : List Char) :
    byteOffset (String.ofList (xs ++ ys)) xs.length = (String.ofList xs).rawEndPos := by
  have h := charIndices_append 0 xs ys
  simp only [Nat.zero_add] at h
  rw [byteOffset, String.toList_ofList, h]
  rfl

theorem splits_ofList_append (xs ys : List Char) :
    ∃ h : (String.ofList xs).rawEndPos.IsValid (String.ofList (xs ++ ys)),
      String.Pos.Splits ⟨_, h⟩ (String.ofList xs) (String.ofList ys) := by
  have hvalid : (String.ofList xs).rawEndPos.IsValid (String.ofList (xs ++ ys)) :=
    String.Pos.Raw.isValid_iff_exists_append.mpr ⟨_, _, String.ofList_append, rfl⟩
  exact ⟨hvalid, String.ofList_append, rfl⟩

theorem insertAt?_append (xs ys cs : List Char) :
    insertAt? (String.ofList (xs ++ ys)) (String.ofList xs).rawEndPos (String.ofList cs) =
      some (String.ofList (xs ++ cs ++ ys)) := by
  obtain ⟨hvalid, hsplits⟩ := splits_ofList_append xs ys
  rw [insertAt?, dif_pos hvalid, hsplits.copy_sliceTo_eq, hsplits.copy_sliceFrom_eq,
    String.ofList_append, String.ofList_append]

theorem removeAt?_append (xs ys : List Char) (c : Char) :
    removeAt? (String.ofList (xs ++ c :: ys)) (String.ofList xs).rawEndPos =
      some (String.ofList (xs ++ ys)) := by
  obtain ⟨hvalid, hsplits⟩ := splits_ofList_append xs (c :: ys)
  rw [removeAt?, dif_pos hvalid, hsplits.copy_sliceTo_eq, hsplits.copy_sliceFrom_eq,
    String.toList_ofList, String.ofList_append]

/-- The second byte of a character is none to put anything at. -/
example : insertAt? "é" ⟨1⟩ "x" = none := by decide

end Text

/-! ## Editing bytes -/

/-- A field whose text is bytes. -/
structure ByteField where
  buffer : String
  /-- Characters before the cursor. -/
  cursor : Nat
  initial : String
  initialEmptyRequested : Bool
  initialPlaceholder : Bool
  emptyRequested : Bool
  placeholder : Bool
deriving DecidableEq, Repr

namespace ByteField

def load (value : Option String) (sensitive : Bool) : ByteField :=
  let initial := if sensitive && value.isSome then sensitivePlaceholder else value.getD ""
  let empty := !sensitive && value.any String.isEmpty
  { buffer := initial, cursor := initial.length, initial, initialEmptyRequested := empty,
    initialPlaceholder := sensitive, emptyRequested := empty, placeholder := sensitive }

/-- The first edit of a secret drops the placeholder. -/
def beginEdit (b : ByteField) : ByteField :=
  if b.placeholder then
    if b.buffer = sensitivePlaceholder then
      { b with buffer := "", cursor := 0, placeholder := false }
    else { b with placeholder := false }
  else b

/-- Put a text at the byte of the cursor. -/
def insert? (b : ByteField) (t : String) : Option ByteField :=
  let b := b.beginEdit
  (Text.insertAt? b.buffer (Text.byteOffset b.buffer b.cursor) t).map fun buffer =>
    { b with buffer, cursor := b.cursor + t.length }

/-- Remove the character that starts at the byte of the place before the cursor. -/
def backspace? (b : ByteField) : Option ByteField :=
  let b := b.beginEdit
  if 0 < b.cursor then
    (Text.removeAt? b.buffer (Text.byteOffset b.buffer (b.cursor - 1))).map fun buffer =>
      { b with buffer, cursor := b.cursor - 1 }
  else some b

/-- Remove the character that starts at the byte of the cursor. -/
def delete? (b : ByteField) : Option ByteField :=
  let b := b.beginEdit
  if b.cursor < b.buffer.length then
    (Text.removeAt? b.buffer (Text.byteOffset b.buffer b.cursor)).map fun buffer =>
      { b with buffer }
  else some b

/-- The field after an edit, unless that would cut a character in two. -/
def edit? (b : ByteField) : TextEdit → Option ByteField
  | .insertChar c => b.insert? (String.singleton c)
  | .insertText s => b.insert? s
  | .backspace => b.backspace?
  | .delete => b.delete?
  | .clear => some { b.beginEdit with buffer := "", cursor := 0 }
  | .moveLeft => some { b with cursor := b.cursor - 1 }
  | .moveRight => some { b with cursor := min (b.cursor + 1) b.buffer.length }
  | .moveHome => some { b with cursor := 0 }
  | .moveEnd => some { b with cursor := b.buffer.length }
  | .toggleEmpty => some { b with emptyRequested := !b.emptyRequested }
  | .reset => some { b with
      buffer := b.initial
      cursor := b.initial.length
      emptyRequested := b.initialEmptyRequested
      placeholder := b.initialPlaceholder }

/-- The field after edits, the first one first, unless one of them would cut a character in two. -/
def after? (b : ByteField) (edits : List TextEdit) : Option ByteField := edits.foldlM edit? b

end ByteField

/-- The field with its text in bytes. -/
def TextField.bytes (f : TextField) : ByteField :=
  { buffer := f.text, cursor := f.cursor, initial := String.ofList f.initial,
    initialEmptyRequested := f.initialEmptyRequested, initialPlaceholder := f.initialPlaceholder,
    emptyRequested := f.emptyRequested, placeholder := f.placeholder }

theorem TextField.bytes_load (value : Option String) (sensitive : Bool) :
    (load value sensitive).bytes = .load value sensitive := by
  cases value with
  | none => cases sensitive <;> rfl
  | some v =>
    cases sensitive with
    | true => rfl
    | false => simp [load, withContent, bytes, text, ByteField.load, String.length_toList]

theorem TextField.bytes_beginEdit (f : TextField) : f.bytes.beginEdit = f.beginEdit.bytes := by
  unfold TextField.beginEdit ByteField.beginEdit
  have hplaceholder : f.bytes.placeholder = f.placeholder := rfl
  have hshown : f.bytes.buffer = sensitivePlaceholder ↔ f.chars = sensitivePlaceholder.toList := by
    rw [← String.toList_inj]
    show (String.ofList f.chars).toList = _ ↔ _
    rw [String.toList_ofList]
  rw [hplaceholder]
  split
  · simp only [hshown]
    split
    · rfl
    · rfl
  · rfl

namespace SplitField

variable {z : SplitField}

/-- The byte of the cursor is the first one behind what comes before it. -/
theorem byteOffset_cursor (z : SplitField) :
    Text.byteOffset (String.ofList z.chars) z.before.length =
      (String.ofList z.before.reverse).rawEndPos := by
  rw [← List.length_reverse]
  exact Text.byteOffset_append z.before.reverse z.behind

theorem insert?_bytes (h : z.Conceals) (t : String) :
    z.toField.bytes.insert? t = some (z.insert t.toList).toField.bytes := by
  unfold ByteField.insert? SplitField.insert
  rw [TextField.bytes_beginEdit, toField_beginEdit h]
  generalize z.beginEdit = z
  have hbuffer : Text.insertAt? (String.ofList z.chars)
      (Text.byteOffset (String.ofList z.chars) z.before.length) t =
        some (String.ofList ((t.toList.reverse ++ z.before).reverse ++ z.behind)) := by
    have hput := Text.insertAt?_append z.before.reverse z.behind t.toList
    rw [String.ofList_toList] at hput
    rw [byteOffset_cursor, List.reverse_append, List.reverse_reverse]
    exact hput
  have hcursor : z.before.length + t.length = (t.toList.reverse ++ z.before).length := by
    rw [List.length_append, List.length_reverse, String.length_toList, Nat.add_comm]
  show (Text.insertAt? (String.ofList z.chars)
    (Text.byteOffset (String.ofList z.chars) z.before.length) t).map (fun buffer =>
      { z.toField.bytes with buffer, cursor := z.before.length + t.length }) = _
  rw [hbuffer, hcursor]
  rfl

theorem backspace?_bytes (h : z.Conceals) :
    z.toField.bytes.backspace? = some z.backspace.toField.bytes := by
  unfold ByteField.backspace? SplitField.backspace
  rw [TextField.bytes_beginEdit, toField_beginEdit h]
  generalize z.beginEdit = z
  show (if 0 < z.before.length then
    (Text.removeAt? (String.ofList z.chars)
      (Text.byteOffset (String.ofList z.chars) (z.before.length - 1))).map (fun buffer =>
        { z.toField.bytes with buffer, cursor := z.before.length - 1 })
    else some z.toField.bytes) = _
  cases hbefore : z.before with
  | nil =>
    have hsame : ({ z with before := [] } : SplitField) = z := by rw [← hbefore]
    rw [List.tail_nil, hsame]
    rfl
  | cons c rest =>
    have hchars : z.chars = rest.reverse ++ c :: z.behind := by simp [chars, hbefore]
    have hbuffer : Text.removeAt? (String.ofList z.chars)
        (Text.byteOffset (String.ofList z.chars) rest.length) =
          some (String.ofList (rest.reverse ++ z.behind)) := by
      rw [hchars, ← List.length_reverse, Text.byteOffset_append, Text.removeAt?_append]
    rw [List.length_cons, if_pos (Nat.succ_pos _), Nat.add_sub_cancel, hbuffer, List.tail_cons]
    rfl

theorem delete?_bytes (h : z.Conceals) :
    z.toField.bytes.delete? = some z.delete.toField.bytes := by
  unfold ByteField.delete? SplitField.delete
  rw [TextField.bytes_beginEdit, toField_beginEdit h]
  generalize z.beginEdit = z
  show (if z.before.length < (String.ofList z.chars).length then
    (Text.removeAt? (String.ofList z.chars)
      (Text.byteOffset (String.ofList z.chars) z.before.length)).map (fun buffer =>
        { z.toField.bytes with buffer })
    else some z.toField.bytes) = _
  rw [String.length_ofList, byteOffset_cursor]
  cases hbehind : z.behind with
  | nil =>
    have hsame : ({ z with behind := [] } : SplitField) = z := by rw [← hbehind]
    have hend : ¬ z.before.length < z.chars.length := by simp [chars, hbehind]
    rw [if_neg hend, List.tail_nil, hsame]
  | cons c rest =>
    have hchars : z.chars = z.before.reverse ++ c :: rest := by rw [chars, hbehind]
    have hinside : z.before.length < z.chars.length := by simp [hchars]
    rw [if_pos hinside, hchars, Text.removeAt?_append, List.tail_cons]
    rfl

/-- An edit of the bytes succeeds, and comes to the same as one of the characters. -/
theorem edit?_bytes (h : z.Conceals) (edit : TextEdit) :
    z.toField.bytes.edit? edit = some (z.edit edit).toField.bytes := by
  cases edit with
  | insertChar c =>
    have hput := insert?_bytes h (String.singleton c)
    rw [String.toList_singleton] at hput
    exact hput
  | insertText s => exact insert?_bytes h s
  | backspace => exact backspace?_bytes h
  | delete => exact delete?_bytes h
  | clear =>
    show some { z.toField.bytes.beginEdit with buffer := "", cursor := 0 } = _
    rw [TextField.bytes_beginEdit, toField_beginEdit h]
    rfl
  | moveLeft =>
    rw [← toField_edit h]
    rfl
  | moveRight =>
    rw [← toField_edit h]
    show some { z.toField.bytes with
      cursor := min (z.before.length + 1) (String.ofList z.chars).length } = _
    rw [String.length_ofList]
    rfl
  | moveHome => rfl
  | moveEnd =>
    rw [← toField_edit h]
    show some { z.toField.bytes with cursor := (String.ofList z.chars).length } = _
    rw [String.length_ofList]
    rfl
  | toggleEmpty => rfl
  | reset =>
    rw [← toField_edit h]
    show some { z.toField.bytes with
      buffer := String.ofList z.initial
      cursor := (String.ofList z.initial).length
      emptyRequested := z.initialEmptyRequested
      placeholder := z.initialPlaceholder } = _
    rw [String.length_ofList]
    rfl

theorem after?_bytes (h : z.Conceals) (edits : List TextEdit) :
    z.toField.bytes.after? edits = some (z.after edits).toField.bytes := by
  induction edits generalizing z with
  | nil => rfl
  | cons edit edits ih =>
    show (z.toField.bytes.edit? edit).bind (·.after? edits) = _
    rw [edit?_bytes h, Option.bind_some]
    exact ih (h.edit edit)

end SplitField

/-- For every value that a field opens on, secret or not, and all edits in any order: the field is
the one that keeps the characters before the cursor and those behind it as two lists. So the cursor
never comes to be behind the last character, and where the text is edited as bytes, by the byte at
which the character at the cursor starts, no edit ever meets the middle of a character, and all come
to the same text. -/
theorem TextField.after_load (value : Option String) (sensitive : Bool) (edits : List TextEdit) :
    let f := (TextField.load value sensitive).after edits
    f = ((SplitField.load value sensitive).after edits).toField ∧
    f.cursor ≤ f.chars.length ∧
    (ByteField.load value sensitive).after? edits = some f.bytes := by
  intro f
  have hconceals := SplitField.conceals_load value sensitive
  have hf : f = ((SplitField.load value sensitive).after edits).toField := by
    rw [← SplitField.toField_after hconceals, SplitField.toField_load]
  refine ⟨hf, ?_, ?_⟩
  · rw [hf]
    exact SplitField.cursor_toField_le _
  · rw [hf, ← TextField.bytes_load, ← SplitField.toField_load]
    exact SplitField.after?_bytes hconceals edits

/-- A character of two bytes stays in one piece behind the cursor. -/
example : ((ByteField.load (some "héllo") false).after?
    [.moveLeft, .backspace, .moveHome, .delete]).map (·.buffer) = some "élo" := by
  decide +kernel

end PropertySheet
