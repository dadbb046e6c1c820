import PropertySheet.Proofs.Editor.Typing

/-!
# The field of an editor

Two of the three kinds of editors hold a field, and what they commit does not depend on which of the
two they are (`commit_of_field?`). An editor on a row has one unless the property has values to
choose from (`field?_onRow`), and of the keys that the editor takes the field gets those that leave
the surface alone (`typing_of_field?`).
-/

namespace PropertySheet

/-- Whether a key is for the content of an editor: it neither drags the surface nor changes its
height. -/
def Key.reachesContent (k : Key) : Bool :=
  (if k.alt then CellEditor.dragStep k.code else none).isNone &&
    (if k.control then CellEditor.resizeStep k.code else none).isNone

/-- The field after keys, the first one first. -/
def TextField.typing (f : TextField) (keys : List Key) : TextField :=
  keys.foldl (fun f k => (f.handleKey k).1) f

@[simp]
theorem TextField.typing_nil (f : TextField) : f.typing [] = f := rfl

@[simp]
theorem TextField.typing_cons (f : TextField) (k : Key) (keys : List Key) :
    f.typing (k :: keys) = (f.handleKey k).1.typing keys := rfl

namespace EditorBody

/-- The field that a content consists of, unless that is a list. -/
def field? : EditorBody → Option TextField
  | .plain f | .expression f => some f
  | .choice _ => none

theorem field?_handleKey (b : EditorBody) (k : Key) (serviceType : Option String) :
    (b.handleKey k serviceType).1.field? = b.field?.map fun f => (f.handleKey k).1 := by
  cases b <;> rfl

end EditorBody

namespace CellEditor

variable {e : CellEditor} {f : TextField}

/-- A property without values to choose from is edited in a field on its value. -/
theorem field?_onRow (r : Row) {d : Option Descriptor} (hfield : EditorKind.ofDescriptor d ≠ .choice)
    (anchor : Rect) :
    (onRow r d anchor).body.field? = some (.load r.value (d.any (·.sensitive))) := by
  show (bodyFor r d).field? = _
  unfold bodyFor
  dsimp only
  split
  next hkind => exact absurd hkind hfield
  · rfl
  · rfl

/-- The commit of an editor with a field is that of the field. -/
theorem commit_of_field? (h : e.body.field? = some f) :
    e.commit = ⟨f.resolve e.descriptor e.previousValue,
      f.resolve e.descriptor e.previousValue ≠ e.previousValue⟩ := by
  cases hbody : e.body with
  | plain g =>
    rw [hbody] at h
    obtain rfl := Option.some.inj h
    simp [commit, value, isDirty, hbody]
  | expression g =>
    rw [hbody] at h
    obtain rfl := Option.some.inj h
    simp [commit, value, isDirty, hbody]
  | choice l =>
    rw [hbody] at h
    cases h

/-- A field gets the keys that are for it. -/
theorem field?_handleKey (halive : e.destroyed = false) (k : Key) :
    (e.handleKey k).1.body.field? =
      if k.reachesContent then e.body.field?.map fun f => (f.handleKey k).1 else e.body.field? := by
  unfold handleKey Key.reachesContent
  rw [halive, if_neg Bool.false_ne_true]
  cases if k.alt then dragStep k.code else none with
  | some step => rfl
  | none =>
    dsimp only
    cases if k.control then resizeStep k.code else none with
    | some dh =>
      show (e.resizeBy dh).body.field? = e.body.field?
      unfold resizeBy
      split <;> rfl
    | none => exact e.body.field?_handleKey k _

/-- While keys come in, an editor goes on with the field that they make of its own. -/
theorem typing_of_field? (halive : e.destroyed = false) (h : e.body.field? = some f)
    (keys : List Key) :
    ∃ surface body, e.typing keys = { e with surface, body } ∧
      body.field? = some (f.typing (keys.filter Key.reachesContent)) := by
  induction keys generalizing e f with
  | nil => exact ⟨e.surface, e.body, rfl, h⟩
  | cons k keys ih =>
    obtain ⟨surface, body, hkey, -⟩ := e.handleKey_frame k
    have hfield := field?_handleKey halive k
    rw [hkey, h] at hfield
    show ∃ surface body, (e.handleKey k).1.typing keys = _ ∧ _
    rw [hkey]
    cases hreaches : k.reachesContent with
    | true =>
      rw [hreaches] at hfield
      rw [List.filter_cons_of_pos hreaches, TextField.typing_cons]
      exact ih (e := { e with surface, body }) halive hfield
    | false =>
      rw [hreaches] at hfield
      rw [List.filter_cons_of_neg (Bool.not_eq_true _ ▸ hreaches)]
      exact ih (e := { e with surface, body }) halive hfield

/-- What an editor with a field on a row commits after keys. -/
theorem commit_typing_of_field (r : Row) {d : Option Descriptor}
    (hfield : EditorKind.ofDescriptor d ≠ .choice) (anchor : Rect) (keys : List Key) :
    ∃ f, f = (TextField.load r.value (d.any (·.sensitive))).typing
        (keys.filter Key.reachesContent) ∧
      ((onRow r d anchor).typing keys).body.field? = some f ∧
      ((onRow r d anchor).typing keys).commit = ⟨f.resolve d r.value, f.resolve d r.value ≠ r.value⟩ := by
  obtain ⟨surface, body, htyped, hbody⟩ :=
    typing_of_field? (e := onRow r d anchor) rfl (field?_onRow r hfield anchor) keys
  rw [htyped]
  exact ⟨_, rfl, hbody, commit_of_field? hbody⟩

end CellEditor

end PropertySheet
