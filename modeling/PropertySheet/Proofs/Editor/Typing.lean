import PropertySheet.Editor.CellEditor

/-!
# Keys in an editor

A key goes to the surface of an editor or to its content; whatever else the editor knows stays
(`handleKey_frame`). So what every key keeps of the content, a sequence of keys keeps, and the row,
the descriptor and the value of before are those that the editor was opened with (`typing_keeps`).

In a list of values keys move the highlight, and the selection follows it to value entries. A
disabled entry is passed over, so that keys select none (`Moved.handleKey`).

An editor keeps beside its content what it takes to put that back as it was at first, and no key
changes it: a cancelled editor is as one that has just been opened (`cancel_typing_onRow`).
-/

namespace PropertySheet

/-! ## Lists of values -/

namespace ChoiceList

/-- An enabled place is looked for until there is one. -/
theorem nextEnabled_eq_some {entries : List ChoiceEntry} {forward : Bool} {looks place next : Nat}
    (h : nextEnabled entries forward looks place = some next) :
    ∃ e, entries[next]? = some e ∧ e.disabled = false := by
  induction looks generalizing place with
  | zero => cases h
  | succ looks ih =>
    rw [nextEnabled] at h
    split at h
    · cases h
    next e he =>
      split at h
      · exact ih h
      next henabled =>
        obtain rfl := Option.some.inj h
        exact ⟨e, he, by simpa using henabled⟩

/-- What keys make of a list. Its entries and the value that it was opened on stay. The selected
value stays as well, or it is that of an entry that is not disabled. -/
structure Moved (l l' : ChoiceList) : Prop where
  entries : l'.entries = l.entries
  initialValue : l'.initialValue = l.initialValue
  selected : l'.selectedValue = l.selectedValue ∨
    ∃ e ∈ l.entries, e.value = .value l'.selectedValue ∧ e.disabled = false

variable {l l' : ChoiceList}

theorem moved_self (l : ChoiceList) : l.Moved l := ⟨rfl, rfl, .inl rfl⟩

/-- Highlighting an entry selects it if it stands for a value, and nothing else otherwise. -/
theorem selectedValue_highlight (l : ChoiceList) {place : Nat} {e : ChoiceEntry}
    (he : l.entries[place]? = some e) :
    (l.highlight place).selectedValue = l.selectedValue ∨
      e.value = .value (l.highlight place).selectedValue := by
  have hat : l.valueAt place = some e.value := by simp [valueAt, he]
  unfold highlight
  rw [hat]
  cases hv : e.value with
  | value v =>
    right
    show ChoiceValue.value v =
      .value (selectedValue { l with highlighted := place, selected := place })
    have hselected :
        ({ l with highlighted := place, selected := place } : ChoiceList).valueAt place =
          some (.value v) := hat.trans (congrArg some hv)
    simp only [selectedValue, hselected]
  | createService => exact .inl rfl

theorem Moved.move (h : l.Moved l') (forward : Bool) : l.Moved (l'.move forward) := by
  unfold ChoiceList.move
  split
  next place hplace =>
    obtain ⟨e, he, henabled⟩ := nextEnabled_eq_some hplace
    have hmem : e ∈ l.entries := h.entries ▸ List.mem_of_getElem? he
    have hframe : (l'.highlight place).entries = l'.entries ∧
        (l'.highlight place).initialValue = l'.initialValue := by
      unfold highlight
      split
      · exact ⟨rfl, rfl⟩
      · exact ⟨rfl, rfl⟩
    refine ⟨hframe.1.trans h.entries, hframe.2.trans h.initialValue, ?_⟩
    rcases l'.selectedValue_highlight he with hkept | hchosen
    · rw [hkept]
      exact h.selected
    · exact .inr ⟨e, hmem, hchosen, henabled⟩
  · exact h

theorem Moved.handleKey (h : l.Moved l') (k : Key) (serviceType : Option String) :
    l.Moved (l'.handleKey k serviceType).1 := by
  unfold ChoiceList.handleKey
  split
  · exact h
  · exact h.move false
  · exact h.move false
  · exact h.move false
  · exact h.move true
  · exact h.move true
  · exact h.move true
  · split
    · exact h
    · exact h
  · exact h

end ChoiceList

/-! ## Editors -/

namespace CellEditor

/-- The editor after keys, the first one first. -/
def typing (e : CellEditor) (keys : List Key) : CellEditor :=
  keys.foldl (fun e k => (e.handleKey k).1) e

/-- A key moves the surface or makes it higher, or it is for the content. -/
theorem handleKey_frame (e : CellEditor) (k : Key) :
    ∃ surface body, (e.handleKey k).1 = { e with surface, body } ∧
      (body = e.body ∨ body = (e.body.handleKey k (e.descriptor.bind (·.serviceType))).1) := by
  unfold handleKey
  split
  · exact ⟨e.surface, e.body, rfl, .inl rfl⟩
  · split
    · exact ⟨_, e.body, rfl, .inl rfl⟩
    · split
      next dh _ =>
        rw [resizeBy]
        split
        next f hbody => exact ⟨_, e.body, rfl, .inl rfl⟩
        · exact ⟨e.surface, e.body, rfl, .inl rfl⟩
      · exact ⟨e.surface, _, rfl, .inr rfl⟩

/-- What every key keeps of the content, a sequence of keys keeps. -/
theorem typing_keeps {P : EditorBody → Prop} (e : CellEditor)
    (hstep : ∀ b k, P b → P (b.handleKey k (e.descriptor.bind (·.serviceType))).1) (h : P e.body)
    (keys : List Key) : ∃ surface body, e.typing keys = { e with surface, body } ∧ P body := by
  induction keys generalizing e with
  | nil => exact ⟨e.surface, e.body, rfl, h⟩
  | cons k keys ih =>
    obtain ⟨surface, body, hkey, hbody⟩ := e.handleKey_frame k
    have hkept : P body := by
      rcases hbody with rfl | rfl
      · exact h
      · exact hstep _ k h
    obtain ⟨surface', body', htyped, hafter⟩ := ih { e with surface, body } hstep hkept
    refine ⟨surface', body', ?_, hafter⟩
    show (e.handleKey k).1.typing keys = _
    rw [hkey, htyped]

/-- An editor with a list goes on with one that keys have moved in. -/
theorem typing_choice {e : CellEditor} {l : ChoiceList} (h : e.body = .choice l)
    (keys : List Key) :
    ∃ surface l', e.typing keys = { e with surface, body := .choice l' } ∧ l.Moved l' := by
  obtain ⟨surface, body, htyped, l', rfl, hmoved⟩ :=
    e.typing_keeps (P := fun b => ∃ l', b = .choice l' ∧ l.Moved l')
      (fun b k => by
        rintro ⟨l', rfl, hmoved⟩
        exact ⟨_, rfl, hmoved.handleKey k _⟩)
      ⟨l, h, l.moved_self⟩ keys
  exact ⟨surface, l', htyped, hmoved⟩

/-- An editor with a field goes on with one. -/
theorem typing_field {e : CellEditor} {f : TextField}
    (h : e.body = .plain f ∨ e.body = .expression f) (keys : List Key) :
    ∃ surface body, e.typing keys = { e with surface, body } ∧
      ∃ f', body = .plain f' ∨ body = .expression f' := by
  refine e.typing_keeps (fun b k => ?_) ⟨f, h⟩ keys
  rintro ⟨f', rfl | rfl⟩
  · exact ⟨_, .inl rfl⟩
  · exact ⟨_, .inr rfl⟩

end CellEditor

/-! ## Putting the content back -/

namespace TextField

@[simp]
theorem reset_beginEdit (f : TextField) : f.beginEdit.reset = f.reset := by
  unfold beginEdit
  split
  · split
    · rfl
    · rfl
  · rfl

@[simp]
theorem reset_insert (f : TextField) (cs : List Char) : (f.insert cs).reset = f.reset :=
  f.reset_beginEdit

@[simp]
theorem reset_backspace (f : TextField) : f.backspace.reset = f.reset := by
  unfold backspace
  dsimp only
  split
  · exact f.reset_beginEdit
  · exact f.reset_beginEdit

@[simp]
theorem reset_delete (f : TextField) : f.delete.reset = f.reset := f.reset_beginEdit

@[simp]
theorem reset_clear (f : TextField) : f.clear.reset = f.reset := f.reset_beginEdit

/-- Keys edit the content, and leave what it was at first. -/
theorem reset_handleKey (f : TextField) (k : Key) : (f.handleKey k).1.reset = f.reset := by
  unfold handleKey
  cases k.code with
  | enter =>
    dsimp only
    split
    · exact f.reset_insert _
    · rfl
  | char c =>
    dsimp only
    split
    · split
      · rfl
      · split
        · exact f.reset_clear
        · rfl
    · exact f.reset_insert _
  | tab => exact f.reset_insert _
  | backspace => exact f.reset_backspace
  | delete => exact f.reset_delete
  | _ => rfl

theorem reset_load (value : Option String) (sensitive : Bool) :
    (load value sensitive).reset = load value sensitive := by
  unfold load
  cases value with
  | none => rfl
  | some v => cases sensitive <;> rfl

end TextField

namespace ChoiceList

theorem Moved.reset_eq {l l' : ChoiceList} (h : l.Moved l') : l'.reset = l.reset := by
  rw [reset, reset, h.entries, h.initialValue]

end ChoiceList

namespace EditorBody

theorem reset_handleKey (b : EditorBody) (k : Key) (serviceType : Option String) :
    (b.handleKey k serviceType).1.reset = b.reset := by
  cases b with
  | plain f => exact congrArg EditorBody.plain (f.reset_handleKey k)
  | expression f => exact congrArg EditorBody.expression (f.reset_handleKey k)
  | choice l => exact congrArg EditorBody.choice (l.moved_self.handleKey k serviceType).reset_eq

end EditorBody

namespace CellEditor

theorem reset_bodyFor (r : Row) (d : Option Descriptor) : (bodyFor r d).reset = bodyFor r d := by
  unfold bodyFor
  dsimp only
  split
  · rfl
  · exact congrArg EditorBody.plain (TextField.reset_load _ _)
  · exact congrArg EditorBody.expression (TextField.reset_load _ _)

/-- Whatever has been typed, a cancelled editor has the content that it opened with. -/
theorem cancel_typing_onRow (r : Row) (d : Option Descriptor) (anchor : Rect) (keys : List Key) :
    ((onRow r d anchor).typing keys).cancel.body = (onRow r d anchor).body := by
  obtain ⟨surface, body, htyped, hreset⟩ := (onRow r d anchor).typing_keeps
    (P := fun b => b.reset = (onRow r d anchor).body)
    (fun b k hb => (b.reset_handleKey k _).trans hb) (reset_bodyFor r d) keys
  rw [htyped]
  exact hreset

end CellEditor

/-! ## Keys that close an editor -/

/-- Whether a key has asked to close the editor. -/
def EditorInput.closes : EditorInput → Bool
  | .commit | .cancel | .createService _ => true
  | .changed | .none => false

namespace TextField

theorem eq_of_commit {f : TextField} {k : Key} (h : (f.handleKey k).2 = .commit) :
    (f.handleKey k).1 = f := by
  unfold handleKey at h ⊢
  cases hcode : k.code with
  | enter =>
    simp only [hcode] at h
    split at h
    · cases h
    next hplain => exact congrArg Prod.fst (if_neg hplain)
  | char c =>
    simp only [hcode] at h
    split at h
    · split at h
      · cases h
      · split at h
        · cases h
        · cases h
    · cases h
  | _ => simp [hcode] at h

theorem handleKey_eq_cancel_iff (f : TextField) (k : Key) :
    (f.handleKey k).2 = .cancel ↔ k.code = .esc := by
  unfold handleKey
  cases k.code with
  | enter => dsimp only; split <;> simp
  | char c =>
    dsimp only
    split
    · split
      · simp
      · split <;> simp
    · simp
  | _ => simp

end TextField

namespace ChoiceList

theorem eq_of_commit {l : ChoiceList} {k : Key} {serviceType : Option String}
    (h : (l.handleKey k serviceType).2 = .commit) : (l.handleKey k serviceType).1 = l := by
  unfold handleKey at h ⊢
  cases hcode : k.code with
  | enter =>
    dsimp only
    split
    · rfl
    · rfl
  | _ => simp [hcode] at h

theorem handleKey_eq_cancel_iff (l : ChoiceList) (k : Key) (serviceType : Option String) :
    (l.handleKey k serviceType).2 = .cancel ↔ k.code = .esc := by
  unfold handleKey
  cases k.code with
  | enter => dsimp only; split <;> simp
  | _ => simp

end ChoiceList

namespace EditorBody

theorem handleKey_eq_cancel_iff (b : EditorBody) (k : Key) (serviceType : Option String) :
    (b.handleKey k serviceType).2 = .cancel ↔ k.code = .esc := by
  cases b with
  | plain f => exact f.handleKey_eq_cancel_iff k
  | expression f => exact f.handleKey_eq_cancel_iff k
  | choice l => exact l.handleKey_eq_cancel_iff k serviceType

end EditorBody

namespace CellEditor

variable {e : CellEditor} {k : Key}

/-- A key that asks to close the editor goes to its content. -/
theorem handleKey_of_closes (h : (e.handleKey k).2.closes) : e.handleKey k = e.handleBodyKey k := by
  unfold handleKey at h ⊢
  split
  next hdestroyed =>
    rw [if_pos hdestroyed] at h
    cases h
  next hdestroyed =>
    rw [if_neg hdestroyed] at h
    split
    next hdrag =>
      rw [hdrag] at h
      cases h
    next hdrag =>
      rw [hdrag] at h
      dsimp only at h
      split
      next hresize =>
        rw [hresize] at h
        cases h
      · rfl

/-- The key that commits changes nothing itself. -/
theorem eq_of_commit (h : (e.handleKey k).2 = .commit) : (e.handleKey k).1 = e := by
  have hbody := handleKey_of_closes (e := e) (k := k) (by rw [h]; rfl)
  rw [hbody] at h ⊢
  unfold handleBodyKey at h ⊢
  dsimp only at h ⊢
  suffices (e.body.handleKey k (e.descriptor.bind (·.serviceType))).1 = e.body by rw [this]
  cases hb : e.body with
  | plain f =>
    rw [hb] at h
    exact congrArg EditorBody.plain (TextField.eq_of_commit h)
  | expression f =>
    rw [hb] at h
    exact congrArg EditorBody.expression (TextField.eq_of_commit h)
  | choice l =>
    rw [hb] at h
    exact congrArg EditorBody.choice (ChoiceList.eq_of_commit h)

/-- Esc cancels, whatever is held down with it, and no other key does. -/
theorem handleKey_eq_cancel_iff (h : e.destroyed = false) :
    (e.handleKey k).2 = .cancel ↔ k.code = .esc := by
  constructor
  · intro hcancel
    rw [handleKey_of_closes (by rw [hcancel]; rfl)] at hcancel
    exact (e.body.handleKey_eq_cancel_iff k _).mp hcancel
  · intro hesc
    simp only [handleKey, h, hesc, dragStep, resizeStep, ite_self, Bool.false_eq_true, if_false]
    exact (e.body.handleKey_eq_cancel_iff k _).mpr hesc

/-- None of a sequence of keys asks to close the editor. -/
def KeepsOpen (e : CellEditor) : List Key → Prop
  | [] => True
  | k :: keys => (e.handleKey k).2.closes = false ∧ KeepsOpen (e.handleKey k).1 keys

instance decidableKeepsOpen : ∀ (e : CellEditor) (keys : List Key), Decidable (e.KeepsOpen keys)
  | _, [] => .isTrue trivial
  | e, k :: keys =>
    @instDecidableAnd _ _ (inferInstanceAs (Decidable ((e.handleKey k).2.closes = false)))
      (decidableKeepsOpen (e.handleKey k).1 keys)

end CellEditor

end PropertySheet
