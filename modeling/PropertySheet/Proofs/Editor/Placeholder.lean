import PropertySheet.Proofs.Editor.Field

/-!
# The placeholder of a secret

A field on a secret shows a placeholder until the first key that edits. Keys that only move the
cursor or check the box leave the text alone (`typing_of_not_edits`), and the first edit starts over
with nothing. From then on the field is as one that was opened on no value and has taken the same
keys: the text and the cursor of both stay the same (`SameText.typing`), so that neither the
placeholder nor the secret is any part of them (`text_typing_secret`).
-/

namespace PropertySheet

/-- Whether a key edits the text of a field. -/
def Key.edits (k : Key) : Bool :=
  match k.code with
  | .char c => !k.control || c = 'u'
  | .tab | .backspace | .delete => true
  | .enter => k.shift || k.alt
  | _ => false

/-- The keys from the first one on that edits. -/
def Key.fromFirstEdit (keys : List Key) : List Key := keys.dropWhile fun k => !k.edits

theorem Key.reachesContent_of_edits {k : Key} (h : k.edits = true) : k.reachesContent = true := by
  unfold Key.edits at h
  unfold Key.reachesContent
  cases hcode : k.code with
  | char c => simp [CellEditor.dragStep, CellEditor.resizeStep]
  | tab => simp [CellEditor.dragStep, CellEditor.resizeStep]
  | backspace => simp [CellEditor.dragStep, CellEditor.resizeStep]
  | delete => simp [CellEditor.dragStep, CellEditor.resizeStep]
  | enter => simp [CellEditor.dragStep, CellEditor.resizeStep]
  | _ => simp [hcode] at h

/-- Keys that do not reach the content are not the first one that edits. -/
theorem Key.fromFirstEdit_filter (keys : List Key) :
    fromFirstEdit (keys.filter reachesContent) = (fromFirstEdit keys).filter reachesContent := by
  unfold fromFirstEdit
  induction keys with
  | nil => rfl
  | cons k keys ih =>
    cases hedits : k.edits with
    | true =>
      have hreaches := reachesContent_of_edits hedits
      simp [hedits, hreaches]
    | false =>
      cases hreaches : k.reachesContent with
      | true => simpa [hedits, hreaches] using ih
      | false => simpa [hedits, hreaches] using ih

namespace TextField

variable {f g : TextField} {k : Key}

/-! ## Keys that edit nothing -/

/-- A key that does not edit moves the cursor within the text, or checks the box. -/
theorem handleKey_of_not_edits (hk : k.edits = false) (hcursor : f.cursor ≤ f.chars.length) :
    ∃ cursor emptyRequested, cursor ≤ f.chars.length ∧
      (f.handleKey k).1 = { f with cursor, emptyRequested } := by
  unfold Key.edits at hk
  unfold handleKey
  cases hcode : k.code with
  | char c =>
    simp only [hcode, Bool.or_eq_false_iff, Bool.not_eq_false', decide_eq_false_iff_not] at hk
    simp only [hk.1, hk.2, if_true, if_false]
    split
    · exact ⟨f.cursor, !f.emptyRequested, hcursor, rfl⟩
    · exact ⟨f.cursor, f.emptyRequested, hcursor, rfl⟩
  | enter =>
    simp only [hcode] at hk
    simp only [hk, Bool.false_eq_true, if_false]
    exact ⟨f.cursor, f.emptyRequested, hcursor, rfl⟩
  | tab => simp [hcode] at hk
  | backspace => simp [hcode] at hk
  | delete => simp [hcode] at hk
  | left => exact ⟨f.cursor - 1, f.emptyRequested, by omega, rfl⟩
  | right => exact ⟨min (f.cursor + 1) f.chars.length, f.emptyRequested, by omega, rfl⟩
  | home => exact ⟨0, f.emptyRequested, by omega, rfl⟩
  | endOfLine => exact ⟨f.chars.length, f.emptyRequested, Nat.le_refl _, rfl⟩
  | _ => exact ⟨f.cursor, f.emptyRequested, hcursor, rfl⟩

theorem typing_of_not_edits {keys : List Key} (hkeys : ∀ k ∈ keys, k.edits = false)
    (hcursor : f.cursor ≤ f.chars.length) :
    ∃ cursor emptyRequested, cursor ≤ f.chars.length ∧
      f.typing keys = { f with cursor, emptyRequested } := by
  induction keys generalizing f with
  | nil => exact ⟨f.cursor, f.emptyRequested, hcursor, rfl⟩
  | cons k keys ih =>
    rw [List.forall_mem_cons] at hkeys
    obtain ⟨cursor, emptyRequested, hle, hkey⟩ := handleKey_of_not_edits hkeys.1 hcursor
    rw [typing_cons, hkey]
    exact ih (f := { f with cursor, emptyRequested }) hkeys.2 hle

/-! ## The first edit -/

theorem beginEdit_of_not_placeholder (h : f.placeholder = false) : f.beginEdit = f := by
  simp [beginEdit, h]

@[simp]
theorem placeholder_beginEdit (f : TextField) : f.beginEdit.placeholder = false := by
  unfold beginEdit
  split
  · split
    · rfl
    · rfl
  next h => simpa using h

/-- A key that edits drops the placeholder first, and nothing is left to drop after that. -/
theorem handleKey_beginEdit (hk : k.edits = true) :
    (f.beginEdit.handleKey k).1 = (f.handleKey k).1 := by
  have hidem : f.beginEdit.beginEdit = f.beginEdit :=
    beginEdit_of_not_placeholder f.placeholder_beginEdit
  unfold Key.edits at hk
  unfold handleKey
  cases hcode : k.code with
  | char c =>
    dsimp only
    cases hcontrol : k.control with
    | true =>
      have hu : c = 'u' := by simpa [hcode, hcontrol] using hk
      simp [hu, clear, hidem]
    | false => simp [insert, hidem]
  | enter =>
    have hnewline : (k.shift || k.alt) = true := by simpa [hcode] using hk
    simp only [hnewline, if_true, insert, hidem]
  | tab => simp only [insert, hidem]
  | backspace => simp only [backspace, hidem]
  | delete => simp only [delete, hidem]
  | _ => simp [hcode] at hk

/-! ## Fields with the same text -/

/-- The fields have the same text and cursor, and neither stands for a secret any more. -/
structure SameText (f g : TextField) : Prop where
  chars : f.chars = g.chars
  cursor : f.cursor = g.cursor
  left : f.placeholder = false
  right : g.placeholder = false

theorem SameText.insert (h : f.SameText g) (cs : List Char) :
    (f.insert cs).SameText (g.insert cs) := by
  unfold TextField.insert
  rw [beginEdit_of_not_placeholder h.left, beginEdit_of_not_placeholder h.right]
  exact ⟨by simp only [h.chars, h.cursor], by simp only [h.cursor], h.left, h.right⟩

theorem SameText.backspace (h : f.SameText g) : f.backspace.SameText g.backspace := by
  unfold TextField.backspace
  rw [beginEdit_of_not_placeholder h.left, beginEdit_of_not_placeholder h.right]
  dsimp only
  rw [h.cursor]
  split
  · exact h
  · exact ⟨by simp only [h.chars], rfl, h.left, h.right⟩

theorem SameText.delete (h : f.SameText g) : f.delete.SameText g.delete := by
  unfold TextField.delete
  rw [beginEdit_of_not_placeholder h.left, beginEdit_of_not_placeholder h.right]
  exact ⟨by simp only [h.chars, h.cursor], h.cursor, h.left, h.right⟩

theorem sameText_clear (f g : TextField) : f.clear.SameText g.clear :=
  ⟨rfl, rfl, f.placeholder_beginEdit, g.placeholder_beginEdit⟩

/-- Of two such fields a key makes such fields again. -/
theorem SameText.handleKey (h : f.SameText g) (k : Key) :
    (f.handleKey k).1.SameText (g.handleKey k).1 := by
  unfold TextField.handleKey
  cases k.code with
  | char c =>
    dsimp only
    split
    · split
      · exact ⟨h.chars, h.cursor, h.left, h.right⟩
      · split
        · exact sameText_clear f g
        · exact h
    · exact h.insert [c]
  | enter =>
    dsimp only
    split
    · exact h.insert ['\n']
    · exact h
  | tab => exact h.insert ['\t']
  | backspace => exact h.backspace
  | delete => exact h.delete
  | left => exact ⟨h.chars, congrArg (· - 1) h.cursor, h.left, h.right⟩
  | right =>
    exact ⟨h.chars, by simp only [moveRight, h.chars, h.cursor], h.left, h.right⟩
  | home => exact ⟨h.chars, rfl, h.left, h.right⟩
  | endOfLine => exact ⟨h.chars, congrArg List.length h.chars, h.left, h.right⟩
  | _ => exact h

theorem SameText.typing (h : f.SameText g) (keys : List Key) :
    (f.typing keys).SameText (g.typing keys) := by
  induction keys generalizing f g with
  | nil => exact h
  | cons k keys ih => exact ih (h.handleKey k)

/-- The first edit of a secret starts over with nothing, wherever the cursor is in the
placeholder. -/
theorem sameText_beginEdit_secret (value : Option String) {cursor : Nat} (emptyRequested : Bool)
    (hcursor : cursor ≤ (load value true).chars.length) :
    ({ load value true with cursor, emptyRequested } : TextField).beginEdit.SameText
      (load none false) := by
  cases value with
  | none =>
    have hzero : cursor = 0 := Nat.le_zero.mp hcursor
    subst hzero
    exact ⟨rfl, rfl, rfl, rfl⟩
  | some v => exact ⟨rfl, rfl, rfl, rfl⟩

/-- A field on a secret, its cursor anywhere in the placeholder, has the text that the keys from the
first edit on make of nothing. -/
theorem sameText_typing_moved (value : Option String) {keys : List Key}
    (hedits : ∃ k ∈ keys, k.edits = true) {cursor : Nat} (emptyRequested : Bool)
    (hcursor : cursor ≤ (load value true).chars.length) :
    (({ load value true with cursor, emptyRequested } : TextField).typing keys).SameText
      ((load none false).typing (Key.fromFirstEdit keys)) := by
  -- before the first edit only cursor and box change, and the claim is for all of both
  induction keys generalizing cursor emptyRequested with
  | nil => simp at hedits
  | cons k keys ih =>
    have hsecret := sameText_beginEdit_secret value emptyRequested hcursor
    cases hk : k.edits with
    | true =>
      have hfirst : Key.fromFirstEdit (k :: keys) = k :: keys := by simp [Key.fromFirstEdit, hk]
      rw [hfirst, typing_cons, typing_cons, ← handleKey_beginEdit hk]
      exact (hsecret.handleKey k).typing keys
    | false =>
      have hlater : Key.fromFirstEdit (k :: keys) = Key.fromFirstEdit keys := by
        simp [Key.fromFirstEdit, hk]
      have hrest : ∃ k ∈ keys, k.edits = true := by simpa [hk] using hedits
      obtain ⟨cursor', emptyRequested', hle, hkey⟩ := handleKey_of_not_edits
        (f := { load value true with cursor, emptyRequested }) hk hcursor
      rw [hlater, typing_cons, hkey]
      exact ih hrest emptyRequested' hle

/-- A text that is still that of the placeholder stands for the value of before. -/
theorem resolve_of_placeholder (hplaceholder : f.placeholder = true) (hchars : f.chars ≠ [])
    (d : Option Descriptor) (previous : Option String) : f.resolve d previous = previous := by
  simp [resolve, hchars, hplaceholder]

theorem cursor_load_le (value : Option String) (sensitive : Bool) :
    (load value sensitive).cursor ≤ (load value sensitive).chars.length := by
  cases value with
  | none => exact Nat.le_refl _
  | some v => cases sensitive <;> exact Nat.le_refl _

theorem sameText_typing_secret (value : Option String) {keys : List Key}
    (hedits : ∃ k ∈ keys, k.edits = true) :
    ((load value true).typing keys).SameText
      ((load none false).typing (Key.fromFirstEdit keys)) :=
  sameText_typing_moved value hedits (load value true).emptyRequested (cursor_load_le value true)

/-- Before any edit a field on a secret shows what it opened with, and if there is a value it stands
for that of before, whatever the descriptor is. -/
theorem typing_secret_of_not_edits (value : Option String) {keys : List Key}
    (hkeys : ∀ k ∈ keys, k.edits = false) :
    ((load value true).typing keys).text = (load value true).text ∧
    (value.isSome → ∀ d previous, ((load value true).typing keys).resolve d previous = previous) := by
  obtain ⟨cursor, emptyRequested, -, hmoved⟩ := typing_of_not_edits hkeys (cursor_load_le value true)
  rw [hmoved]
  refine ⟨rfl, fun hset d previous => ?_⟩
  obtain ⟨v, rfl⟩ := Option.isSome_iff_exists.mp hset
  have hshown : sensitivePlaceholder.toList ≠ [] := by decide
  exact resolve_of_placeholder rfl hshown d previous

/-- After the first edit, a text is committed as it is. -/
theorem resolve_of_text (hplaceholder : f.placeholder = false) (htext : f.text ≠ "")
    (d : Option Descriptor) (previous : Option String) : f.resolve d previous = some f.text := by
  have hchars : f.chars ≠ [] := fun h => htext (by simp [text, h])
  simp [resolve, hchars, hplaceholder]

end TextField

namespace CellEditor

/-- For every field on a secret and every sequence of keys. As long as no key edits, the text is the
one that the field opened with, and if there is a value it stands for the value of before under every
descriptor. From the first edit on, text and cursor are those of any editor that was opened on no
value and no secret and has taken the keys from that one on, and a text that is not empty is
committed as it is. -/
theorem text_typing_secret (r : Row) {d : Descriptor}
    (hfield : EditorKind.ofDescriptor (some d) ≠ .choice) (hsecret : d.sensitive = true)
    (anchor : Rect) (keys : List Key) :
    let e := (onRow r (some d) anchor).typing keys
    (onRow r (some d) anchor).body.field? = some (.load r.value true) ∧
    ∃ f, e.body.field? = some f ∧
      ((∀ k ∈ keys, k.edits = false) →
        f.text = (TextField.load r.value true).text ∧
        (r.value.isSome → e.commit = ⟨r.value, false⟩ ∧
          ∀ d' previous, f.resolve d' previous = previous)) ∧
      ((∃ k ∈ keys, k.edits = true) →
        (∀ (r₀ : Row) (d₀ : Option Descriptor) (anchor₀ : Rect), r₀.value = none →
          EditorKind.ofDescriptor d₀ ≠ .choice → d₀.any (·.sensitive) = false →
          ∃ f₀, ((onRow r₀ d₀ anchor₀).typing (Key.fromFirstEdit keys)).body.field? = some f₀ ∧
            f.text = f₀.text ∧ f.cursor = f₀.cursor) ∧
        (f.text ≠ "" → e.commit.value = some f.text)) := by
  intro e
  have hopen : (onRow r (some d) anchor).body.field? = some (.load r.value true) := by
    rw [field?_onRow r hfield, Option.any_some, hsecret]
  obtain ⟨f, hf, hbody, hcommit⟩ := commit_typing_of_field r hfield anchor keys
  rw [Option.any_some, hsecret] at hf
  refine ⟨hopen, f, hbody, fun hkeys => ?_, fun hedits => ?_⟩
  · have hrest : ∀ k ∈ keys.filter Key.reachesContent, k.edits = false :=
      fun k hk => hkeys k (List.mem_filter.mp hk).1
    obtain ⟨htext, hkept⟩ := TextField.typing_secret_of_not_edits r.value hrest
    rw [← hf] at htext hkept
    refine ⟨htext, fun hset => ⟨?_, hkept hset⟩⟩
    rw [show e.commit = _ from hcommit, hkept hset]
    simp
  · have hreaching : ∃ k ∈ keys.filter Key.reachesContent, k.edits = true := by
      obtain ⟨k, hk, hedit⟩ := hedits
      exact ⟨k, List.mem_filter.mpr ⟨hk, Key.reachesContent_of_edits hedit⟩, hedit⟩
    have hsame := TextField.sameText_typing_secret r.value hreaching
    rw [← hf, Key.fromFirstEdit_filter] at hsame
    refine ⟨fun r₀ d₀ anchor₀ hunset hfield₀ hplain => ?_, fun htext => ?_⟩
    · obtain ⟨f₀, hf₀, hbody₀, -⟩ :=
        commit_typing_of_field r₀ hfield₀ anchor₀ (Key.fromFirstEdit keys)
      rw [hunset, hplain] at hf₀
      rw [← hf₀] at hsame
      exact ⟨f₀, hbody₀, congrArg String.ofList hsame.chars, hsame.cursor⟩
    · rw [show e.commit = _ from hcommit]
      show f.resolve (some d) r.value = _
      exact TextField.resolve_of_text hsame.left htext _ _

/-- The row of a secret. -/
def passwordRow : Row := (NewRow.loaded "Password" "Password" (some "s3cr3t") .optional).withId 0

/-- The cursor goes into the placeholder, the box is checked and unchecked, and a new secret is
typed. -/
def newSecretKeys : List Key := [
  { code := .left }, { code := .char 'e', control := true }, { code := .home },
  { code := .char 'n' }, { code := .char 'w' }, { code := .left }, { code := .char 'e' }]

/-- The new secret is what was typed, and the old one stays if nothing was. -/
theorem text_typing_secret_newSecret :
    let d : Descriptor := { name := "Password", sensitive := true }
    let e := onRow passwordRow (some d) {}
    EditorKind.ofDescriptor (some d) ≠ .choice ∧ d.sensitive = true ∧
    (e.typing [{ code := .left }]).commit = ⟨some "s3cr3t", false⟩ ∧
    ∃ f, (e.typing newSecretKeys).body.field? = some f ∧ f.text = "new" ∧
      (e.typing newSecretKeys).commit.value = some "new" := by
  intro d e
  have hfield : EditorKind.ofDescriptor (some d) ≠ .choice := by decide
  obtain ⟨-, f', -, hkept, -⟩ := text_typing_secret passwordRow hfield rfl {} [{ code := .left }]
  obtain ⟨-, f, hbody, -, hedited⟩ := text_typing_secret passwordRow hfield rfl {} newSecretKeys
  obtain ⟨hreference, hliteral⟩ := hedited (by decide)
  obtain ⟨f₀, hbody₀, htext, -⟩ := hreference { passwordRow with value := none } none {} rfl
    (by decide) rfl
  have hnew : f.text = "new" := by
    have htyped : ((onRow { passwordRow with value := none } none {}).typing
        (Key.fromFirstEdit newSecretKeys)).body.field?.map (·.text) = some "new" := by
      decide +kernel
    rw [hbody₀] at htyped
    exact htext.trans (Option.some.inj htyped)
  refine ⟨hfield, rfl, ((hkept (by decide)).2 rfl).1, f, hbody, hnew, ?_⟩
  rw [hliteral (by rw [hnew]; decide), hnew]

end CellEditor

end PropertySheet
