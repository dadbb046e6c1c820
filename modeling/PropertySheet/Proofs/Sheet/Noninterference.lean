import PropertySheet.Proofs.Sheet.Loading
import PropertySheet.Proofs.Sheet.Secrecy

/-!
# Sheets with other secrets look the same

Two new sheets are given the same calls, except that what they load may differ in the values of
secrets that are set in both. The secrets that matter are those of the last load: it starts from an
emptied sheet, of which nothing is left that depends on the secrets before.

`Indistinguishable` is what holds between two such sheets, `Indistinguishable.step` says that a call
keeps it, and `secrets_not_shown` is what an onlooker has of it: the grid, the editor, the dialog,
the notice and the picture are the same, and whether a key was taken is.
-/

namespace PropertySheet

open RowStore GridView

variable {names : List String}

/-! ## Calls that differ in secrets -/

/-- Values to load for one name. If they differ the property is a secret, and in both loads it is
set, by its value or by its default. -/
def LoadedAlike (descriptors : Descriptors) (v v' : String × Option String) : Prop :=
  v.1 = v'.1 ∧ (v.2 = v'.2 ∨
    (∃ d, descriptors.get? v.1 = some d ∧ d.IsSecret) ∧
      (Sheet.loadedRow descriptors v.1 v.2).value.isSome ∧
      (Sheet.loadedRow descriptors v'.1 v'.2).value.isSome)

/-- Calls that are the same, except that a load may have other secrets. -/
inductive Operation.Alike : Operation → Operation → Prop
  | same (op : Operation) : Operation.Alike op op
  | load {values values' : List (String × Option String)} (descriptors : Descriptors)
      (histories : Histories) : List.Forall₂ (LoadedAlike descriptors) values values' →
      Operation.Alike (.load values descriptors histories) (.load values' descriptors histories)

/-- Those of some properties that are secrets. -/
def secretsAmong (descriptors : Descriptors) (properties : List String) : List String :=
  properties.filter fun name => (descriptors.get? name).any fun d => d.IsSecret

theorem mem_secretsAmong {descriptors : Descriptors} {properties : List String} {name : String} :
    name ∈ secretsAmong descriptors properties ↔
      name ∈ properties ∧ ∃ d, descriptors.get? name = some d ∧ d.IsSecret := by
  simp [secretsAmong, Option.any_eq_true]

theorem secrets_secretsAmong (descriptors : Descriptors) (properties : List String) :
    Secrets (secretsAmong descriptors properties) descriptors :=
  fun _ hname => (mem_secretsAmong.mp hname).2

theorem loadedAlike_refl (descriptors : Descriptors) (v : String × Option String) :
    LoadedAlike descriptors v v := ⟨rfl, .inl rfl⟩

/-- Values that may differ make the same row when it is masked. -/
theorem LoadedAlike.mask_eq {descriptors : Descriptors} {v v' : String × Option String}
    (h : LoadedAlike descriptors v v') (hmasked : ∀ d, descriptors.get? v.1 = some d →
      d.IsSecret → v.1 ∈ names) :
    (Sheet.loadedRow descriptors v.1 v.2).mask names =
      (Sheet.loadedRow descriptors v'.1 v'.2).mask names := by
  obtain ⟨name, value⟩ := v
  obtain ⟨name', value'⟩ := v'
  obtain ⟨rfl, rfl | ⟨⟨d, hd, hsecret⟩, hset, hset'⟩⟩ := h
  · rfl
  · have hname : name ∈ names := hmasked d hd hsecret
    have hproperty : ∀ value, (Sheet.loadedRow descriptors name value).property = name :=
      fun _ => rfl
    simp only [NewRow.mask, hproperty, if_pos hname, masked_eq_of_isSome hset hset']
    rfl

section Loaded

variable {descriptors : Descriptors} {values values' : List (String × Option String)}
  (h : List.Forall₂ (LoadedAlike descriptors) values values')

include h

theorem names_eq_of_loadedAlike : values.map (·.1) = values'.map (·.1) := by
  induction h with
  | nil => rfl
  | cons hv _ ih => rw [List.map_cons, List.map_cons, hv.1, ih]

/-- The rows of both loads are the same when their secrets are masked. -/
theorem rows_eq_of_loadedAlike
    (hmasked : ∀ name ∈ values.map (·.1), ∀ d, descriptors.get? name = some d → d.IsSecret →
      name ∈ names) :
    (values.map fun v => Sheet.loadedRow descriptors v.1 v.2).map (NewRow.mask names) =
      (values'.map fun v => Sheet.loadedRow descriptors v.1 v.2).map (NewRow.mask names) := by
  induction h with
  | nil => rfl
  | cons hv _ ih =>
    rw [List.map_cons, List.forall_mem_cons] at hmasked
    simp only [List.map_cons]
    rw [hv.mask_eq hmasked.1, ih hmasked.2]

end Loaded

namespace Sheet

variable {s t : Sheet}

/-! ## Emptying and loading -/

theorem mask_cleared (store : RowStore) :
    store.clear.takeEvents.1.mask names = store.clear.takeEvents.1 := by
  have hnone : store.clear.takeEvents.1.rows = [] := rows_clear store
  generalize store.clear.takeEvents.1 = cleared at hnone
  rw [RowStore.mask, hnone, List.map_nil, ← hnone]

theorem mask_clear (names others : List String) (s : Sheet) :
    s.clear.mask others = (s.mask names).clear := by
  show ({ s.clear with
    store := s.store.clear.takeEvents.1.mask others
    view := s.view.reset.uncounted } : Sheet) = _
  rw [mask_cleared]
  rfl

/-- Emptied sheets are the same whatever is masked. -/
theorem Alike.clear (h : Alike names s t) (others : List String) :
    Alike others s.clear t.clear := by
  rw [Alike, mask_clear names, mask_clear names, h.mask_eq]

theorem Alike.knowing (h : Alike names s t) (descriptors : Descriptors) (histories : Histories) :
    Alike names { s with descriptors, histories } { t with descriptors, histories } := by
  show ({ s.mask names with descriptors, histories } : Sheet) =
    { t.mask names with descriptors, histories }
  rw [h.mask_eq]

/-! ## What cannot be told apart -/

/-- The sheets differ at most in secrets that are concealed in both. -/
def Indistinguishable (s t : Sheet) : Prop :=
  ∃ names, Alike names s t ∧ s.Conceals names ∧ t.Conceals names

theorem indistinguishable_ofConfig (config : SheetConfig) :
    Indistinguishable (ofConfig config) (ofConfig config) :=
  ⟨[], rfl, conceals_ofConfig config, conceals_ofConfig config⟩

theorem Indistinguishable.clear (h : Indistinguishable s t) :
    Indistinguishable s.clear t.clear := by
  obtain ⟨names, halike, hs, ht⟩ := h
  exact ⟨[], halike.clear [], hs.clear, ht.clear⟩

theorem Indistinguishable.destroy (h : Indistinguishable s t) :
    Indistinguishable s.destroy t.destroy := by
  obtain ⟨names, halike, hs, ht⟩ := h.clear
  refine ⟨names, ?_, ?_, ?_⟩
  · exact congrArg (fun u : Sheet => { u with events := [], destroyed := true }) halike.mask_eq
  · exact ⟨hs.current, hs.secrets, hs.stored, hs.asked, hs.refreshed, hs.created, hs.edited⟩
  · exact ⟨ht.current, ht.secrets, ht.stored, ht.asked, ht.refreshed, ht.created, ht.edited⟩

/-- Loads that differ in secrets fail both, or they leave the same rows when those are masked. -/
theorem Alike.replaceAll_cases (h : Alike names s t) {descriptors : Descriptors}
    {values values' : List (String × Option String)}
    (hvalues : List.Forall₂ (LoadedAlike descriptors) values values') :
    (∃ e e', s.clear.store.replaceAll (values.map fun v => loadedRow descriptors v.1 v.2) =
        .error e ∧
      t.clear.store.replaceAll (values'.map fun v => loadedRow descriptors v.1 v.2) = .error e') ∨
    ∃ store store',
      s.clear.store.replaceAll (values.map fun v => loadedRow descriptors v.1 v.2) = .ok store ∧
      t.clear.store.replaceAll (values'.map fun v => loadedRow descriptors v.1 v.2) = .ok store' ∧
      store.mask (secretsAmong descriptors (values.map (·.1))) =
        store'.mask (secretsAmong descriptors (values.map (·.1))) := by
  have hstores := congrArg Sheet.store
    (h.clear (secretsAmong descriptors (values.map (·.1)))).mask_eq
  have hrows := rows_eq_of_loadedAlike hvalues fun name hname d hd hsecret =>
    mem_secretsAmong.mpr ⟨hname, d, hd, hsecret⟩
  refine cases_of_map_eq ?_
  rw [← mask_replaceAll, ← mask_replaceAll, ← hrows]
  exact congrArg (RowStore.replaceAll · _) hstores

/-- After a load the secrets among the new properties are what may differ. -/
theorem Indistinguishable.load (h : Indistinguishable s t) {descriptors : Descriptors}
    {values values' : List (String × Option String)}
    (hvalues : List.Forall₂ (LoadedAlike descriptors) values values') (histories : Histories) :
    Indistinguishable (s.load values descriptors histories).1
      (t.load values' descriptors histories).1 := by
  have hcleared := h.clear
  obtain ⟨names, halike, hs, ht⟩ := h
  rcases halike.replaceAll_cases hvalues with
    ⟨e, e', hstore, hstore'⟩ | ⟨store, store', hstore, hstore', hsame⟩
  · rw [load_of_error hstore, load_of_error hstore']
    exact hcleared
  · rw [load_of_ok hstore, load_of_ok hstore']
    have hsecrets := secrets_secretsAmong descriptors (values.map (·.1))
    have hloaded : ∀ name ∈ secretsAmong descriptors (values.map (·.1)), name ∈ values.map (·.1) :=
      fun name hname => (mem_secretsAmong.mp hname).1
    -- from here on the names are a list of secrets, each of which both sheets have a row for
    generalize secretsAmong descriptors (values.map (·.1)) = secrets at hsame hsecrets hloaded
    have hloaded' : ∀ name ∈ secrets, name ∈ values'.map (·.1) :=
      names_eq_of_loadedAlike hvalues ▸ hloaded
    have hfilled := ((halike.clear secrets).storing hsame).knowing descriptors histories
    refine ⟨secrets, ?_, ?_, ?_⟩
    · exact (hfilled.sync hsecrets).viewing (f := selectFirst) fun _ => rfl
    · exact (hs.loaded hstore hsecrets hloaded histories).selecting 0
    · exact (ht.loaded hstore' hsecrets hloaded' histories).selecting 0

/-- What cannot be told apart stays so, even if the calls differ in secrets. -/
theorem Indistinguishable.step (h : Indistinguishable s t) {op op' : Operation}
    (hop : Operation.Alike op op') : Indistinguishable (s.apply op) (t.apply op') := by
  cases hop with
  | load descriptors histories hvalues => exact h.load hvalues histories
  | same =>
    cases hempties : op.empties with
    | false =>
      -- the secrets stay those of the last load
      obtain ⟨names, halike, hs, ht⟩ := h
      have hafter : Alike names (s.apply op) (t.apply op) :=
        halike.through (f := (·.apply op)) (mask_apply hs hempties) (mask_apply ht hempties)
      exact ⟨names, hafter, hs.apply hempties, ht.apply hempties⟩
    | true =>
      cases op with
      | load values descriptors histories =>
        exact h.load (List.forall₂_same.mpr fun v _ => loadedAlike_refl descriptors v) histories
      | clear => exact h.clear
      | destroy => exact h.destroy
      | _ => cases hempties

theorem Indistinguishable.run (h : Indistinguishable s t) {ops ops' : List Operation}
    (hops : List.Forall₂ Operation.Alike ops ops') :
    Indistinguishable (s.run ops) (t.run ops') := by
  -- over both sequences at once, for any two sheets that they start from
  induction hops generalizing s t with
  | nil => exact h
  | cons hop _ ih => exact ih (h.step hop)

/-! ### What an onlooker sees -/

theorem Alike.view_eq (h : Alike names s t) : s.view.uncounted = t.view.uncounted := by
  have hsame : (s.mask names).view = (t.mask names).view := by rw [h.mask_eq]
  exact hsame

theorem Alike.dialog_eq (h : Alike names s t) : s.dialog = t.dialog := by
  have hsame : (s.mask names).dialog = (t.mask names).dialog := by rw [h.mask_eq]
  exact hsame

theorem Alike.notice_eq (h : Alike names s t) : s.notice = t.notice := by
  have hsame : (s.mask names).notice = (t.mask names).notice := by rw [h.mask_eq]
  exact hsame

/-- Open editors are the same except for the values that they remember. -/
theorem Alike.editor_eq (h : Alike names s t) :
    s.editor.map (·.remembering none) = t.editor.map (·.remembering none) := by
  have hforget : ∀ u : Sheet, (u.mask names).editor.map (·.remembering none) =
      u.editor.map (·.remembering none) := by
    intro u
    show (u.editor.map (CellEditor.mask names)).map _ = _
    rw [Option.map_map]
    rfl
  rw [← hforget s, ← hforget t, h.mask_eq]

theorem Alike.handleKey_eq (h : Alike names s t) (hs : s.Conceals names) (ht : t.Conceals names)
    (k : Key) : (s.handleKey k).2 = (t.handleKey k).2 := by
  rw [← (mask_handleKey hs k).2, ← (mask_handleKey ht k).2, h.mask_eq]

theorem Alike.draw_eq (h : Alike names s t) (hs : s.Conceals names) (ht : t.Conceals names)
    (area : Rect) (screen : Screen) : s.draw area screen = t.draw area screen := by
  rw [← draw_mask hs.secrets, ← draw_mask ht.secrets, h.mask_eq]

/-- Secrets do not reach the screen. Two new sheets get the same calls, and what they load differs
in secrets only. Then all that is drawn from is the same in both, except that an open editor may
remember another value and that another number of rows may have been formatted last. Every key is
taken by both or by neither, and both are drawn the same. -/
theorem secrets_not_shown (config : SheetConfig) {ops ops' : List Operation}
    (h : List.Forall₂ Operation.Alike ops ops') :
    let s := (ofConfig config).run ops
    let t := (ofConfig config).run ops'
    s.view.uncounted = t.view.uncounted ∧
    s.editor.map (·.remembering none) = t.editor.map (·.remembering none) ∧
    s.dialog = t.dialog ∧
    s.notice = t.notice ∧
    (∀ k, (s.handleKey k).2 = (t.handleKey k).2) ∧
    ∀ area screen, s.draw area screen = t.draw area screen := by
  obtain ⟨names, halike, hs, ht⟩ := (indistinguishable_ofConfig config).run h
  exact ⟨halike.view_eq, halike.editor_eq, halike.dialog_eq, halike.notice_eq,
    halike.handleKey_eq hs ht, halike.draw_eq hs ht⟩

/-- A secret is loaded, and "abc" is entered for it. -/
def enteringSecretRun (old : String) : List Operation :=
  [.resize ⟨0, 0, 80, 20⟩,
    .load [("Password", some old)]
      (.ofList [("Password", { name := "Password", sensitive := true })]) .empty,
    .handleKey { code := .enter }] ++ enteringAbc

/-- One sheet sees no change, the other stores a new secret. -/
theorem secrets_not_shown_enteringSecretRun :
    let s := (ofConfig { dialogContainer := some "main" }).run (enteringSecretRun "abc")
    let t := (ofConfig { dialogContainer := some "main" }).run (enteringSecretRun "xyz")
    List.Forall₂ Operation.Alike (enteringSecretRun "abc") (enteringSecretRun "xyz") ∧
    s.changes = .empty ∧ t.changes = .ofList [("Password", some "abc")] ∧
    s.view.uncounted = t.view.uncounted ∧
    s.editor.map (·.remembering none) = t.editor.map (·.remembering none) ∧
    s.dialog = t.dialog ∧
    s.notice = t.notice ∧
    (∀ k, (s.handleKey k).2 = (t.handleKey k).2) ∧
    ∀ area screen, s.draw area screen = t.draw area screen := by
  intro s t
  have hloads : LoadedAlike
      (.ofList [("Password", { name := "Password", sensitive := true })])
      ("Password", some "abc") ("Password", some "xyz") := by
    refine ⟨rfl, .inr ⟨⟨{ name := "Password", sensitive := true }, ?_, rfl, rfl⟩, ?_, ?_⟩⟩ <;>
      decide +kernel
  have hsame : ∀ ops : List Operation, List.Forall₂ Operation.Alike ops ops :=
    fun ops => List.forall₂_same.mpr fun op _ => .same op
  have hops : List.Forall₂ Operation.Alike (enteringSecretRun "abc") (enteringSecretRun "xyz") :=
    .cons (.same _) (.cons (.load _ _ (.cons hloads .nil)) (hsame _))
  exact ⟨hops, by decide +kernel, by decide +kernel, secrets_not_shown _ hops⟩

end Sheet

end PropertySheet
