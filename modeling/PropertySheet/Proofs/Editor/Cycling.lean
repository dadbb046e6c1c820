import Mathlib.Data.Nat.Find
import Mathlib.Logic.Function.Iterate
import PropertySheet.Proofs.Editor.Committing
import PropertySheet.Proofs.Editor.Field

/-!
# The highlight of a list goes around

The highlight of a list of values moves from an enabled entry to the next one, and from the last one
to the first. `nextEnabled_eq_some_iff` says where it comes to: it is the first enabled place among
the steps around the list. From this follow both laws of the keys. As many steps as there are
entries come by every place, so that the highlight reaches all that is enabled
(`exists_iterate_move`), and a step back meets the same disabled entries, so that it undoes a step
(`highlighted_move_move`).

The selection follows the highlight except to the entry that creates a service, which is no value.
`Placed` is what keys keep of the two.
-/

namespace PropertySheet

namespace ChoiceList

/-! ## Steps around a list -/

variable {n place : Nat}

theorem stepPlace_lt (forward : Bool) (h : 0 < n) : stepPlace forward n place < n := by
  cases forward with
  | true => exact Nat.mod_lt _ h
  | false => exact Nat.mod_lt _ h

theorem iterate_stepPlace_lt (forward : Bool) (h : place < n) (steps : Nat) :
    (stepPlace forward n)^[steps] place < n := by
  cases steps with
  | zero => exact h
  | succ steps =>
    rw [Function.iterate_succ_apply']
    exact stepPlace_lt forward (Nat.zero_lt_of_lt h)

/-- A step the other way undoes a step. -/
theorem stepPlace_stepPlace (forward : Bool) (h : place < n) :
    stepPlace (!forward) n (stepPlace forward n place) = place := by
  cases forward with
  | true =>
    show ((place + 1) % n + n - 1) % n = place
    rcases Nat.lt_or_eq_of_le h with hinside | rfl
    · rw [Nat.mod_eq_of_lt hinside, show place + 1 + n - 1 = place + n by omega,
        Nat.add_mod_right, Nat.mod_eq_of_lt h]
    · rw [Nat.succ_eq_add_one, Nat.mod_self, Nat.zero_add, Nat.add_sub_cancel,
        Nat.mod_eq_of_lt (Nat.lt_succ_self place)]
  | false =>
    show ((place + n - 1) % n + 1) % n = place
    cases place with
    | zero =>
      rw [Nat.zero_add, Nat.mod_eq_of_lt (Nat.sub_one_lt_of_lt h), Nat.sub_one_add_one_eq_of_pos h,
        Nat.mod_self]
    | succ place =>
      rw [show place + 1 + n - 1 = place + n by omega, Nat.add_mod_right,
        Nat.mod_eq_of_lt (Nat.lt_of_succ_lt h), Nat.mod_eq_of_lt h]

/-- Steps back come by the places that the steps before them came by. -/
theorem iterate_back (forward : Bool) (h : place < n) {back steps : Nat} (hback : back ≤ steps) :
    (stepPlace (!forward) n)^[back] ((stepPlace forward n)^[steps] place) =
      (stepPlace forward n)^[steps - back] place := by
  induction back with
  | zero => rfl
  | succ back ih =>
    rw [Function.iterate_succ_apply', ih (Nat.le_of_succ_le hback),
      show steps - back = steps - (back + 1) + 1 by omega, Function.iterate_succ_apply',
      stepPlace_stepPlace forward (iterate_stepPlace_lt forward h _)]

theorem iterate_forward (h : place < n) (steps : Nat) :
    (stepPlace true n)^[steps] place = (place + steps) % n := by
  induction steps with
  | zero => exact (Nat.mod_eq_of_lt h).symm
  | succ steps ih =>
    rw [Function.iterate_succ_apply', ih]
    exact Nat.mod_add_mod _ _ _

/-- Fewer steps than there are places come to any of them. -/
theorem exists_iterate_eq (forward : Bool) {target : Nat} (h : place < n) (htarget : target < n) :
    ∃ steps < n, (stepPlace forward n)^[steps] place = target := by
  -- forward from one place to the other, which is also the way back
  have hway : ∀ {a b : Nat}, a < n → b < n → ∃ steps < n, (stepPlace true n)^[steps] a = b := by
    intro a b ha hb
    by_cases hab : a ≤ b
    · refine ⟨b - a, by omega, ?_⟩
      rw [iterate_forward ha, show a + (b - a) = b by omega, Nat.mod_eq_of_lt hb]
    · refine ⟨b + n - a, by omega, ?_⟩
      rw [iterate_forward ha, show a + (b + n - a) = b + n by omega, Nat.add_mod_right,
        Nat.mod_eq_of_lt hb]
  cases forward with
  | true => exact hway h htarget
  | false =>
    obtain ⟨steps, hsteps, hplace⟩ := hway htarget h
    refine ⟨steps, hsteps, ?_⟩
    rw [← hplace]
    have hback := iterate_back true htarget (Nat.le_refl steps)
    rwa [Nat.sub_self] at hback

/-- All the steps around a list come back to where they began. -/
theorem iterate_length (forward : Bool) (h : place < n) :
    (stepPlace forward n)^[n] place = place := by
  have hround : (stepPlace true n)^[n] place = place := by
    rw [iterate_forward h, Nat.add_mod_right, Nat.mod_eq_of_lt h]
  cases forward with
  | true => exact hround
  | false =>
    have hback := iterate_back true h (Nat.le_refl n)
    rwa [hround, Nat.sub_self] at hback

/-! ## The next enabled entry -/

/-- There is an entry at a place, and it may be highlighted. -/
def Enabled (entries : List ChoiceEntry) (place : Nat) : Prop :=
  ∃ e, entries[place]? = some e ∧ e.disabled = false

variable {entries : List ChoiceEntry} {forward : Bool} {looks next : Nat}

theorem Enabled.lt (h : Enabled entries place) : place < entries.length := by
  obtain ⟨e, he, -⟩ := h
  exact (List.getElem?_eq_some_iff.mp he).1

/-- One look: at the next place, and from there on if that is disabled. -/
theorem nextEnabled_succ (h : place < entries.length) :
    (Enabled entries (stepPlace forward entries.length place) ∧
      nextEnabled entries forward (looks + 1) place =
        some (stepPlace forward entries.length place)) ∨
    (¬ Enabled entries (stepPlace forward entries.length place) ∧
      nextEnabled entries forward (looks + 1) place =
        nextEnabled entries forward looks (stepPlace forward entries.length place)) := by
  obtain ⟨e, he⟩ : ∃ e, entries[stepPlace forward entries.length place]? = some e :=
    ⟨_, List.getElem?_eq_getElem (stepPlace_lt forward (Nat.zero_lt_of_lt h))⟩
  cases hdisabled : e.disabled with
  | false =>
    left
    exact ⟨⟨e, he, hdisabled⟩, by simp [nextEnabled, he, hdisabled]⟩
  | true =>
    right
    refine ⟨?_, by simp [nextEnabled, he, hdisabled]⟩
    rintro ⟨e', he', henabled⟩
    obtain rfl := Option.some.inj (he.symm.trans he')
    cases hdisabled.symm.trans henabled

/-- What is found is the first enabled place among as many steps as there are looks. -/
theorem nextEnabled_eq_some_iff (h : place < entries.length) :
    nextEnabled entries forward looks place = some next ↔
      ∃ skipped < looks, (stepPlace forward entries.length)^[skipped + 1] place = next ∧
        Enabled entries next ∧
        ∀ i < skipped, ¬ Enabled entries ((stepPlace forward entries.length)^[i + 1] place) := by
  induction looks generalizing place with
  | zero => simp [nextEnabled]
  | succ looks ih =>
    have hnext : stepPlace forward entries.length place < entries.length :=
      stepPlace_lt forward (Nat.zero_lt_of_lt h)
    rcases nextEnabled_succ h with ⟨henabled, hfound⟩ | ⟨hdisabled, hfound⟩
    · rw [hfound, Option.some.injEq]
      constructor
      · rintro rfl
        exact ⟨0, Nat.succ_pos _, rfl, henabled, fun i hi => absurd hi (Nat.not_lt_zero i)⟩
      · rintro ⟨skipped, -, hplace, -, hbefore⟩
        cases skipped with
        | zero => exact hplace
        | succ skipped => exact absurd henabled (hbefore 0 (Nat.succ_pos _))
    · rw [hfound, ih hnext]
      constructor
      · rintro ⟨skipped, hskipped, hplace, henabled, hbefore⟩
        refine ⟨skipped + 1, Nat.succ_lt_succ hskipped, hplace, henabled, fun i hi => ?_⟩
        cases i with
        | zero => exact hdisabled
        | succ i => exact hbefore i (Nat.lt_of_succ_lt_succ hi)
      · rintro ⟨skipped, hskipped, hplace, henabled, hbefore⟩
        cases skipped with
        | zero =>
          rw [← hplace] at henabled
          exact absurd henabled hdisabled
        | succ skipped =>
          exact ⟨skipped, Nat.lt_of_succ_lt_succ hskipped, hplace, henabled,
            fun i hi => hbefore (i + 1) (Nat.succ_lt_succ hi)⟩

/-- An enabled place within reach is found, or another one on the way to it. -/
theorem exists_nextEnabled (h : place < entries.length) {steps : Nat} (hsteps : steps < looks)
    (henabled : Enabled entries ((stepPlace forward entries.length)^[steps + 1] place)) :
    ∃ skipped ≤ steps, nextEnabled entries forward looks place =
      some ((stepPlace forward entries.length)^[skipped + 1] place) := by
  classical
  have hexists : ∃ i, Enabled entries ((stepPlace forward entries.length)^[i + 1] place) :=
    ⟨steps, henabled⟩
  have hle : Nat.find hexists ≤ steps := Nat.find_min' hexists henabled
  exact ⟨Nat.find hexists, hle, (nextEnabled_eq_some_iff h).mpr
    ⟨_, Nat.lt_of_le_of_lt hle hsteps, rfl, Nat.find_spec hexists,
      fun _ hi => Nat.find_min hexists hi⟩⟩

/-! ## Moves of the highlight -/

variable {l : ChoiceList}

@[simp]
theorem entries_highlight (l : ChoiceList) (place : Nat) :
    (l.highlight place).entries = l.entries := by
  unfold highlight
  split <;> rfl

@[simp]
theorem highlighted_highlight (l : ChoiceList) (place : Nat) :
    (l.highlight place).highlighted = place := by
  unfold highlight
  split <;> rfl

theorem move_eq_highlight (h : nextEnabled l.entries forward l.entries.length l.highlighted =
    some next) : l.move forward = l.highlight next := by
  rw [move, h]

@[simp]
theorem entries_move (l : ChoiceList) (forward : Bool) : (l.move forward).entries = l.entries := by
  unfold move
  split
  · exact l.entries_highlight _
  · rfl

/-- The highlight comes to every enabled entry, in fewer moves than there are entries. -/
theorem exists_iterate_move (forward : Bool) (h : l.highlighted < l.entries.length)
    (henabled : Enabled l.entries place) :
    ∃ moves < l.entries.length, ((move · forward)^[moves] l).highlighted = place := by
  -- each move leaves fewer steps to take
  have hreach : ∀ steps < l.entries.length, ∀ l' : ChoiceList, l'.entries = l.entries →
      l'.highlighted < l.entries.length →
      (stepPlace forward l.entries.length)^[steps] l'.highlighted = place →
      ∃ moves ≤ steps, ((move · forward)^[moves] l').highlighted = place := by
    intro steps
    induction steps using Nat.strongRecOn with
    | _ steps ih =>
      intro hsteps l' hentries hinside hplace
      cases steps with
      | zero => exact ⟨0, Nat.le_refl 0, hplace⟩
      | succ steps =>
        rw [← hplace, ← hentries] at henabled
        obtain ⟨skipped, hskipped, hnext⟩ := exists_nextEnabled (hentries ▸ hinside)
          (hentries ▸ Nat.lt_of_succ_lt hsteps : steps < l'.entries.length) henabled
        have hmoved := move_eq_highlight hnext
        have hrest : (stepPlace forward l.entries.length)^[steps - skipped]
            (l'.move forward).highlighted = place := by
          rw [hmoved, highlighted_highlight, hentries, ← Function.iterate_add_apply,
            show steps - skipped + (skipped + 1) = steps + 1 by omega, hplace]
        have hstill : (l'.move forward).highlighted < l.entries.length := by
          rw [hmoved, highlighted_highlight, hentries]
          exact iterate_stepPlace_lt forward hinside _
        obtain ⟨moves, hmoves, hreached⟩ := ih (steps - skipped) (by omega) (by omega)
          (l'.move forward) ((l'.entries_move forward).trans hentries) hstill hrest
        exact ⟨moves + 1, by omega, hreached⟩
  obtain ⟨steps, hsteps, hplace⟩ := exists_iterate_eq forward h henabled.lt
  obtain ⟨moves, hmoves, hreached⟩ := hreach steps hsteps l rfl h hplace
  exact ⟨moves, Nat.lt_of_le_of_lt hmoves hsteps, hreached⟩

/-- A move and one the other way bring the highlight back to an enabled entry. -/
theorem highlighted_move_move (forward : Bool) (henabled : Enabled l.entries l.highlighted) :
    ((l.move forward).move (!forward)).highlighted = l.highlighted := by
  have hinside := henabled.lt
  obtain ⟨last, hlast⟩ : ∃ last, l.entries.length = last + 1 :=
    Nat.exists_eq_succ_of_ne_zero (Nat.ne_zero_of_lt hinside)
  -- the way around meets the highlighted entry itself, so that there is a next one
  have hround : (stepPlace forward l.entries.length)^[last + 1] l.highlighted = l.highlighted := by
    rw [← hlast]
    exact iterate_length forward hinside
  obtain ⟨_, _, hnext⟩ := exists_nextEnabled hinside
    (hlast ▸ Nat.lt_succ_self last : last < l.entries.length) (hround.symm ▸ henabled)
  obtain ⟨skipped, hskipped, hplace, -, hdisabled⟩ := (nextEnabled_eq_some_iff hinside).mp hnext
  rw [move_eq_highlight hnext, ← hplace]
  have hback : nextEnabled l.entries (!forward) l.entries.length
      ((stepPlace forward l.entries.length)^[skipped + 1] l.highlighted) = some l.highlighted := by
    refine (nextEnabled_eq_some_iff (iterate_stepPlace_lt forward hinside _)).mpr
      ⟨skipped, hskipped, ?_, henabled, fun i hi => ?_⟩
    · rw [iterate_back forward hinside (Nat.le_refl _), Nat.sub_self]
      rfl
    · rw [iterate_back forward hinside (by omega),
        show skipped + 1 - (i + 1) = skipped - (i + 1) + 1 by omega]
      exact hdisabled _ (by omega)
  have hreturn : ((l.highlight ((stepPlace forward l.entries.length)^[skipped + 1]
      l.highlighted)).move (!forward)) = _ := move_eq_highlight (by simpa using hback)
  rw [hreturn, highlighted_highlight]

/-! ## The highlight and the selection -/

/-- The entry that creates a service is the highlighted one. -/
def OnCreation (l : ChoiceList) : Prop := l.entries[l.highlighted]? = some createEntry

instance (l : ChoiceList) : Decidable l.OnCreation := inferInstanceAs (Decidable (_ = _))

/-- The highlight and the selection among the entries of a descriptor. The selection is on a value,
and it is behind the highlight only while that is on the entry that creates a service. -/
structure Placed (d : Descriptor) (loadValue : Option String) (l : ChoiceList) : Prop where
  entries : l.entries = entriesOf d loadValue
  highlighted_lt : l.highlighted < l.entries.length
  selected_lt : l.selected < l.entries.length
  selected_value : ∃ v, l.valueAt l.selected = some (.value v)
  together : l.selected ≠ l.highlighted → l.OnCreation

variable {d : Descriptor} {loadValue value : Option String}

/-- A place with a value is one of the list. -/
theorem lt_of_valueAt {v : ChoiceValue} (h : l.valueAt place = some v) :
    place < l.entries.length := by
  obtain ⟨e, he, -⟩ := Option.map_eq_some_iff.mp h
  exact (List.getElem?_eq_some_iff.mp he).1

/-- Of the entries of a descriptor only one creates a service. -/
theorem valueAt_eq_createService_iff (hentries : l.entries = entriesOf d loadValue) :
    l.valueAt place = some .createService ↔ l.entries[place]? = some createEntry := by
  constructor
  · intro h
    obtain ⟨e, he, hcreates⟩ := Option.map_eq_some_iff.mp h
    rw [he]
    rcases mem_entriesOf.mp (hentries ▸ List.mem_of_getElem? he) with
      ⟨-, rfl⟩ | ⟨a, -, rfl⟩ | ⟨-, -, rfl⟩ | ⟨-, rfl⟩
    · cases hcreates
    · cases hcreates
    · cases hcreates
    · rfl
  · intro h
    rw [valueAt, h]
    rfl

theorem placed_load (d : Descriptor) (value loadValue : Option String) :
    (load d value loadValue).Placed d loadValue := by
  have hselected : (load d value loadValue).valueAt (load d value loadValue).selected = _ :=
    valueAt_selected_load
  have hinside := lt_of_valueAt hselected
  exact ⟨rfl, hinside, hinside, ⟨_, hselected⟩, fun h => absurd rfl h⟩

theorem Placed.highlight (h : l.Placed d loadValue) (hplace : place < l.entries.length) :
    (l.highlight place).Placed d loadValue := by
  obtain ⟨v, hv⟩ : ∃ v, l.valueAt place = some v :=
    ⟨_, congrArg (Option.map ChoiceEntry.value) (List.getElem?_eq_getElem hplace)⟩
  unfold ChoiceList.highlight
  rw [hv]
  cases v with
  | value v => exact ⟨h.entries, hplace, hplace, ⟨v, hv⟩, fun hapart => absurd rfl hapart⟩
  | createService =>
    exact ⟨h.entries, hplace, h.selected_lt, h.selected_value,
      fun _ => (valueAt_eq_createService_iff h.entries).mp hv⟩

theorem Placed.move (h : l.Placed d loadValue) (forward : Bool) :
    (l.move forward).Placed d loadValue := by
  unfold ChoiceList.move
  split
  next place hplace =>
    obtain ⟨e, he, -⟩ := nextEnabled_eq_some hplace
    exact h.highlight (List.getElem?_eq_some_iff.mp he).1
  · exact h

theorem Placed.handleKey (h : l.Placed d loadValue) (k : Key) (serviceType : Option String) :
    (l.handleKey k serviceType).1.Placed d loadValue := by
  unfold ChoiceList.handleKey
  split
  · exact h
  · exact h.move false
  · exact h.move false
  · exact h.move false
  · exact h.move true
  · exact h.move true
  · exact h.move true
  · split
    · exact h
    · exact h
  · exact h

/-- The highlighted entry is the selected one if it stands for a value. -/
theorem Placed.selectedValue_eq (h : l.Placed d loadValue) {e : ChoiceEntry} {v : Option String}
    (he : l.entries[l.highlighted]? = some e) (hv : e.value = .value v) : l.selectedValue = v := by
  have hsame : l.selected = l.highlighted := by
    by_contra hapart
    have hcreation : l.entries[l.highlighted]? = some createEntry := h.together hapart
    rw [he] at hcreation
    cases hcreation
    cases hv
  have hvalue : l.valueAt l.selected = some (.value v) := by
    rw [hsame, valueAt, he, Option.map_some, hv]
  simp only [selectedValue, hvalue]

end ChoiceList

/-! ## Keys in an editor with a list -/

namespace CellEditor

variable {e : CellEditor} {l : ChoiceList} {d : Descriptor}

theorem handleKey_down (halive : e.destroyed = false) (hbody : e.body = .choice l) :
    (e.handleKey { code := .down }).1 = { e with body := .choice (l.move true) } := by
  simp [handleKey, halive, handleBodyKey, hbody, EditorBody.handleKey, ChoiceList.handleKey]

theorem handleKey_up (halive : e.destroyed = false) (hbody : e.body = .choice l) :
    (e.handleKey { code := .up }).1 = { e with body := .choice (l.move false) } := by
  simp [handleKey, halive, handleBodyKey, hbody, EditorBody.handleKey, ChoiceList.handleKey]

theorem typing_downs (halive : e.destroyed = false) (hbody : e.body = .choice l) (downs : Nat) :
    e.typing (List.replicate downs { code := .down }) =
      { e with body := .choice ((ChoiceList.move · true)^[downs] l) } := by
  induction downs generalizing e l with
  | zero =>
    show e = { e with body := .choice l }
    rw [← hbody]
  | succ downs ih =>
    show (e.handleKey { code := .down }).1.typing (List.replicate downs { code := .down }) = _
    rw [handleKey_down halive hbody]
    exact ih (e := { e with body := .choice (l.move true) }) halive rfl

/-- Enter is for the list, whatever is held down with it. -/
theorem handleKey_enter (halive : e.destroyed = false) (hbody : e.body = .choice l) {k : Key}
    (hk : k.code = .enter) :
    (e.handleKey k).2 = match l.valueAt l.highlighted, e.descriptor.bind (·.serviceType) with
      | some .createService, some t => .createService t
      | _, _ => .commit := by
  simp only [handleKey, halive, hk, dragStep, resizeStep, ite_self, Bool.false_eq_true, if_false,
    handleBodyKey, hbody, EditorBody.handleKey, ChoiceList.handleKey]
  generalize l.valueAt l.highlighted = value
  generalize e.descriptor.bind (·.serviceType) = serviceType
  rcases value with - | (v | -)
  · rfl
  · rfl
  · cases serviceType <;> rfl

/-- What the keys of an open list of a descriptor's values do from here on. -/
structure GoesAround (d : Descriptor) (l : ChoiceList) (e : CellEditor) : Prop where
  /-- Down comes to all that is enabled, and a value that it came to is committed. -/
  reaches : ∀ place entry, l.entries[place]? = some entry → entry.disabled = false →
    ∃ downs ≤ l.entries.length, ∃ l',
      (e.typing (List.replicate downs { code := .down })).body = .choice l' ∧
      l'.highlighted = place ∧
      ∀ v, entry.value = .value v →
        (e.typing (List.replicate downs { code := .down })).commit.value = v
  /-- Up takes back what Down did. -/
  returns : ChoiceList.Enabled l.entries l.highlighted → ∃ l',
    (e.typing [{ code := .down }, { code := .up }]).body = .choice l' ∧
    l'.highlighted = l.highlighted
  /-- Enter on the entry that creates a service asks for one of the descriptor's type. -/
  creates : l.OnCreation → ∀ k : Key, k.code = .enter →
    ∃ t, d.serviceType = some t ∧ (e.handleKey k).2 = .createService t
  /-- Enter on any other entry asks to commit. -/
  commits : ¬ l.OnCreation → ∀ k : Key, k.code = .enter → (e.handleKey k).2 = .commit

theorem goesAround_of_placed {loadValue : Option String} (halive : e.destroyed = false)
    (hbody : e.body = .choice l) (hd : e.descriptor = some d) (h : l.Placed d loadValue) :
    e.GoesAround d l where
  reaches := by
    intro place entry hentry henabled
    obtain ⟨downs, hdowns, hreached⟩ :=
      ChoiceList.exists_iterate_move true h.highlighted_lt ⟨entry, hentry, henabled⟩
    refine ⟨downs, Nat.le_of_lt hdowns, (ChoiceList.move · true)^[downs] l, ?_, hreached, ?_⟩
    · rw [typing_downs halive hbody]
    · intro v hv
      have hplaced : ((ChoiceList.move · true)^[downs] l).Placed d loadValue :=
        Function.Iterate.rec (ChoiceList.Placed d loadValue) h (fun _ hl => hl.move true) downs
      rw [typing_downs halive hbody]
      refine hplaced.selectedValue_eq (e := entry) ?_ hv
      rw [hreached, hplaced.entries, ← h.entries, hentry]
  returns := by
    intro henabled
    refine ⟨(l.move true).move false, ?_, ChoiceList.highlighted_move_move true henabled⟩
    show ((e.handleKey { code := .down }).1.handleKey { code := .up }).1.body = _
    rw [handleKey_down halive hbody]
    exact congrArg CellEditor.body
      (handleKey_up (e := { e with body := .choice (l.move true) }) halive rfl)
  creates := by
    intro hcreation k hk
    -- there is such an entry only if the value is a service
    obtain ⟨t, ht⟩ : ∃ t, d.serviceType = some t := by
      rcases ChoiceList.mem_entriesOf.mp (h.entries ▸ List.mem_of_getElem? hcreation) with
        ⟨-, hentry⟩ | ⟨a, -, hentry⟩ | ⟨-, -, hentry⟩ | ⟨hservice, -⟩
      · cases congrArg ChoiceEntry.value hentry
      · cases congrArg ChoiceEntry.value hentry
      · cases congrArg ChoiceEntry.value hentry
      · exact Option.isSome_iff_exists.mp hservice
    refine ⟨t, ht, ?_⟩
    rw [handleKey_enter halive hbody hk,
      (ChoiceList.valueAt_eq_createService_iff h.entries).mpr hcreation, hd, Option.bind_some, ht]
  commits := by
    intro hother k hk
    rw [handleKey_enter halive hbody hk]
    split
    next hvalue _ =>
      exact absurd ((ChoiceList.valueAt_eq_createService_iff h.entries).mp hvalue) hother
    · rfl

/-- For every descriptor with values to choose from, every row and all keys: highlight and selection
stay within the list, the selection stays on a value, and they part only while the highlight is on
the entry that creates a service. From there on Down comes to every enabled entry in at most as many
presses as there are entries, Up takes Down back, and Enter asks for a service exactly on the entry
that creates one. -/
theorem list_goes_around (hchoice : d.isChoice = true) (r : Row) (anchor : Rect)
    (keys : List Key) :
    ∃ l, ((onRow r (some d) anchor).typing keys).body = .choice l ∧ l.Placed d r.previousValue ∧
      ((onRow r (some d) anchor).typing keys).GoesAround d l := by
  obtain ⟨surface, body, htyped, l, rfl, hplaced⟩ :=
    (onRow r (some d) anchor).typing_keeps
      (P := fun b => ∃ l, b = .choice l ∧ l.Placed d r.previousValue)
      (fun b k => by
        rintro ⟨l, rfl, hplaced⟩
        exact ⟨_, rfl, hplaced.handleKey k _⟩)
      ⟨_, body_onRow_choice r anchor hchoice, ChoiceList.placed_load d r.value r.previousValue⟩ keys
  rw [htyped]
  exact ⟨l, rfl, hplaced, goesAround_of_placed rfl rfl rfl hplaced⟩

/-- Two services, of which the user may not read the first one, and the creation of a third. -/
def creatingDescriptor : Descriptor := { unreadableFirst with serviceType := some "org.Cache" }

/-- The list opens on the service that the user may not read, and Up goes from there around to the
entry that creates one. The selection stays behind. -/
theorem list_goes_around_creating :
    let e := (onRow (serviceRow none) (some creatingDescriptor) {}).typing [{ code := .up }]
    creatingDescriptor.isChoice = true ∧
    (∃ l, e.body = .choice l ∧ l.selected = 0 ∧ l.highlighted = 2 ∧ l.OnCreation) ∧
    ∃ l, e.body = .choice l ∧ l.Placed creatingDescriptor none ∧
      e.GoesAround creatingDescriptor l := by
  intro e
  exact ⟨by decide, ⟨_, rfl, by decide, by decide, by decide⟩,
    list_goes_around (by decide) (serviceRow none) {} _⟩

end CellEditor

end PropertySheet
