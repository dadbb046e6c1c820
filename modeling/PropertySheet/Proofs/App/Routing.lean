import PropertySheet.Proofs.App.World
import PropertySheet.Proofs.Sheet.Refusing

/-!
# Keys of the application

The application hands every key to the sheet and reacts to those that the sheet refuses. So the keys
for saving, reloading and leaving do not come through while a notice, a dialog or an editor is open:
all that is left of a key then is what it does to the sheet (`App.handleKey_of_captured`).

One key does not go to the sheet first. The interrupt leaves from anywhere, also while the user is
in the middle of an edit (`not_keys_routed_interruptedRun`).
-/

namespace PropertySheet

/-- Whether a key interrupts the application: it leaves from anywhere. -/
def Key.Interrupts (k : Key) : Prop := k.control ∧ k.code = .char 'c'

instance (k : Key) : Decidable k.Interrupts := inferInstanceAs (Decidable (_ ∧ _))

namespace App

variable {a : App} {k : Key}

theorem handleKey_of_interrupts (hk : k.Interrupts) : a.handleKey k = a.emit .quit := if_pos hk

theorem handleKey_of_captured (halive : a.sheet.destroyed = false)
    (hopen : a.sheet.isCapturingInput = true) (hk : ¬ k.Interrupts) :
    a.handleKey k = { a with sheet := (a.sheet.handleKey k).1 } := by
  have hsheet : a.handleKey k = if (a.sheet.handleKey k).2 then
      { a with sheet := (a.sheet.handleKey k).1 }
    else { a with sheet := (a.sheet.handleKey k).1 : App }.handleOwnKey k := if_neg hk
  rw [hsheet, if_pos (Sheet.handleKey_captured halive hopen k)]

/-! ## The sheet of the application is never destroyed -/

theorem destroyed_flush (a : App) : a.flush.sheet.destroyed = a.sheet.destroyed := by
  obtain ⟨status, hflush⟩ := a.flush_eq
  rw [hflush]
  rfl

theorem destroyed_handleKey (a : App) (k : Key) :
    (a.handleKey k).sheet.destroyed = a.sheet.destroyed := by
  rcases a.sheet_handleKey k with hsame | hkey
  · rw [hsame]
  · rw [hkey]
    exact a.sheet.destroyed_handleKey k

theorem destroyed_handleEvent (a : App) (e : AppEvent) :
    (a.handleEvent e).sheet.destroyed = a.sheet.destroyed := by
  cases e with
  | responded r => exact a.sheet.destroyed_complete r
  | loaded result =>
    cases result with
    | error e => rfl
    | ok shown =>
      have hload := a.sheet.destroyed_load shown.1.properties shown.1.descriptors shown.2
      show (a.display shown.1 shown.2).sheet.destroyed = _
      unfold display
      dsimp only
      split
      · exact hload
      · exact hload
  | saved result =>
    cases result with
    | error e => rfl
    | ok s => rfl
  | quit => rfl

end App

namespace World

theorem destroyed_react (w : World) (a : App) :
    (w.react a).app.sheet.destroyed = a.sheet.destroyed :=
  react_invariant (P := fun v => v.app.sheet.destroyed = a.sheet.destroyed) (fun _ _ _ hv => hv) rfl

/-- However the application comes to a state, its sheet takes keys. -/
theorem alive_of_run? {settings : Settings} {clientId : String} {moves : List Move} {w : World}
    (hrun : (start settings clientId).run? moves = some w) : w.app.sheet.destroyed = false := by
  have hstart : (start settings clientId).app.sheet.destroyed = false := by
    rw [start, destroyed_react, App.destroyed_flush]
    rfl
  refine run?_invariant (P := fun v => v.app.sheet.destroyed = false) (fun v m v' hv hstep => ?_)
    hstart hrun
  cases hstep with
  | press k => rw [destroyed_react, App.destroyed_flush, App.destroyed_handleKey, hv]
  | draw area =>
    obtain ⟨area', hfit | hfit⟩ := v.app.fit_eq area
    · show (v.app.fit area).sheet.destroyed = false
      rw [hfit]
      exact hv
    · show (v.app.fit area).sheet.destroyed = false
      rw [hfit]
      exact hv
  | handle hinbox =>
    rw [consume, destroyed_react, App.destroyed_flush, App.destroyed_handleEvent, hv]
  | hear r hf htalk => exact hv
  | finish hf htalk => exact hv

/-! ## Where a key goes -/

/-- A sheet that refuses a key stays as it is, and one with a notice, a dialog or an editor refuses
none unless it is destroyed. So whatever has happened in the application: while something is open
over the grid, a key has no effect but that on the sheet, unless it is the interrupt. -/
theorem keys_routed (k : Key) :
    (∀ s : Sheet, ((s.handleKey k).2 = false → (s.handleKey k).1 = s) ∧
      (s.destroyed = false → s.isCapturingInput = true → (s.handleKey k).2 = true)) ∧
    ∀ (settings : Settings) (clientId : String) (moves : List Move) (w : World),
      (start settings clientId).run? moves = some w →
      w.app.sheet.isCapturingInput = true →
      (¬ k.Interrupts → w.app.handleKey k = { w.app with sheet := (w.app.sheet.handleKey k).1 }) ∧
      (k.Interrupts → w.app.handleKey k = w.app.emit .quit) := by
  refine ⟨fun s => ⟨s.cleanRefusal_handleKey k, fun halive hopen => ?_⟩, ?_⟩
  · exact Sheet.handleKey_captured halive hopen k
  · intro settings clientId moves w hrun hopen
    exact ⟨App.handleKey_of_captured (alive_of_run? hrun) hopen, App.handleKey_of_interrupts⟩

/-- The user asks for the prompt for a new property. -/
def promptingRun : List Move := [.press (.ofChar 'a')]

/-- In the prompt the key for saving is a letter of the name. -/
theorem keys_routed_promptingRun : ∃ w, (start promptingSettings "c").run? promptingRun = some w ∧
    w.app.sheet.isCapturingInput = true ∧ ¬ (Key.ofChar 's').Interrupts ∧
    w.app.handleKey (.ofChar 's') =
      { w.app with sheet := (w.app.sheet.handleKey (.ofChar 's')).1 } := by
  have hopen : ((start promptingSettings "c").run? promptingRun).map
      (·.app.sheet.isCapturingInput) = some true := by
    decide +kernel
  obtain ⟨w, hrun, hopen⟩ := Option.map_eq_some_iff.mp hopen
  exact ⟨w, hrun, hopen, by decide,
    ((keys_routed (.ofChar 's')).2 _ _ _ w hrun hopen).1 (by decide)⟩

/-- The interrupt comes through the prompt: the application has stopped. -/
theorem not_keys_routed_interruptedRun :
    ((start promptingSettings "c").run? promptingRun).map
        (fun w => (w.app.sheet.isCapturingInput, w.app.running)) = some (true, true) ∧
    ((start promptingSettings "c").run?
        (promptingRun ++ [.press { code := .char 'c', control := true }, .handle])).map
        (fun w => (w.app.sheet.isCapturingInput, w.app.running)) = some (true, false) := by
  decide +kernel

end World

end PropertySheet
