import PropertySheet.App.Basic
import PropertySheet.Client.Host

/-!
# Running the tasks of the application

`Task.run` carries out a task with a client and gives the event in which it ends. `App.settle` runs
tasks and handles events, each in the order in which they came, until none are left.
-/

namespace PropertySheet

variable {m : Type → Type} [Monad m]

/-- A component with its history. A history that cannot be had is empty. -/
def Client.load (c : Client m) (component : ComponentRef) : Call m (Snapshot × Histories) := do
  let s ← c.component component
  let histories ← tryCatch (c.history component.id) fun _ => pure .empty
  return (s, histories)

/-- The event in which a task ends. -/
def Task.run (c : Client m) (policy : UnsavedPolicy) : Task → m AppEvent
  | .load component => do return .loaded (← (c.load component).run)
  | .save s changes => do return .saved (← (c.update s changes).run)
  | .respond component request => do
    let host : Host m := { client := c, component, policy }
    return .responded (← host.backend.dispatch request)

namespace App

/-- Handle the oldest event, or else run the oldest task; nothing when there is neither. -/
def step? (a : App) (c : Client m) : Option (m App) :=
  match a.events, a.tasks with
  | e :: events, _ => some (pure ({ a with events }.handleEvent e).flush)
  | [], t :: tasks => some do
    let e ← t.run c a.settings.unsavedChanges
    return { a with tasks }.emit e
  | [], [] => none

/-- Take steps until there is nothing left to do, at most a number of them. -/
def settle (c : Client m) : Nat → App → m App
  | 0, a => pure a
  | steps + 1, a =>
    match a.step? c with
    | none => pure a
    | some next => do settle c steps (← next)

end App

end PropertySheet
