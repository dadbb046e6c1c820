import PropertySheet.Proofs.GridView.Selection
import PropertySheet.Sheet.Keys
import PropertySheet.Sheet.Responses

/-!
# Operations on a sheet, and the states they reach

A sheet changes only through the calls below: an application loads it, hands it keys and
responses, and collects what it asks for. `Operation` lists those calls as data, `apply` carries one
out and `run` a whole sequence, so that a property of "every interleaving" is a property of every
list of operations.

Some properties hold only where the calls keep an agreement, for instance that a response is of the
kind its request calls for. `Reachable allowed` is the set of states that operations reach as long
as each of them was allowed in the state that it met.
-/

namespace PropertySheet

/-- A call on a sheet from outside. -/
inductive Operation where
  | load (values : List (String × Option String)) (descriptors : Descriptors)
      (histories : Histories)
  | clear
  | destroy
  | saveRow
  | cancelEdit
  | resize (area : Rect)
  | setGroup (groupId : Option String)
  | select (property : String)
  | activate
  | deleteSelected
  | goToService
  | showTooltip
  | openNamePrompt
  | addProperty (name : String)
  | takeRequests
  | takeEvents
  | handleKey (k : Key)
  | complete (r : Response)

namespace Operation

/-- The calls that put up or take down a dialog on their own, without a key. -/
def handlesDialog : Operation → Bool
  | .activate | .showTooltip | .openNamePrompt | .addProperty _ => true
  | _ => false

/-- The calls that start from an emptied sheet. A load does so even if it then fails. -/
def empties : Operation → Bool
  | .load _ _ _ | .clear | .destroy => true
  | _ => false

/-- The calls that neither empty the sheet nor hand over its requests nor bring a response. -/
def isPlain : Operation → Bool
  | .load _ _ _ | .clear | .destroy | .takeRequests | .complete _ => false
  | _ => true

theorem isPlain_of_handlesDialog {op : Operation} (h : op.handlesDialog) : op.isPlain := by
  cases op <;> first | rfl | cases h

theorem empties_of_isPlain {op : Operation} (h : op.isPlain) : op.empties = false := by
  cases op <;> first | rfl | cases h

end Operation

namespace Sheet

/-- The sheet after a call. -/
def apply (s : Sheet) : Operation → Sheet
  | .load values descriptors histories => (s.load values descriptors histories).1
  | .clear => s.clear
  | .destroy => s.destroy
  | .saveRow => s.saveRow
  | .cancelEdit => s.cancelEdit
  | .resize area => s.resize area
  | .setGroup groupId => s.setGroup groupId
  | .select property => (s.select property).1
  | .activate => s.activate
  | .deleteSelected => s.deleteSelected.1
  | .goToService => s.goToService.1
  | .showTooltip => s.showTooltip.1
  | .openNamePrompt => s.openNamePrompt.1
  | .addProperty name => s.addProperty name
  | .takeRequests => s.takeRequests.1
  | .takeEvents => s.takeEvents.1
  | .handleKey k => (s.handleKey k).1
  | .complete r => s.complete r

/-- What a key does to a sheet whose grid has the keys: it is one of the calls above, or it moves
the selection. -/
inductive GridMove (s : Sheet) : Sheet → Prop
  | select (view : GridView) :
      view = s.view ∨ (∃ place, view = s.view.selecting place) → GridMove s { s with view }
  | activate : GridMove s s.activate
  | delete : GridMove s s.deleteSelected.1
  | prompt : GridMove s s.openNamePrompt.1
  | follow : GridMove s s.goToService.1
  | tell : GridMove s s.showTooltip.1

theorem gridMove_handleGridKey (s : Sheet) (k : Key) : GridMove s (s.handleGridKey k).1 := by
  unfold handleGridKey
  split
  · exact .select _ (s.view.moveSelection_cases _)
  · exact .select _ (s.view.moveSelection_cases _)
  · exact .select _ (s.view.moveSelection_cases _)
  · exact .select _ (s.view.moveSelection_cases _)
  · exact .select _ (.inr ⟨_, rfl⟩)
  · exact .select _ (.inr ⟨_, rfl⟩)
  · exact .activate
  · exact .delete
  · exact .prompt
  · exact .prompt
  · exact .delete
  · exact .follow
  · exact .tell
  · exact .tell
  · exact .select s.view (.inl rfl)

/-- The sheet after a sequence of calls, the first one first. -/
def run (s : Sheet) (ops : List Operation) : Sheet := ops.foldl apply s

@[simp]
theorem run_nil (s : Sheet) : s.run [] = s := rfl

@[simp]
theorem run_cons (s : Sheet) (op : Operation) (ops : List Operation) :
    s.run (op :: ops) = (s.apply op).run ops := rfl

@[simp]
theorem run_append (s : Sheet) (xs ys : List Operation) :
    s.run (xs ++ ys) = (s.run xs).run ys := by
  simp [run, List.foldl_append]

/-- What every call keeps, every run keeps. -/
theorem run_invariant {P : Sheet → Prop} (step : ∀ s op, P s → P (s.apply op)) {s : Sheet}
    (h : P s) (ops : List Operation) : P (s.run ops) := by
  induction ops generalizing s with
  | nil => exact h
  | cons op ops ih => exact ih (step s op h)

/-! ## Reachable states -/

/-- The states that a new sheet comes to while each call is allowed in the state it meets. -/
inductive Reachable (allowed : Sheet → Operation → Prop) : Sheet → Prop
  | new (config : SheetConfig) : Reachable allowed (.ofConfig config)
  | step {s : Sheet} {op : Operation} :
      Reachable allowed s → allowed s op → Reachable allowed (s.apply op)

/-- Every call of a sequence is allowed in the state that it meets. -/
def AllowedAlong (allowed : Sheet → Operation → Prop) : Sheet → List Operation → Prop
  | _, [] => True
  | s, op :: ops => allowed s op ∧ AllowedAlong allowed (s.apply op) ops

instance decidableAllowedAlong {allowed : Sheet → Operation → Prop}
    [∀ s op, Decidable (allowed s op)] :
    ∀ (s : Sheet) (ops : List Operation), Decidable (AllowedAlong allowed s ops)
  | _, [] => .isTrue trivial
  | s, op :: ops =>
    @instDecidableAnd _ _ (inferInstanceAs (Decidable (allowed s op)))
      (decidableAllowedAlong (s.apply op) ops)

theorem Reachable.run {allowed : Sheet → Operation → Prop} {s : Sheet} (h : Reachable allowed s)
    {ops : List Operation} (hops : AllowedAlong allowed s ops) : Reachable allowed (s.run ops) := by
  induction ops generalizing s with
  | nil => exact h
  | cons op ops ih => exact ih (h.step hops.1) hops.2

end Sheet

/-- Whether a response is of the kind that a request of this purpose calls for. -/
def Purpose.expects : Purpose → Response → Bool
  | .addProperty _, .descriptor _ _ => true
  | .serviceTypes, .serviceTypes _ _ => true
  | .createService, .serviceCreated _ _ => true
  | .refreshDescriptor _ _, .descriptor _ _ => true
  | .goToService, .serviceLocated _ _ => true
  | _, _ => false

namespace Sheet

/-- A response to a pending request is of the kind that the request calls for. Of a response
that nobody waits for nothing is said. -/
def Fits (s : Sheet) : Operation → Prop
  | .complete r => (s.pending.get? r.token).all (·.expects r)
  | _ => True

instance (s : Sheet) : ∀ op, Decidable (s.Fits op)
  | .complete r => inferInstanceAs (Decidable ((s.pending.get? r.token).all (·.expects r) = true))
  | .load _ _ _ | .clear | .destroy | .saveRow | .cancelEdit | .resize _ | .setGroup _ | .select _
  | .activate | .deleteSelected | .goToService | .showTooltip | .openNamePrompt | .addProperty _
  | .takeRequests | .takeEvents | .handleKey _ => .isTrue trivial

/-- Dialogs come and go by keys and responses only. -/
def ByKeys (_ : Sheet) (op : Operation) : Prop := op.handlesDialog = false

instance (s : Sheet) (op : Operation) : Decidable (s.ByKeys op) :=
  inferInstanceAs (Decidable (op.handlesDialog = false))

/-- Dialogs come and go by keys and responses only, and responses fit their requests. -/
def ByKeysFitting (s : Sheet) (op : Operation) : Prop := s.ByKeys op ∧ s.Fits op

instance (s : Sheet) (op : Operation) : Decidable (s.ByKeysFitting op) :=
  inferInstanceAs (Decidable (s.ByKeys op ∧ s.Fits op))

end Sheet

end PropertySheet
