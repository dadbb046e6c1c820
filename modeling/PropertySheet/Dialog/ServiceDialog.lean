import PropertySheet.Key
import PropertySheet.Screen.Paragraph
import PropertySheet.Service
import PropertySheet.Text.Ellipsis

/-!
# The dialog that creates a service

The dialog serves the row that a new service is meant for. It waits for the types on offer, lets the
user choose one, waits for the service and then for the descriptor that lists it among the values.
Only the choice takes keys; every stage can be left.
-/

namespace PropertySheet

inductive CreationStage where
  | loadingTypes
  | choosing
  | creating
  /-- The service exists; its property is being looked up again. -/
  | refreshing
deriving DecidableEq, Repr, Inhabited

/-- What a key asks of whoever shows the dialog. -/
inductive CreationAction where
  | none
  | changed
  | create (typeName : String)
  | cancel
deriving DecidableEq, Repr, Inhabited

structure ServiceDialog where
  rowId : Nat
  property : String
  serviceType : String
  stage : CreationStage := .loadingTypes
  /-- The types on offer, by short name. -/
  types : List ServiceType := []
  place : Nat := 0
  /-- The id of the service once it exists. -/
  created : Option String := none
deriving DecidableEq, Repr, Inhabited

namespace ServiceDialog

def highlighted? (d : ServiceDialog) : Option ServiceType := d.types[d.place]?

/-- Order of types by short name; types of one short name keep their order. -/
def shortNameLe (a b : ServiceType) : Bool := !decide (b.shortName < a.shortName)

/-- Offer types. -/
def typesLoaded (d : ServiceDialog) (types : List ServiceType) : ServiceDialog :=
  { d with types := types.mergeSort shortNameLe, place := 0, stage := .choosing }

def startCreating (d : ServiceDialog) : ServiceDialog := { d with stage := .creating }

def serviceCreated (d : ServiceDialog) (id : String) : ServiceDialog :=
  { d with created := some id, stage := .refreshing }

/-- The dialog after a key. -/
def handleKey (d : ServiceDialog) (k : Key) : ServiceDialog × CreationAction :=
  if k.code = .esc then (d, .cancel)
  else if d.stage ≠ .choosing ∨ d.types.isEmpty then (d, .none)
  else
    match k.code with
    | .up => ({ d with place := d.place - 1 }, .changed)
    | .down =>
      ({ d with place := if d.place + 1 < d.types.length then d.place + 1 else d.place }, .changed)
    | .enter =>
      match d.highlighted? with
      | some t => (d, .create t.name)
      | none => (d, .none)
    | _ => (d, .none)

/-! ## Drawing -/

/-- What a stage without a choice says. -/
def status? : CreationStage → Option String
  | .loadingTypes => some "Loading service types..."
  | .creating => some "Creating service..."
  | .refreshing => some "Refreshing property..."
  | .choosing => none

/-- Tags and description of a type. -/
def about (t : ServiceType) : String :=
  (if t.tags.isEmpty then "" else "Tags: " ++ ", ".intercalate t.tags ++ "\n") ++
    t.description.getD "No description"

/-- The lines of the list from `y` on, starting with the entry `first`. -/
def drawTypes (d : ServiceDialog) (inner : Rect) (y first count : Nat) (s : Screen) : Screen :=
  ((d.types.drop first).take count).zipIdx.foldl (fun s e =>
    let chosen := first + e.2 = d.place
    let marker := if chosen then "> " else "  "
    s.write inner.x (y + e.2) (Text.ellipsis (marker ++ e.1.shortName) inner.width)
      (if chosen then .boldOf .yellow else .of .white)) s

def draw (d : ServiceDialog) (area : Rect) (s : Screen) : Screen :=
  let s := (s.clear area).drawFrame area " Add Controller Service " (.of .cyan)
  let inner := area.insideBorder
  if inner.height < 3 then s
  else
    match status? d.stage with
    | some status => s.write (inner.x + 1) inner.y status (.of .darkGray)
    | none =>
      let s := s.write inner.x inner.y
        (Text.ellipsis ("Implementations of " ++ d.serviceType) inner.width) (.of .white)
      let count := max (inner.height - 6) 1
      let s := d.drawTypes inner (inner.y + 1) (d.place - (count - 1)) count s
      let y := inner.y + 1 + count
      let s := match d.highlighted? with
        | none => s
        | some t =>
          s.drawParagraph (.make inner.x y inner.width (inner.bottom - (y + 1)))
            (plainLines (about t)) (.of .gray) (.wrap true) 0
      s.write inner.x (inner.bottom - 1) "↑/↓: Select | Enter: Create | Esc: Cancel" (.of .darkGray)

end ServiceDialog

end PropertySheet
