import PropertySheet.Descriptor
import PropertySheet.Screen.Paragraph

/-!
# The tooltip of a property

What the descriptor tells about a property, and its past values. Of a secret only the fact that it
was set is told.
-/

namespace PropertySheet

structure Tooltip where
  title : String
  lines : List String
deriving DecidableEq, Repr, Inhabited

namespace Tooltip

/-- What the descriptor tells: description, default, expressions, and the service it needs. -/
def descriptorLines (d : Descriptor) : List String :=
  (d.description.filter fun t => !Text.isBlank (some t)).toList ++
  (match d.visibleDefault? with
    | none => []
    | some value =>
      ["Default value: " ++ match d.findChoice? value with
        | some choice => choice.displayName
        | none => value]) ++
  (if d.supportsExpressions then ["Supports expression language: true"] else []) ++
  (match d.serviceType with
    | none => []
    | some t => ["Requires Controller Service: " ++ Text.afterLast '.' t])

/-- One past value. -/
def pastLine (sensitive : Bool) (p : PastValue) : String :=
  let value := if sensitive then "Sensitive value set" else p.value.getD "No value set"
  "  " ++ value ++ " - " ++ p.user ++ " (" ++ p.timestamp ++ ")"

/-- The past values under their heading, if there are any. -/
def historyLines (sensitive : Bool) (past : List PastValue) : List String :=
  if past.isEmpty then [] else "" :: "History:" :: past.map (pastLine sensitive)

def ofDescriptor (d : Descriptor) (history : Option PropertyHistory) : Tooltip :=
  { title := d.label
    lines := descriptorLines d ++
      historyLines d.sensitive (match history with
        | none => []
        | some h => h.pastValues) }

/-- Lines that the body needs. -/
def height (t : Tooltip) : Nat := asCoordinate (max t.lines.length 1)

/-- The text of the body. -/
def body (t : Tooltip) : String :=
  if t.lines.isEmpty then "No additional information" else "\n".intercalate t.lines

def draw (t : Tooltip) (area : Rect) (s : Screen) : Screen :=
  let s := (s.clear area).patchArea area (.of .gray)
  let s := s.drawFrame area (" " ++ t.title ++ " ") (.of .darkGray)
  s.drawParagraph area.insideBorder (plainLines t.body) (.of .gray) (.wrap false) 0

end Tooltip

end PropertySheet
