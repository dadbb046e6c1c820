import PropertySheet.Client.Transport
import PropertySheet.Json.Write

/-!
# Exchanges as lines

A request and its answer, each on one line, for a client that is served over a pair of streams. JSON
text has no line breaks of its own when it is compact.
-/

namespace PropertySheet

/-- A request as a line: method, address and the body if there is one. -/
def Query.line (q : Query) : String :=
  q.method.name ++ " " ++ q.url.text ++
    match q.body with
    | none => ""
    | some b => " " ++ b.text

/-- The status that three digits make up. -/
def statusOf? (digits : List Char) : Option Nat :=
  if digits.length = 3 then Text.number? 10 digits else none

/-- An answer on a line: a status of three digits, and the body after a space. A line without a
status is no answer. -/
def Answer.ofLine? (line : String) : Option Answer := do
  let cs := line.toList.takeWhile (· ≠ '\n')
  return { status := ← statusOf? (cs.take 3), body := String.ofList (cs.drop 4) }

end PropertySheet
