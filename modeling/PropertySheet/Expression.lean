/-!
# Expressions in a text

A value may hold expressions between `${` and its matching brace. `Segment.ofChars` cuts a text into
literal runs and expressions. Braces nest inside an expression, quoted stretches hide theirs, and an
expression that is never closed runs to the end of the text. Two dollar signs together stand for one
and open nothing.
-/

namespace PropertySheet

/-- A run of text, literal or an expression. -/
structure Segment where
  chars : List Char
  isExpression : Bool
deriving DecidableEq, Repr, Inhabited

namespace Segment

def text (s : Segment) : String := String.ofList s.chars

/-- Where the reading of an expression stands: the open braces, and the quote it is inside of. -/
structure Nesting where
  depth : Nat := 1
  quote : Option Char := none
deriving DecidableEq, Repr, Inhabited

/-- The nesting after a character; none when the character closes the expression. -/
def Nesting.next (n : Nesting) (c : Char) : Option Nesting :=
  match n.quote with
  | some q => if c = q then some { n with quote := none } else some n
  | none =>
    if c = '\'' ∨ c = '"' then some { n with quote := some c }
    else if c = '\x7b' then some { n with depth := n.depth + 1 }
    else if c = '\x7d' then if n.depth = 1 then none else some { n with depth := n.depth - 1 }
    else some n

/-- The run being read, its characters last first. -/
inductive Run where
  | literal (reversed : List Char)
  | expression (reversed : List Char) (nesting : Nesting)
deriving DecidableEq, Repr, Inhabited

/-- The segment of a finished run. An empty literal run is none. -/
def Run.finish : Run → List Segment
  | .literal reversed => if reversed.isEmpty then [] else [⟨reversed.reverse, false⟩]
  | .expression reversed _ => [⟨reversed.reverse, true⟩]

/-- Cut the text after an unfinished run. -/
def cut : Run → List Char → List Segment
  | run, [] => run.finish
  | .literal reversed, '$' :: '$' :: rest => cut (.literal ('$' :: '$' :: reversed)) rest
  | .literal reversed, '$' :: '\x7b' :: rest =>
    (Run.literal reversed).finish ++ cut (.expression ['\x7b', '$'] {}) rest
  | .literal reversed, c :: rest => cut (.literal (c :: reversed)) rest
  | .expression reversed nesting, c :: rest =>
    match nesting.next c with
    | none => ⟨(c :: reversed).reverse, true⟩ :: cut (.literal []) rest
    | some nesting => cut (.expression (c :: reversed) nesting) rest

/-- The segments of a text, in order. -/
def ofChars (cs : List Char) : List Segment := cut (.literal []) cs

/-- The segments of a text, in order. -/
def ofText (s : String) : List Segment := ofChars s.toList

/-- Whether the text refers to any expression. -/
def hasExpression (s : String) : Bool := (ofText s).any (·.isExpression)

end Segment

end PropertySheet
