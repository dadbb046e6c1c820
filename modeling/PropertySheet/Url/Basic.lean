import PropertySheet.Url.Host

/-!
# Web addresses

An address of the web: scheme, host, socket number, path, query and fragment. `Url.parse?` reads one
leniently, the way browsers do: control characters and spaces around it and line breaks within it do
not count, a backslash separates like a slash, the segments `.` and `..` are resolved, and what a
part cannot hold is percent-encoded.

`Url.target` is what a server is asked for, the path with the query.
-/

namespace PropertySheet

structure Url where
  /-- The scheme is `https`, else `http`. -/
  secure : Bool
  host : String
  /-- The number of the socket at the host, unless it is the usual one of the scheme. -/
  socket : Option Nat := none
  /-- Segments of the path, encoded. -/
  path : List String := [""]
  query : Option String := none
  fragment : Option String := none
deriving DecidableEq, Repr, Inhabited

namespace Url

def scheme (u : Url) : String := if u.secure then "https" else "http"

/-- The socket number that a scheme does without. -/
def usualSocket (secure : Bool) : Nat := if secure then 443 else 80

def pathText (u : Url) : String := "/" ++ "/".intercalate u.path

/-- A part behind its mark, if there is one. -/
def marked (mark : String) : Option String → String
  | none => ""
  | some s => mark ++ s

/-- What a server is asked for. -/
def target (u : Url) : String := u.pathText ++ marked "?" u.query

/-- The server of an address. -/
def origin (u : Url) : String :=
  u.scheme ++ "://" ++ u.host ++ marked ":" (u.socket.map toString)

def text (u : Url) : String := u.origin ++ u.target ++ marked "#" u.fragment

/-! ## Paths -/

def isSeparator (c : Char) : Bool := c = '/' || c = '\\'

/-- A segment with its dots decoded, to tell whether it is one or two dots. -/
def dots (segment : List Char) : List Char :=
  match segment with
  | '%' :: '2' :: 'e' :: rest | '%' :: '2' :: 'E' :: rest => '.' :: dots rest
  | c :: rest => c :: dots rest
  | [] => []

/-- Append a segment to a path. One dot adds nothing and two dots remove a segment; at the end of
the path both leave an empty segment. -/
def addSegment (path : List String) (segment : List Char) (isLast : Bool) : List String :=
  let ended := fun (p : List String) => if isLast then p ++ [""] else p
  if dots segment = ['.', '.'] then ended path.dropLast
  else if dots segment = ['.'] then ended path
  else path ++ [String.ofList (percentEncode keptInPath segment)]

/-- The path that segments make up, behind a path. -/
def addSegments (path : List String) : List (List Char) → List String
  | [] => path
  | [s] => addSegment path s true
  | s :: rest => addSegments (addSegment path s false) rest

/-- The segments of a path behind its first separator. -/
def pathOf (cs : List Char) : List String := addSegments [] (Text.splitChars isSeparator cs)

/-! ## Reading -/

/-- A text without what does not count in an address. -/
def clean (cs : List Char) : List Char :=
  let isMargin := fun (c : Char) => c.toNat ≤ 0x20
  let trimmed := ((cs.dropWhile isMargin).reverse.dropWhile isMargin).reverse
  trimmed.filter fun c => !(c = '\t' || c = '\n' || c = '\r')

/-- A text cut at the first character that satisfies a condition: what stands before it, and what
stands behind it if there is one. -/
def cutAt (p : Char → Bool) (cs : List Char) : List Char × Option (List Char) :=
  match cs.dropWhile fun c => !p c with
  | [] => (cs, none)
  | _ :: rest => (cs.takeWhile fun c => !p c, some rest)

/-- The characters behind the last `@`, or all of them. -/
def afterUserInfo (cs : List Char) : List Char := (cs.reverse.takeWhile (· ≠ '@')).reverse

/-- The socket number of a server; the usual one counts as none. -/
def socket? (secure : Bool) (cs : List Char) : Option (Option Nat) :=
  if cs.isEmpty then some none
  else do
    let n ← Text.number? 10 cs
    if 65535 < n then none else some (if n = usualSocket secure then none else some n)

/-- The host and the socket number of a server; the brackets of an IPv6 address hide their colons.
-/
def server? (secure : Bool) (cs : List Char) : Option (String × Option Nat) :=
  let (hostPart, rest) := match cs with
    | '[' :: _ => (cs.takeWhile (· ≠ ']') ++ [']'], (cs.dropWhile (· ≠ ']')).drop 1)
    | _ => (cs.takeWhile (· ≠ ':'), cs.dropWhile (· ≠ ':'))
  match rest with
  | [] => do return (← host? hostPart, none)
  | ':' :: digits => do return (← host? hostPart, ← socket? secure digits)
  | _ => none

/-- The scheme of an address and what stands behind its colon. -/
def scheme? (cs : List Char) : Option (Bool × List Char) :=
  match cutAt (· = ':') cs with
  | (name, some rest) =>
    let name := String.ofList (name.map Char.toLower)
    if name = "http" then some (false, rest)
    else if name = "https" then some (true, rest)
    else none
  | (_, none) => none

/-- Read an address of the web. Slashes behind the scheme do not count, and neither do a user's name
and password. -/
def parse? (s : String) : Option Url := do
  let (secure, rest) ← scheme? (clean s.toList)
  let rest := rest.dropWhile isSeparator
  let (rest, fragment) := cutAt (· = '#') rest
  let (rest, query) := cutAt (· = '?') rest
  let server := rest.takeWhile fun c => !isSeparator c
  let (host, socket) ← server? secure (afterUserInfo server)
  return {
    secure, host, socket
    path := pathOf ((rest.dropWhile fun c => !isSeparator c).drop 1)
    query := query.map fun q => String.ofList (percentEncode keptInQuery q)
    fragment := fragment.map fun f => String.ofList (percentEncode keptInFragment f) }

/-- An address with pairs of a form added to its query. -/
def withForm (u : Url) (pairs : List (String × String)) : Url :=
  if pairs.isEmpty then { u with query := u.query.filter (· ≠ "") }
  else
    match u.query with
    | some q =>
      if q.isEmpty then { u with query := some (formPairs pairs) }
      else { u with query := some (q ++ "&" ++ formPairs pairs) }
    | none => { u with query := some (formPairs pairs) }

end Url

end PropertySheet
