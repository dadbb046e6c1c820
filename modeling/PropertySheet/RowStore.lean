import PropertySheet.Failure
import PropertySheet.Row
import PropertySheet.SortedMap

/-!
# The row store

Rows in the order of insertion, found by name and by id. Names are unique across visible and hidden
rows, and an id is given out once in the life of a store, not even again after the rows are
replaced.

Every change leaves a note for whoever shows the rows: which rows changed, and whether the number of
visible rows did. A call that fails leaves the store as it was.
-/

namespace PropertySheet

/-- A note about a change of the rows. -/
inductive RowEvent where
  /-- The number of visible rows changed. -/
  | countChanged (previous current : Nat)
  /-- These rows changed in content or visibility. -/
  | rowsChanged (ids : List Nat)
deriving DecidableEq, Repr

structure RowStore where
  rows : List Row := []
  /-- Position of the row of a name. -/
  byName : SortedMap String Nat := .empty
  /-- Position of the row of an id. -/
  byId : SortedMap Nat Nat := .empty
  nextId : Nat := 0
  visibleCount : Nat := 0
  /-- Notes that nobody has taken yet, oldest first. -/
  events : List RowEvent := []
deriving DecidableEq, Repr, Inhabited

namespace RowStore

/-! ## Looking up -/

def findByName? (s : RowStore) (name : String) : Option Row :=
  (s.byName.get? name).bind fun position => s.rows[position]?

def findById? (s : RowStore) (id : Nat) : Option Row :=
  (s.byId.get? id).bind fun position => s.rows[position]?

/-- The rows that are not hidden, in order. -/
def visible (s : RowStore) : List Row := s.rows.filter fun r => !r.hidden

/-- Place of a row among the visible ones. -/
def visibleIndex? (s : RowStore) (id : Nat) : Option Nat := s.visible.findIdx? (·.id = id)

/-! ## Changing -/

def emit (s : RowStore) (e : RowEvent) : RowStore := { s with events := s.events ++ [e] }

/-- Note a change of the number of visible rows, if it did change. -/
def noteCount (s : RowStore) (previous : Nat) : RowStore :=
  if previous = s.visibleCount then s else s.emit (.countChanged previous s.visibleCount)

/-- Append a row under the next id, without a note. -/
def insert (s : RowStore) (r : NewRow) : Except Failure (RowStore × Nat) :=
  match s.findByName? r.property with
  | some old => .error (.duplicateProperty r.property old.hidden)
  | none =>
    let id := s.nextId
    let position := s.rows.length
    .ok ({ s with
      rows := s.rows ++ [r.withId id]
      byName := s.byName.insert r.property position
      byId := s.byId.insert id position
      nextId := id + 1
      visibleCount := if r.hidden then s.visibleCount else s.visibleCount + 1 }, id)

/-- Append rows one after the other, without notes. -/
def insertAll (s : RowStore) : List NewRow → Except Failure (RowStore × List Nat)
  | [] => .ok (s, [])
  | r :: rest => do
    let (s, id) ← s.insert r
    let (s, ids) ← s.insertAll rest
    return (s, id :: ids)

/-- The first row whose name an earlier row of the list has. -/
def firstRepeat (seen : List String) : List NewRow → Option NewRow
  | [] => none
  | r :: rest => if r.property ∈ seen then some r else firstRepeat (r.property :: seen) rest

/-- The store without its rows. Ids go on counting. -/
def withoutRows (s : RowStore) : RowStore :=
  { s with rows := [], byName := .empty, byId := .empty, visibleCount := 0 }

/-- Replace every row. A repeated name refuses the whole list. -/
def replaceAll (s : RowStore) (rows : List NewRow) : Except Failure RowStore :=
  match firstRepeat [] rows with
  | some r => .error (.duplicateProperty r.property r.hidden)
  | none => do
    let (t, ids) ← s.withoutRows.insertAll rows
    let t := t.noteCount s.visibleCount
    return if ids.isEmpty then t else t.emit (.rowsChanged ids)

/-- Append a row. -/
def add (s : RowStore) (r : NewRow) : Except Failure (RowStore × Nat) := do
  let (t, id) ← s.insert r
  return ((t.noteCount s.visibleCount).emit (.rowsChanged [id]), id)

/-- The number of visible rows after one row changed its visibility. -/
def countAfter (count : Nat) (before after : Bool) : Nat :=
  if before = after then count else if after then count - 1 else count + 1

/-- Set fields of a row. -/
def update (s : RowStore) (id : Nat) (p : RowPatch) : Except Failure RowStore :=
  match s.byId.get? id with
  | none => .error (.unknownRow id)
  | some position =>
    match s.rows[position]? with
    | none => .error (.unknownRow id)
    | some r =>
      let t := { s with
        rows := s.rows.set position (r.patch p)
        visibleCount := countAfter s.visibleCount r.hidden (r.patch p).hidden }
      .ok ((t.noteCount s.visibleCount).emit (.rowsChanged [id]))

/-- Remove every row. -/
def clear (s : RowStore) : RowStore := s.withoutRows.noteCount s.visibleCount

/-- The notes so far, and the store without them. -/
def takeEvents (s : RowStore) : RowStore × List RowEvent := ({ s with events := [] }, s.events)

end RowStore

end PropertySheet
