import PropertySheet.Editor.TextField

/-!
# The choice list

A list of values to choose from. Two entries stand for no allowable value: one leaves the property
unset, the other starts the creation of a service. The highlight moves over all entries that are not
disabled; the selection is the last value entry it came to, and is what a commit stores.
-/

namespace PropertySheet

/-- What an entry stands for. -/
inductive ChoiceValue where
  | value (v : Option String)
  | createService
deriving DecidableEq, Repr, Inhabited

structure ChoiceEntry where
  text : String
  value : ChoiceValue
  description : Option String := none
  disabled : Bool := false
  /-- Drawn like an unset value. -/
  unset : Bool := false
deriving DecidableEq, Repr, Inhabited

structure ChoiceList where
  entries : List ChoiceEntry
  /-- The value entry that a commit stores. -/
  selected : Nat
  highlighted : Nat
  initialValue : Option String
deriving DecidableEq, Repr, Inhabited

namespace ChoiceList

def noValue : String := "No value"

def createNewService : String := "Create new service..."

/-- The entry that leaves the property unset. -/
def unsetEntry (disabled : Bool) : ChoiceEntry :=
  { text := noValue, value := .value none, disabled, unset := true }

/-- The entry of an allowable value. One that the user may not read is disabled, unless the property
had it at load time. -/
def allowableEntry (loadValue : Option String) (a : AllowableValue) : ChoiceEntry :=
  { text := a.displayName, value := .value (some a.value), description := a.description,
    disabled := !a.isReadable && some a.value ≠ loadValue }

/-- The entry that starts the creation of a service. -/
def createEntry : ChoiceEntry :=
  { text := createNewService, value := .createService, unset := true }

/-- The entries of a descriptor: unset unless required, the allowable values, and the creation of a
service where the value is one. A list that would be empty gets a disabled unset entry. -/
def entriesOf (d : Descriptor) (loadValue : Option String) : List ChoiceEntry :=
  let values := (if d.required then [] else [unsetEntry false]) ++
    d.choices.map (allowableEntry loadValue)
  (if values.isEmpty then [unsetEntry true] else values) ++
    (if d.serviceType.isSome then [createEntry] else [])

/-- Place of the entry of a value, the first entry if there is none. -/
def placeOf (entries : List ChoiceEntry) (value : Option String) : Nat :=
  (entries.findIdx? (·.value = .value value)).getD 0

/-- A list on the current value, given the value at load time. -/
def load (d : Descriptor) (value loadValue : Option String) : ChoiceList :=
  let entries := entriesOf d loadValue
  let place := placeOf entries value
  { entries, selected := place, highlighted := place, initialValue := value }

/-- What the entry at a place stands for. -/
def valueAt (l : ChoiceList) (place : Nat) : Option ChoiceValue :=
  (l.entries[place]?).map ChoiceEntry.value

/-- The value of the selection. -/
def selectedValue (l : ChoiceList) : Option String :=
  match l.valueAt l.selected with
  | some (.value v) => v
  | _ => none

/-- Whether a commit changes the value. An empty text in place of none is no change. -/
def isChanged (l : ChoiceList) : Bool :=
  !(l.selectedValue = some "" && l.initialValue.isNone) && l.selectedValue ≠ l.initialValue

/-- Put the selection back where it was. -/
def reset (l : ChoiceList) : ChoiceList :=
  let place := placeOf l.entries l.initialValue
  { l with selected := place, highlighted := place }

/-- The next place in a cycle of places. -/
def stepPlace (forward : Bool) (length place : Nat) : Nat :=
  if forward then (place + 1) % length else (place + length - 1) % length

/-- The first enabled place after a place, looking at most a number of times. -/
def nextEnabled (entries : List ChoiceEntry) (forward : Bool) : Nat → Nat → Option Nat
  | 0, _ => none
  | looks + 1, place =>
    let next := stepPlace forward entries.length place
    match entries[next]? with
    | none => none
    | some e => if e.disabled then nextEnabled entries forward looks next else some next

/-- Highlight an entry. A value entry is selected with it. -/
def highlight (l : ChoiceList) (place : Nat) : ChoiceList :=
  match l.valueAt place with
  | some (.value _) => { l with highlighted := place, selected := place }
  | _ => { l with highlighted := place }

/-- Move the highlight to the next enabled entry, around the ends. -/
def move (l : ChoiceList) (forward : Bool) : ChoiceList :=
  match nextEnabled l.entries forward l.entries.length l.highlighted with
  | some place => l.highlight place
  | none => l

/-- The list after a key, and what the key asks for. -/
def handleKey (l : ChoiceList) (k : Key) (serviceType : Option String) : ChoiceList × EditorInput :=
  match k.code with
  | .esc => (l, .cancel)
  | .up | .left | .backTab => (l.move false, .changed)
  | .down | .right | .tab => (l.move true, .changed)
  | .enter =>
    match l.valueAt l.highlighted, serviceType with
    | some .createService, some t => (l, .createService t)
    | _, _ => (l, .commit)
  | _ => (l, .none)

end ChoiceList

end PropertySheet
