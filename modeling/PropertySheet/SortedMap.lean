/-!
# Finite maps in key order

A `SortedMap` is a list of entries whose keys increase strictly. The order is part of the type, so
two maps with the same bindings are the same value, and whatever lists a map (the changes of a save,
the descriptors of a sheet) lists it by key without sorting.

`get?` is the view: `get?_insert`, `get?_erase` and `get?_filter` say what each operation does to
it, and `ext_get?` says that nothing else about a map can be observed.
-/

set_option linter.unusedSectionVars false

namespace PropertySheet

/-! ## Entry lists -/

namespace SortedMap

/-- Keys increase strictly along the list. -/
abbrev Sorted {κ α : Type} [LT κ] (entries : List (κ × α)) : Prop :=
  entries.Pairwise (fun a b => a.1 < b.1)

/-- Put an entry at its place, over the entry of the same key if there is one. -/
def insertEntry {κ α : Type} [LT κ] [DecidableLT κ] (k : κ) (a : α) :
    List (κ × α) → List (κ × α)
  | [] => [(k, a)]
  | e :: rest =>
    if k < e.1 then (k, a) :: e :: rest
    else if e.1 < k then e :: insertEntry k a rest
    else (k, a) :: rest

/-- The value of the first entry with the key. -/
def lookupEntry {κ α : Type} [DecidableEq κ] (k : κ) : List (κ × α) → Option α
  | [] => none
  | e :: rest => if e.1 = k then some e.2 else lookupEntry k rest

variable {κ α : Type} [LE κ] [LT κ] [DecidableLT κ] [DecidableEq κ]
  [Std.IsLinearOrder κ] [Std.LawfulOrderLT κ]

theorem eq_of_not_lt {a b : κ} (hab : ¬ a < b) (hba : ¬ b < a) : a = b :=
  Std.le_antisymm (Std.not_lt.1 hba) (Std.not_lt.1 hab)

theorem mem_insertEntry {k : κ} {a : α} {e : κ × α} {entries : List (κ × α)} :
    e ∈ insertEntry k a entries → e = (k, a) ∨ e ∈ entries := by
  induction entries with
  | nil => simp [insertEntry]
  | cons f rest ih =>
    rw [insertEntry]
    split
    · simp
    · split
      · intro h
        rcases List.mem_cons.1 h with h | h
        · exact .inr (by simp [h])
        · rcases ih h with h | h
          · exact .inl h
          · exact .inr (by simp [h])
      · intro h
        rcases List.mem_cons.1 h with h | h
        · exact .inl h
        · exact .inr (by simp [h])

theorem sorted_insertEntry (k : κ) (a : α) {entries : List (κ × α)} (h : Sorted entries) :
    Sorted (insertEntry k a entries) := by
  induction entries with
  | nil => simp [insertEntry]
  | cons f rest ih =>
    have hrest := List.pairwise_cons.1 h
    rw [insertEntry]
    split
    next hlt =>
      refine List.pairwise_cons.2 ⟨fun e he => ?_, h⟩
      rcases List.mem_cons.1 he with rfl | he
      · exact hlt
      · exact Std.lt_trans hlt (hrest.1 e he)
    next hlt =>
      split
      next hgt =>
        refine List.pairwise_cons.2 ⟨fun e he => ?_, ih hrest.2⟩
        rcases mem_insertEntry he with rfl | he
        · exact hgt
        · exact hrest.1 e he
      next hgt =>
        have heq : k = f.1 := eq_of_not_lt hlt hgt
        exact List.pairwise_cons.2 ⟨fun e he => heq ▸ hrest.1 e he, hrest.2⟩

theorem lookupEntry_insertEntry (k j : κ) (a : α) (entries : List (κ × α)) :
    lookupEntry j (insertEntry k a entries) = if k = j then some a else lookupEntry j entries := by
  induction entries with
  | nil => simp [insertEntry, lookupEntry]
  | cons f rest ih =>
    rw [insertEntry]
    split
    · rfl
    next hlt =>
      split
      next hgt =>
        simp only [lookupEntry, ih]
        by_cases hf : f.1 = j
        · have : k ≠ j := by
            intro hk
            rw [hk, hf] at hgt
            exact Std.lt_irrefl hgt
          simp [hf, this]
        · simp [hf]
      next hgt =>
        have heq : k = f.1 := eq_of_not_lt hlt hgt
        simp only [lookupEntry]
        by_cases hk : k = j
        · simp [hk]
        · have : f.1 ≠ j := fun hf => hk (heq.trans hf)
          simp [hk, this]

theorem lookupEntry_eq_none_of_lt {k : κ} {entries : List (κ × α)}
    (h : ∀ e ∈ entries, k < e.1) : lookupEntry k entries = none := by
  induction entries with
  | nil => rfl
  | cons f rest ih =>
    have hf : f.1 ≠ k := fun hk => Std.lt_irrefl (hk ▸ h f (by simp))
    simp [lookupEntry, hf, ih (fun e he => h e (by simp [he]))]

theorem mem_iff_lookupEntry {entries : List (κ × α)} (h : Sorted entries) (e : κ × α) :
    e ∈ entries ↔ lookupEntry e.1 entries = some e.2 := by
  induction entries with
  | nil => simp [lookupEntry]
  | cons f rest ih =>
    have hrest := List.pairwise_cons.1 h
    by_cases hf : f.1 = e.1
    · have hnot : e ∉ rest := fun he => Std.lt_irrefl (hf ▸ hrest.1 e he)
      simp only [List.mem_cons, hnot, or_false, lookupEntry, hf, if_true, Option.some.injEq]
      constructor
      · intro he
        rw [he]
      · intro he
        exact Prod.ext hf.symm he.symm
    · have hne : e ≠ f := fun he => hf (by rw [he])
      simp [lookupEntry, hf, hne, ih hrest.2]

/-- Sorted lists that answer every lookup alike are equal. -/
theorem eq_of_lookupEntry_eq {xs ys : List (κ × α)} (hx : Sorted xs) (hy : Sorted ys)
    (h : ∀ k, lookupEntry k xs = lookupEntry k ys) : xs = ys := by
  induction xs generalizing ys with
  | nil =>
    cases ys with
    | nil => rfl
    | cons f ys => simpa [lookupEntry] using h f.1
  | cons e xs ih =>
    cases ys with
    | nil => simpa [lookupEntry] using h e.1
    | cons f ys =>
      have hex := List.pairwise_cons.1 hx
      have hfy := List.pairwise_cons.1 hy
      have hef : e ∈ f :: ys := (mem_iff_lookupEntry hy e).2 (by rw [← h]; simp [lookupEntry])
      have hfe : f ∈ e :: xs := (mem_iff_lookupEntry hx f).2 (by rw [h]; simp [lookupEntry])
      have heq : e = f := by
        rcases List.mem_cons.1 hef with h' | h'
        · exact h'
        · rcases List.mem_cons.1 hfe with h'' | h''
          · exact h''.symm
          · exact absurd (Std.lt_trans (hfy.1 e h') (hex.1 f h'')) Std.lt_irrefl
      subst heq
      refine congrArg (e :: ·) (ih hex.2 hfy.2 fun k => ?_)
      by_cases hk : e.1 = k
      · rw [lookupEntry_eq_none_of_lt (fun x hx' => hk ▸ hex.1 x hx'),
          lookupEntry_eq_none_of_lt (fun x hx' => hk ▸ hfy.1 x hx')]
      · simpa [lookupEntry, hk] using h k

end SortedMap

/-! ## The map -/

/-- A finite map, listed in the order of its keys. -/
structure SortedMap (κ α : Type) [LT κ] where
  toList : List (κ × α) := []
  sorted : SortedMap.Sorted toList := by simp
deriving DecidableEq

namespace SortedMap

section Basic

variable {κ α : Type} [LT κ]

/-- The map without bindings. -/
def empty : SortedMap κ α := ⟨[], .nil⟩

instance : EmptyCollection (SortedMap κ α) := ⟨empty⟩

instance : Inhabited (SortedMap κ α) := ⟨empty⟩

instance [Repr κ] [Repr α] : Repr (SortedMap κ α) := ⟨fun m => reprPrec m.toList⟩

def size (m : SortedMap κ α) : Nat := m.toList.length

def isEmpty (m : SortedMap κ α) : Bool := m.toList.isEmpty

/-- The keys, in order. -/
def keys (m : SortedMap κ α) : List κ := m.toList.map (·.1)

/-- The bindings that satisfy a test. -/
def filter (p : κ → α → Bool) (m : SortedMap κ α) : SortedMap κ α :=
  ⟨m.toList.filter (fun e => p e.1 e.2), m.sorted.filter _⟩

/-- The value bound to a key. -/
def get? [DecidableEq κ] (m : SortedMap κ α) (k : κ) : Option α := lookupEntry k m.toList

def contains [DecidableEq κ] (m : SortedMap κ α) (k : κ) : Bool := (m.get? k).isSome

/-- The map without a key. -/
def erase [DecidableEq κ] (m : SortedMap κ α) (k : κ) : SortedMap κ α :=
  m.filter (fun j _ => j ≠ k)

theorem ext_toList {m n : SortedMap κ α} (h : m.toList = n.toList) : m = n := by
  cases m
  cases n
  simpa using h

end Basic

variable {κ α : Type} [LE κ] [LT κ] [DecidableLT κ] [DecidableEq κ]
  [Std.IsLinearOrder κ] [Std.LawfulOrderLT κ]

/-- Bind a key, in place of its old binding if it had one. -/
def insert (m : SortedMap κ α) (k : κ) (a : α) : SortedMap κ α :=
  ⟨insertEntry k a m.toList, sorted_insertEntry k a m.sorted⟩

/-- The map of a list of bindings, of which the last one for a key counts. -/
def ofList (entries : List (κ × α)) : SortedMap κ α :=
  entries.foldl (fun m e => m.insert e.1 e.2) empty

@[simp] theorem get?_empty (k : κ) : (empty : SortedMap κ α).get? k = none := rfl

@[simp] theorem get?_insert (m : SortedMap κ α) (k j : κ) (a : α) :
    (m.insert k a).get? j = if k = j then some a else m.get? j :=
  lookupEntry_insertEntry k j a m.toList

theorem mem_toList_iff {m : SortedMap κ α} {e : κ × α} : e ∈ m.toList ↔ m.get? e.1 = some e.2 :=
  mem_iff_lookupEntry m.sorted e

theorem get?_filter (m : SortedMap κ α) (p : κ → α → Bool) (k : κ) :
    (m.filter p).get? k = (m.get? k).filter (p k) := by
  apply Option.ext
  intro a
  have h1 := mem_toList_iff (m := m.filter p) (e := (k, a))
  have h2 := mem_toList_iff (m := m) (e := (k, a))
  simp only [filter, List.mem_filter] at h1
  rw [Option.filter_eq_some_iff, ← h2]
  exact h1.symm

theorem get?_erase (m : SortedMap κ α) (k j : κ) :
    (m.erase k).get? j = if k = j then none else m.get? j := by
  rw [erase, get?_filter]
  by_cases h : k = j
  · subst h
    cases m.get? k <;> simp
  · have : j ≠ k := fun hj => h hj.symm
    cases m.get? j <;> simp [h, this]

/-- A map is what its lookups answer. -/
theorem ext_get? {m n : SortedMap κ α} (h : ∀ k, m.get? k = n.get? k) : m = n :=
  ext_toList (eq_of_lookupEntry_eq m.sorted n.sorted h)

end SortedMap

end PropertySheet
