import Mathlib.Algebra.Ring.Nat
import Mathlib.Data.List.Infix
import PropertySheet.Markup

/-!
# What is left of a shortened text

A text that is wider than its cell is cut, and the mark `…` takes one of the columns. Characters
take no column, one or two, so the place of the cut is no number that could be worked out from the
columns. `prefix_takeColumns_iff` says which one it is: of the prefixes of a text those that fit are
the prefixes of what is taken, so that characters without a column go with the one before them, and
one of two columns that straddles the edge is left out.

`ellipsis_longest` puts this together for every measure that gives the mark one column. It needs
nothing else of the measure, so it holds of the table of widths as well.
-/

namespace PropertySheet.Text

variable {w : Char → Nat}

/-! ## Widths -/

theorem totalWidth_eq_sum (w : Char → Nat) (cs : List Char) :
    totalWidth w cs = (cs.map w).sum := by
  rw [totalWidth, List.sum_eq_foldl, List.foldl_map]

@[simp]
theorem totalWidth_nil : totalWidth w [] = 0 := rfl

@[simp]
theorem totalWidth_cons (c : Char) (cs : List Char) :
    totalWidth w (c :: cs) = w c + totalWidth w cs := by
  simp [totalWidth_eq_sum]

@[simp]
theorem totalWidth_append (xs ys : List Char) :
    totalWidth w (xs ++ ys) = totalWidth w xs + totalWidth w ys := by
  simp [totalWidth_eq_sum]

/-! ## Taking what fits -/

/-- Of the prefixes of a text those that fit are the prefixes of what is taken. -/
theorem prefix_takeColumns_iff {columns : Nat} {cs other : List Char} :
    other <+: takeColumns w columns cs ↔ other <+: cs ∧ totalWidth w other ≤ columns := by
  induction cs generalizing columns other with
  | nil =>
    rw [takeColumns, List.prefix_nil]
    constructor
    · rintro rfl
      simp
    · exact fun h => h.1
  | cons c cs ih =>
    cases other with
    | nil => simp
    | cons c' other =>
      rw [takeColumns]
      split
      next hfits =>
        rw [List.cons_prefix_cons, List.cons_prefix_cons, ih, totalWidth_cons]
        constructor
        · rintro ⟨rfl, hother, hwidth⟩
          exact ⟨⟨rfl, hother⟩, by omega⟩
        · rintro ⟨⟨rfl, hother⟩, hwidth⟩
          exact ⟨rfl, hother, by omega⟩
      next hwide =>
        rw [List.prefix_nil, List.cons_prefix_cons, totalWidth_cons]
        constructor
        · intro h
          cases h
        · rintro ⟨⟨rfl, -⟩, hwidth⟩
          omega

/-- The longest prefix of a text whose characters fit into a number of columns. -/
structure LongestPrefix (w : Char → Nat) (columns : Nat) (cs kept : List Char) : Prop where
  isPrefix : kept <+: cs
  fits : totalWidth w kept ≤ columns
  longest : ∀ other, other <+: cs → totalWidth w other ≤ columns → other <+: kept

theorem longestPrefix_takeColumns (w : Char → Nat) (columns : Nat) (cs : List Char) :
    LongestPrefix w columns cs (takeColumns w columns cs) := by
  obtain ⟨hfront, hfits⟩ := prefix_takeColumns_iff.mp (List.prefix_refl (takeColumns w columns cs))
  exact ⟨hfront, hfits, fun _ hother hwidth => prefix_takeColumns_iff.mpr ⟨hother, hwidth⟩⟩

/-! ## Shortening -/

/-- Characters that would end a line of a cell or move on in it. -/
def breaksCell (c : Char) : Prop := c = '\n' ∨ c = '\r' ∨ c = '\t'

theorem not_breaksCell_flattenChar (c : Char) : ¬ breaksCell (flattenChar c) := by
  unfold flattenChar
  split
  · simp [breaksCell]
  · assumption

theorem flattenChar_of_not_breaksCell {c : Char} (h : ¬ breaksCell c) : flattenChar c = c :=
  if_neg h

/-- What a text shortened to a number of columns is. -/
structure Shortened (w : Char → Nat) (columns : Nat) (cs shown : List Char) : Prop where
  flat : ∀ c ∈ shown, ¬ breaksCell c
  fits : totalWidth w shown ≤ columns
  whole : totalWidth w (cs.map flattenChar) ≤ columns → shown = cs.map flattenChar
  cut : columns < totalWidth w (cs.map flattenChar) → 0 < columns →
    ∃ kept, LongestPrefix w (columns - 1) (cs.map flattenChar) kept ∧ shown = kept ++ ['…']

theorem shortened_elide (hmark : w '…' = 1) (cs : List Char) (columns : Nat) :
    Shortened w columns cs (elide w cs columns) := by
  have hflat : ∀ c ∈ cs.map flattenChar, ¬ breaksCell c := by
    intro c hc
    obtain ⟨c, -, rfl⟩ := List.mem_map.mp hc
    exact not_breaksCell_flattenChar c
  unfold elide
  dsimp only
  split
  next hfits =>
    exact ⟨hflat, hfits, fun _ => rfl, fun hwide => absurd hfits (Nat.not_le_of_lt hwide)⟩
  next hwide =>
    split
    next hnone =>
      subst hnone
      exact ⟨by simp, by simp, fun hfits => absurd hfits hwide, fun _ h => by omega⟩
    next hsome =>
      have hkept := longestPrefix_takeColumns w (columns - 1) (cs.map flattenChar)
      refine ⟨?_, ?_, fun hfits => absurd hfits hwide, fun _ _ => ⟨_, hkept, rfl⟩⟩
      · intro c hc
        rcases List.mem_append.mp hc with hc | hc
        · exact hflat c (hkept.isPrefix.subset hc)
        · obtain rfl := List.mem_singleton.mp hc
          simp [breaksCell]
      · have hwidth := hkept.fits
        simp only [totalWidth_append, totalWidth_cons, totalWidth_nil, hmark]
        omega

/-- A flat text that fits is not shortened. -/
theorem elide_of_fits {cs : List Char} {columns : Nat} (hflat : ∀ c ∈ cs, ¬ breaksCell c)
    (hfits : totalWidth w cs ≤ columns) : elide w cs columns = cs := by
  have hsame : cs.map flattenChar = cs := by
    conv => rhs; rw [← List.map_id cs]
    exact List.map_congr_left fun c hc => flattenChar_of_not_breaksCell (hflat c hc)
  rw [elide, hsame]
  exact if_pos hfits

theorem charWidth_mark : charWidth '…' = 1 := by decide +kernel

/-- A shortened text has no line breaks and fits, whatever the widths of the characters are, as long
as the mark takes one column. A text that fits is only flattened, and of one that does not the
longest prefix is kept that leaves a column for the mark. Shortening it again changes nothing. -/
theorem ellipsis_longest (s : String) (columns : Nat) :
    (∀ w : Char → Nat, w '…' = 1 →
      let shown := elide w s.toList columns
      Shortened w columns s.toList shown ∧ elide w shown columns = shown) ∧
    Shortened charWidth columns s.toList (ellipsis s columns).toList ∧
    ellipsis (ellipsis s columns) columns = ellipsis s columns := by
  have hall : ∀ w : Char → Nat, w '…' = 1 →
      Shortened w columns s.toList (elide w s.toList columns) ∧
        elide w (elide w s.toList columns) columns = elide w s.toList columns := by
    intro w hmark
    have hshown := shortened_elide hmark s.toList columns
    exact ⟨hshown, elide_of_fits hshown.flat hshown.fits⟩
  obtain ⟨hshown, hagain⟩ := hall charWidth charWidth_mark
  refine ⟨hall, ?_, ?_⟩
  · rw [ellipsis, String.toList_ofList]
    exact hshown
  · rw [ellipsis, ellipsis, String.toList_ofList, hagain]

/-- Of four columns the second character would take the third and the fourth, so it is left out. The
accent takes no column and stays with the letter before it. -/
theorem ellipsis_longest_wideText :
    charWidth '…' = 1 ∧
      Shortened charWidth 4 "語語e\u0301".toList ['語', '…'] ∧
      Shortened charWidth 4 "e\u0301語語".toList ['e', '\u0301', '語', '…'] := by
  obtain ⟨hwide, -⟩ := (ellipsis_longest "語語e\u0301" 4).1 charWidth charWidth_mark
  obtain ⟨haccent, -⟩ := (ellipsis_longest "e\u0301語語" 4).1 charWidth charWidth_mark
  have hshown : elide charWidth "語語e\u0301".toList 4 = ['語', '…'] := by decide +kernel
  have hshown' : elide charWidth "e\u0301語語".toList 4 = ['e', '\u0301', '語', '…'] := by
    decide +kernel
  rw [hshown] at hwide
  rw [hshown'] at haccent
  exact ⟨charWidth_mark, hwide, haccent⟩

end PropertySheet.Text

namespace PropertySheet.Markup

/-- The texts of a row's cells take no more than their columns, and one line. -/
theorem cells_fit (r : Row) (d : Option Descriptor) (columns : Nat) :
    ∀ cell ∈ [name r d columns, value r d columns],
      Text.totalWidth Text.charWidth cell.text.toList ≤ columns ∧
        ∀ c ∈ cell.text.toList, ¬ Text.breaksCell c := by
  intro cell hcell
  have hfits : ∀ (s : String) (n : Nat), n ≤ columns →
      Text.totalWidth Text.charWidth (Text.ellipsis s n).toList ≤ columns ∧
        ∀ c ∈ (Text.ellipsis s n).toList, ¬ Text.breaksCell c := by
    intro s n hn
    have hshown := Text.shortened_elide Text.charWidth_mark s.toList n
    rw [Text.ellipsis, String.toList_ofList]
    exact ⟨Nat.le_trans hshown.fits hn, hshown.flat⟩
  rcases List.mem_cons.mp hcell with rfl | hcell
  · refine hfits r.displayName _ ?_
    split
    · exact Nat.sub_le columns infoWidth
    · exact Nat.le_refl columns
  · obtain rfl := List.mem_singleton.mp hcell
    exact hfits _ columns (Nat.le_refl columns)

end PropertySheet.Markup
