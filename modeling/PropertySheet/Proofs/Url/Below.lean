import Mathlib.Data.List.DropRight
import PropertySheet.Proofs.Expression.Lines
import PropertySheet.Proofs.Url.Percent
import PropertySheet.Url.Basic

/-!
# Addresses below a root

A client puts a path behind a root and reads the whole as one address. `parse?_below` says what
comes of it: the path goes on where the root ends, with what is left of it once the space at its end
and the line breaks are gone, cut at the first `#` and at the first `?`, and split at slashes and
backslashes; then `.` and `..` are resolved, over the segments of the root as well.
-/

namespace PropertySheet

section Dropping

variable {α : Type} {p : α → Bool} {x : α}

/-- Whatever is behind an element that is not dropped stays. -/
theorem dropWhile_append_cons (hx : p x = false) (xs ys : List α) :
    (xs ++ x :: ys).dropWhile p = xs.dropWhile p ++ x :: ys := by
  rw [List.dropWhile_append]
  split
  · next hxs =>
    rw [List.isEmpty_iff.mp hxs, List.dropWhile_cons_of_neg (by simp [hx])]
    rfl
  · rfl

theorem takeWhile_append_cons (hx : p x = false) (xs ys : List α) :
    (xs ++ x :: ys).takeWhile p = xs.takeWhile p := by
  rw [List.takeWhile_append, List.takeWhile_cons_of_neg (by simp [hx]), List.append_nil]
  split
  · next hxs => exact (List.takeWhile_prefix p).eq_of_length hxs |>.symm
  · rfl

theorem rdropWhile_append_cons (hx : p x = false) (xs ys : List α) :
    (xs ++ x :: ys).rdropWhile p = xs ++ x :: ys.rdropWhile p := by
  rw [List.rdropWhile, List.reverse_append, List.reverse_cons, List.append_assoc,
    List.singleton_append, dropWhile_append_cons hx]
  simp [List.rdropWhile]

end Dropping

namespace Url

/-! ## Cleaning -/

def isMargin (c : Char) : Bool := c.toNat ≤ 0x20

def counts (c : Char) : Bool := !(c = '\t' || c = '\n' || c = '\r')

/-- What is left of a text at the end of an address. -/
def cleanEnd (cs : List Char) : List Char := (cs.rdropWhile isMargin).filter counts

theorem clean_append (xs ys : List Char) :
    clean (xs ++ '/' :: ys) = (xs.dropWhile isMargin).filter counts ++ '/' :: cleanEnd ys := by
  show (((xs ++ '/' :: ys).dropWhile isMargin).rdropWhile isMargin).filter counts = _
  rw [dropWhile_append_cons (by decide), rdropWhile_append_cons (by decide), List.filter_append,
    List.filter_cons_of_pos (by decide), cleanEnd]

/-! ## Cutting -/

section Cutting

variable {p : Char → Bool} {xs : List Char}

/-- Where there is nothing to cut at before a text, the cut is in that text. -/
theorem cutAt_append (h : ∀ c ∈ xs, p c = false) (ys : List Char) :
    cutAt p (xs ++ ys) = (xs ++ (cutAt p ys).1, (cutAt p ys).2) := by
  have hxs : ∀ c ∈ xs, (!p c) = true := fun c hc => by rw [h c hc]; rfl
  simp only [cutAt, List.dropWhile_append_of_pos hxs, List.takeWhile_append_of_pos hxs]
  split <;> rfl

theorem cutAt_of_forall (h : ∀ c ∈ xs, p c = false) : cutAt p xs = (xs, none) := by
  have hcut := cutAt_append h []
  rwa [List.append_nil, show cutAt p [] = ([], none) from rfl, List.append_nil] at hcut

/-- A text that is not cut has nothing to cut it at, and one that is cut is so by what follows its
first part. -/
theorem cutAt_cases (p : Char → Bool) (xs : List Char) :
    (∀ c ∈ xs, p c = false) ∨
      ∃ ys x zs, xs = ys ++ x :: zs ∧ p x = true ∧ ∀ c ∈ ys, p c = false := by
  cases hrest : xs.dropWhile (!p ·) with
  | nil => exact .inl fun c hc => by simpa using List.dropWhile_eq_nil_iff.mp hrest c hc
  | cons x zs =>
    have hsplit := List.takeWhile_append_dropWhile (p := (!p ·)) (l := xs)
    have hx := List.head?_dropWhile_not (!p ·) xs
    rw [hrest] at hsplit hx
    refine .inr ⟨xs.takeWhile (!p ·), x, zs, hsplit.symm, by simpa using hx, fun c hc => ?_⟩
    simpa using List.mem_takeWhile_imp hc

theorem cutAt_append_cons (h : ∀ c ∈ xs, p c = false) {x : Char} (hx : p x = true)
    (ys : List Char) : cutAt p (xs ++ x :: ys) = (xs, some ys) := by
  rw [cutAt_append h]
  simp [cutAt, hx]

theorem cutAt_fst (p : Char → Bool) (xs : List Char) : (cutAt p xs).1 = xs.takeWhile (!p ·) := by
  unfold cutAt
  split
  · next hnone => exact (List.takeWhile_eq_self_iff.mpr (List.dropWhile_eq_nil_iff.mp hnone)).symm
  · rfl

/-- Where the path of an address is over. -/
def endsPath (c : Char) : Bool := c = '#' || c = '?'

/-- A text up to the end of the path, with the query and the fragment that follow it. -/
def pathParts (cs : List Char) : List Char × Option (List Char) × Option (List Char) :=
  let (rest, fragment) := cutAt (· = '#') cs
  let (path, query) := cutAt (· = '?') rest
  (path, query, fragment)

theorem pathParts_append (h : ∀ c ∈ xs, endsPath c = false) (ys : List Char) :
    pathParts (xs ++ ys) = (xs ++ (pathParts ys).1, (pathParts ys).2) := by
  have hf : ∀ c ∈ xs, decide (c = '#') = false := fun c hc => (Bool.or_eq_false_iff.mp (h c hc)).1
  have hq : ∀ c ∈ xs, decide (c = '?') = false := fun c hc => (Bool.or_eq_false_iff.mp (h c hc)).2
  rw [pathParts, cutAt_append hf]
  simp only [cutAt_append hq]
  rfl

theorem pathParts_of_forall (h : ∀ c ∈ xs, endsPath c = false) :
    pathParts xs = (xs, none, none) := by
  have hparts := pathParts_append h []
  rwa [List.append_nil, show pathParts [] = ([], none, none) from rfl, List.append_nil] at hparts

theorem forall_of_pathParts (h : (pathParts xs).2 = (none, none)) :
    ∀ c ∈ xs, endsPath c = false := by
  rcases cutAt_cases (· = '#') xs with hf | ⟨ys, x, zs, rfl, hx, hys⟩
  · rcases cutAt_cases (· = '?') xs with hq | ⟨ys, x, zs, rfl, hx, hys⟩
    · exact fun c hc => Bool.or_eq_false_iff.mpr ⟨hf c hc, hq c hc⟩
    · simp only [pathParts, cutAt_of_forall hf, cutAt_append_cons hys hx] at h
      cases h
  · rw [pathParts, cutAt_append_cons hys hx] at h
    cases congrArg Prod.snd h

theorem pathParts_fst (xs : List Char) : (pathParts xs).1 = xs.takeWhile (!endsPath ·) := by
  show (cutAt (· = '?') (cutAt (· = '#') xs).1).1 = _
  rw [cutAt_fst, cutAt_fst, List.takeWhile_takeWhile]
  congr 1
  funext c
  simp only [endsPath, Bool.not_or, Bool.decide_and, Bool.decide_eq_true, Bool.and_comm]

end Cutting

/-! ## Segments -/

/-- Append segments of which none is the last. -/
def addInner (path : List String) (segments : List (List Char)) : List String :=
  segments.foldl (addSegment · · false) path

theorem addSegments_append (path : List String) (inner : List (List Char))
    {segments : List (List Char)} (h : segments ≠ []) :
    addSegments path (inner ++ segments) = addSegments (addInner path inner) segments := by
  induction inner generalizing path with
  | nil => rfl
  | cons s inner ih =>
    have hne : inner ++ segments ≠ [] := List.append_ne_nil_of_right_ne_nil inner h
    rw [List.cons_append, addSegments, ih]
    · rfl
    · exact hne

/-- A segment that is written as one or two dots. -/
def IsDots (segment : List Char) : Prop := dots segment = ['.', '.'] ∨ dots segment = ['.']

instance (segment : List Char) : Decidable (IsDots segment) :=
  inferInstanceAs (Decidable (_ ∨ _))

/-- A segment as it is written in a path. -/
def segmentText (segment : List Char) : String := String.ofList (percentEncode keptInPath segment)

theorem addSegment_of_not_isDots {segment : List Char} (h : ¬ IsDots segment) (path : List String)
    (isLast : Bool) : addSegment path segment isLast = path ++ [segmentText segment] := by
  rw [IsDots, not_or] at h
  rw [addSegment, if_neg h.1, if_neg h.2]
  rfl

/-- What one segment does to a path: nothing comes into it but the segment itself, or an empty one
at the end. -/
theorem getElem?_addSegment {path : List String} {segment : List Char} {isLast : Bool} {i : Nat}
    {x : String} (h : (addSegment path segment isLast)[i]? = some x) :
    path[i]? = some x ∨ (isLast = true ∧ x = "") ∨
      (¬ IsDots segment ∧ x = segmentText segment) := by
  have hpush : ∀ {init : List String} {y : String}, (init ++ [y])[i]? = some x →
      init[i]? = some x ∨ x = y := by
    intro init y hx
    rw [List.getElem?_append] at hx
    split at hx
    · exact .inl hx
    · exact .inr (List.mem_singleton.mp (List.mem_of_getElem? hx))
  have hended : ∀ {init : List String}, (if isLast then init ++ [""] else init)[i]? = some x →
      init[i]? = some x ∨ (isLast = true ∧ x = "") := by
    intro init hx
    cases isLast with
    | true => exact (hpush hx).imp_right fun hempty => ⟨rfl, hempty⟩
    | false => exact .inl hx
  have hinit : path.dropLast[i]? = some x → path[i]? = some x := by
    rw [List.getElem?_dropLast]
    split
    · exact id
    · intro hx
      cases hx
  by_cases hdots : IsDots segment
  · rcases hdots with htwo | hone
    · rw [addSegment, if_pos htwo] at h
      exact (hended h).imp hinit .inl
    · rw [addSegment, if_neg (by rw [hone]; decide), if_pos hone] at h
      exact (hended h).imp_right .inl
  · rw [addSegment_of_not_isDots hdots] at h
    exact (hpush h).imp_right fun hx => .inr ⟨hdots, hx⟩

/-- What segments do to a path: nothing comes into it but those of them that are no dots, or an
empty one at the end. -/
theorem getElem?_addSegments {path : List String} {segments : List (List Char)} {i : Nat}
    {x : String} (h : (addSegments path segments)[i]? = some x) :
    path[i]? = some x ∨ x = "" ∨ ∃ s ∈ segments, ¬ IsDots s ∧ x = segmentText s := by
  fun_induction addSegments path segments with
  | case1 path => exact .inl h
  | case2 path s =>
    refine (getElem?_addSegment h).imp_right (Or.imp (·.2) fun hs => ?_)
    exact ⟨s, List.mem_singleton_self s, hs⟩
  | case3 path s rest hne ih =>
    rcases ih h with hx | hempty | ⟨t, ht, hx⟩
    · refine (getElem?_addSegment hx).imp_right (Or.imp (·.2) fun hs => ?_)
      exact ⟨s, List.mem_cons_self, hs⟩
    · exact .inr (.inl hempty)
    · exact .inr (.inr ⟨t, List.mem_cons_of_mem s ht, hx⟩)

theorem getElem?_addInner {path : List String} {segments : List (List Char)} {i : Nat}
    {x : String} (h : (addInner path segments)[i]? = some x) :
    path[i]? = some x ∨ ∃ s ∈ segments, ¬ IsDots s ∧ x = segmentText s := by
  induction segments generalizing path with
  | nil => exact .inl h
  | cons s rest ih =>
    rcases ih h with hx | ⟨t, ht, hx⟩
    · rcases getElem?_addSegment hx with hpath | ⟨hlast, -⟩ | hs
      · exact .inl hpath
      · cases hlast
      · exact .inr ⟨s, List.mem_cons_self, hs⟩
    · exact .inr ⟨t, List.mem_cons_of_mem s ht, hx⟩

/-- A path that ends with a slash ends with an empty segment. -/
theorem addSegments_empty (path : List String) : addSegments path [[]] = path ++ [""] := rfl

/-! ## Reading -/

/-- Read what stands behind the scheme and the slashes that follow it. -/
def ofServer? (secure : Bool) (cs : List Char) : Option Url :=
  let parts := pathParts cs
  (server? secure (afterUserInfo (parts.1.takeWhile fun c => !isSeparator c))).map fun server => {
    secure, host := server.1, socket := server.2
    path := pathOf ((parts.1.dropWhile fun c => !isSeparator c).drop 1)
    query := parts.2.1.map fun q => String.ofList (percentEncode keptInQuery q)
    fragment := parts.2.2.map fun f => String.ofList (percentEncode keptInFragment f) }

theorem parse?_eq (s : String) :
    parse? s = (scheme? (clean s.toList)).bind fun r =>
      ofServer? r.1 (r.2.dropWhile isSeparator) := by
  rw [parse?]
  refine congrArg _ (funext fun r => ?_)
  simp only [ofServer?, Option.map_eq_bind]
  rfl

/-- An address whose path goes on behind some segments with a text, up to a query or a fragment. -/
def atPath (u : Url) (path : List String) (cs : List Char) : Url :=
  let parts := pathParts cs
  { u with
    path := addSegments path (Text.splitChars isSeparator parts.1)
    query := parts.2.1.map fun q => String.ofList (percentEncode keptInQuery q)
    fragment := parts.2.2.map fun f => String.ofList (percentEncode keptInFragment f) }

/-- An address whose path goes on behind some segments with the end of a text. -/
def below (u : Url) (path : List String) (text : List Char) : Url := u.atPath path (cleanEnd text)

theorem pathOf_below (xs ys : List Char) :
    pathOf ((xs ++ '/' :: ys).drop 1) =
      addSegments (pathOf ((xs ++ ['/']).drop 1)).dropLast (Text.splitChars isSeparator ys) := by
  cases xs with
  | nil => rfl
  | cons x xs =>
    have hslash : isSeparator '/' = true := rfl
    show addSegments [] (Text.splitChars isSeparator (xs ++ '/' :: ys)) =
      addSegments (addSegments [] (Text.splitChars isSeparator (xs ++ '/' :: []))).dropLast _
    rw [splitChars_eq, splitChars_eq, splitChars_eq, List.splitOnP_append_cons _ _ hslash,
      List.splitOnP_append_cons _ _ hslash, List.splitOnP_nil,
      addSegments_append _ _ (List.splitOnP_ne_nil _ ys),
      addSegments_append _ _ (List.cons_ne_nil _ _), addSegments_empty, List.dropLast_concat]

theorem ofServer?_nil (secure : Bool) : ofServer? secure [] = none := by
  cases secure <;> rfl

/-- What is read up to a slash is read whatever follows it, unless a query or a fragment begins
before it. -/
theorem ofServer?_append {secure : Bool} {xs : List Char} {u : Url}
    (h : ofServer? secure (xs ++ ['/']) = some u) (hquery : u.query = none)
    (hfragment : u.fragment = none) (ys : List Char) :
    ofServer? secure (xs ++ '/' :: ys) = some (u.atPath u.path.dropLast ys) := by
  have htake : ∀ zs, (xs ++ '/' :: zs).takeWhile (fun c => !isSeparator c) =
      xs.takeWhile fun c => !isSeparator c := takeWhile_append_cons rfl xs
  have hdrop : ∀ zs, (xs ++ '/' :: zs).dropWhile (fun c => !isSeparator c) =
      xs.dropWhile (fun c => !isSeparator c) ++ '/' :: zs := dropWhile_append_cons rfl xs
  have hends : ∀ c ∈ xs ++ ['/'], endsPath c = false := by
    obtain ⟨server, -, rfl⟩ := Option.map_eq_some_iff.mp h
    refine forall_of_pathParts (Prod.ext ?_ ?_)
    · exact Option.map_eq_none_iff.mp hquery
    · exact Option.map_eq_none_iff.mp hfragment
  simp only [ofServer?, pathParts_of_forall hends, htake, hdrop] at h
  obtain ⟨server, hserver, rfl⟩ := Option.map_eq_some_iff.mp h
  simp only [ofServer?, List.append_cons xs '/' ys, pathParts_append hends]
  rw [← List.append_cons, htake, hdrop, hserver, pathOf_below]
  rfl

/-- However many slashes follow the scheme, as long as a server follows them. -/
theorem ofServer?_slashes {secure : Bool} {xs : List Char} {u : Url}
    (h : ofServer? secure ((xs ++ ['/']).dropWhile isSeparator) = some u)
    (hquery : u.query = none) (hfragment : u.fragment = none) (ys : List Char) :
    ofServer? secure ((xs ++ '/' :: ys).dropWhile isSeparator) =
      some (u.atPath u.path.dropLast ys) := by
  rw [List.dropWhile_append] at h ⊢
  split at h
  · cases (ofServer?_nil secure).symm.trans h
  · next hserver =>
    rw [if_neg hserver]
    exact ofServer?_append h hquery hfragment ys

/-- Whether a scheme is that of secure addresses, if it is one of the web. -/
def isSecure? (scheme : List Char) : Option Bool :=
  let name := String.ofList (scheme.map Char.toLower)
  if name = "http" then some false else if name = "https" then some true else none

theorem scheme?_append {xs : List Char} {secure : Bool} {rest : List Char}
    (h : scheme? (xs ++ ['/']) = some (secure, rest)) :
    ∃ more, rest = more ++ ['/'] ∧ ∀ ys, scheme? (xs ++ ys) = some (secure, more ++ ys) := by
  rcases cutAt_cases (· = ':') xs with hnone | ⟨name, colon, more, rfl, hcolon, hname⟩
  · rw [scheme?, cutAt_append hnone] at h
    cases h
  · have hscheme : ∀ ys, scheme? (name ++ colon :: more ++ ys) =
        (isSecure? name).map (·, more ++ ys) := by
      intro ys
      rw [scheme?, List.append_assoc, List.cons_append, cutAt_append_cons hname hcolon]
      simp only [isSecure?]
      split
      · rfl
      · split <;> rfl
    rw [hscheme] at h
    obtain ⟨_, hsecure, hrest⟩ := Option.map_eq_some_iff.mp h
    obtain ⟨rfl, rfl⟩ := Prod.mk.inj hrest
    exact ⟨more, rfl, fun ys => by rw [hscheme, hsecure, Option.map_some]⟩

/-- A root is an address that a path can be put behind: it has neither a query nor a fragment. -/
structure IsRoot (root : String) (u : Url) : Prop where
  parsed : parse? (root ++ "/") = some u
  query : u.query = none
  fragment : u.fragment = none

/-- A path below a root. -/
theorem parse?_below {root : String} {u : Url} (h : IsRoot root u) (path : String) :
    parse? (root ++ "/" ++ path) = some (u.below u.path.dropLast path.toList) := by
  have hparsed := h.parsed
  have hroot : (root ++ "/").toList = root.toList ++ '/' :: [] := String.toList_append
  have hwhole : (root ++ "/" ++ path).toList = root.toList ++ '/' :: path.toList := by
    rw [String.toList_append, hroot, List.append_assoc]
    rfl
  rw [parse?_eq, hroot, clean_append] at hparsed
  rw [parse?_eq, hwhole, clean_append]
  obtain ⟨⟨secure, rest⟩, hscheme, hserver⟩ := Option.bind_eq_some_iff.mp hparsed
  obtain ⟨more, rfl, hmore⟩ := scheme?_append hscheme
  rw [hmore, Option.bind_some]
  exact ofServer?_slashes hserver h.query h.fragment _

/-! ## Segments that stand for themselves -/

/-- Characters that are one segment wherever they stand in a path, or, as the last ones of it. -/
structure Plain (isLast : Bool) (cs : List Char) : Prop where
  chars : ∀ c ∈ cs, isSeparator c = false ∧ counts c = true ∧ endsPath c = false
  dots : ¬ IsDots cs
  trimmed : isLast = true → cs.rdropWhile isMargin = cs

instance (isLast : Bool) (cs : List Char) : Decidable (Plain isLast cs) :=
  decidable_of_iff ((cs.all fun c => !isSeparator c && (counts c && !endsPath c)) = true ∧
      ¬ IsDots cs ∧ (isLast = true → cs.rdropWhile isMargin = cs))
    ⟨fun h => ⟨fun c hc => by simpa using List.all_eq_true.mp h.1 c hc, h.2.1, h.2.2⟩,
      fun h => ⟨List.all_eq_true.mpr fun c hc => by simpa using h.chars c hc, h.dots, h.trimmed⟩⟩

theorem plain_nil (isLast : Bool) : Plain isLast [] :=
  ⟨fun _ hc => absurd hc List.not_mem_nil, by decide, fun _ => rfl⟩

section Plain

variable {isLast : Bool} {s : List Char}

theorem path_atPath (u : Url) (path : List String) (cs : List Char) :
    (u.atPath path cs).path =
      addSegments path ((cs.takeWhile (!endsPath ·)).splitOnP isSeparator) := by
  rw [← pathParts_fst, ← splitChars_eq]
  rfl

theorem cleanEnd_append (s text : List Char) :
    cleanEnd (s ++ '/' :: text) = s.filter counts ++ '/' :: cleanEnd text := by
  rw [cleanEnd, rdropWhile_append_cons (by decide), List.filter_append,
    List.filter_cons_of_pos (by decide), cleanEnd]

theorem Plain.filter_eq (h : Plain isLast s) : s.filter counts = s :=
  List.filter_eq_self.mpr fun c hc => (h.chars c hc).2.1

theorem Plain.cleanEnd_eq (h : Plain true s) : cleanEnd s = s := by
  rw [cleanEnd, h.trimmed rfl, h.filter_eq]

/-- A plain segment goes into the path as it is written there. -/
theorem below_segment (h : Plain false s) (u : Url) (path : List String) (text : List Char) :
    u.below path (s ++ '/' :: text) = u.below (path ++ [segmentText s]) text := by
  have hends : ∀ c ∈ s ++ ['/'], endsPath c = false := by
    intro c hc
    rcases List.mem_append.mp hc with hs | hslash
    · exact (h.chars c hs).2.2
    · rw [List.mem_singleton.mp hslash]
      rfl
  have hsegments : ∀ cs, addSegments path (Text.splitChars isSeparator (s ++ '/' :: cs)) =
      addSegments (path ++ [segmentText s]) (Text.splitChars isSeparator cs) := by
    intro cs
    have hpiece := addSegments_append path [s] (List.splitOnP_ne_nil isSeparator cs)
    rw [splitChars_eq, splitChars_eq,
      List.splitOnP_append_cons_of_forall_mem (fun c hc => (h.chars c hc).1) '/' rfl]
    rw [addInner, List.foldl_cons, addSegment_of_not_isDots h.dots] at hpiece
    exact hpiece
  rw [below, below, cleanEnd_append, h.filter_eq, List.append_cons]
  simp only [atPath, pathParts_append hends]
  rw [← List.append_cons, hsegments]

theorem below_last (h : Plain true s) (u : Url) (path : List String) :
    u.below path s =
      { u with path := path ++ [segmentText s], query := none, fragment := none } := by
  have hparts := pathParts_of_forall fun c hc => (h.chars c hc).2.2
  simp only [below, h.cleanEnd_eq, atPath, hparts, splitChars_eq,
    List.splitOnP_eq_singleton fun c hc => (h.chars c hc).1, addSegments,
    addSegment_of_not_isDots h.dots]
  rfl

/-- A piece of what is left of a segment, if it is written like the segment, is all of it, and
nothing has been taken away. -/
theorem eq_of_piece {rest piece : List Char} (hrest : rest.Sublist s)
    (hpiece : piece ∈ rest.splitOnP isSeparator) (h : segmentText s = segmentText piece) :
    piece = s ∧ rest = s ∧ ∀ c ∈ s, isSeparator c = false := by
  have hflat := List.sublist_flatten_of_mem hpiece
  rw [flatten_splitOnP] at hflat
  have hsub : piece.Sublist rest := hflat.trans List.filter_sublist
  obtain rfl : piece = s :=
    eq_of_sublist_of_percentEncode_eq (hsub.trans hrest) (String.ofList_inj.mp h.symm)
  refine ⟨rfl, hrest.antisymm hsub, fun c hc => ?_⟩
  simpa using List.of_mem_filter (hflat.subset hc)

/-- What is left of some characters comes into a path as if it were all of them only if it is, and
they are plain. -/
theorem plain_of_piece {kept : List Char} (hkept : kept.Sublist s)
    (hcounts : ∀ c ∈ kept, counts c = true)
    (h : segmentText s = "" ∨ ∃ piece ∈ (kept.takeWhile (!endsPath ·)).splitOnP isSeparator,
      ¬ IsDots piece ∧ segmentText s = segmentText piece) :
    Plain false s ∧ kept = s := by
  rcases h with hempty | ⟨piece, hpiece, hdots, htext⟩
  · obtain rfl : [] = s :=
      eq_of_sublist_of_percentEncode_eq s.nil_sublist (String.ofList_inj.mp hempty.symm)
    exact ⟨plain_nil false, List.sublist_nil.mp hkept⟩
  · have hcut : (kept.takeWhile (!endsPath ·)).Sublist kept := (List.takeWhile_prefix _).sublist
    obtain ⟨rfl, hrest, hseparators⟩ := eq_of_piece (hcut.trans hkept) hpiece htext
    obtain rfl : kept = piece := hkept.antisymm (by rwa [hrest] at hcut)
    refine ⟨⟨fun c hc => ⟨hseparators c hc, hcounts c hc, ?_⟩, hdots, nofun⟩, rfl⟩
    simpa using List.takeWhile_eq_self_iff.mp hrest c hc

theorem plain_of_below_last {u : Url} {path : List String}
    (h : (u.below path s).path = path ++ [segmentText s]) : Plain true s := by
  have hplace : (path ++ [segmentText s])[path.length]? = some (segmentText s) :=
    List.getElem?_concat_length
  rw [← h, below, path_atPath] at hplace
  have hfiltered : (cleanEnd s).Sublist (s.rdropWhile isMargin) := List.filter_sublist
  have htrimmed : (s.rdropWhile isMargin).Sublist s := (List.rdropWhile_prefix _ s).sublist
  obtain ⟨hplain, hclean⟩ := plain_of_piece (hfiltered.trans htrimmed)
    (fun c hc => List.of_mem_filter hc) ((getElem?_addSegments hplace).resolve_left (by simp))
  rw [hclean] at hfiltered
  exact ⟨hplain.chars, hplain.dots, fun _ => htrimmed.antisymm hfiltered⟩

theorem plain_of_below_segment {name : List Char} (hname : Plain true name) {u : Url}
    {path : List String}
    (h : (u.below path (s ++ '/' :: name)).path = path ++ [segmentText s, segmentText name]) :
    Plain false s := by
  rw [below, path_atPath, cleanEnd_append, hname.cleanEnd_eq] at h
  have hkept : (s.filter counts).Sublist s := List.filter_sublist
  have hcounts : ∀ c ∈ s.filter counts, counts c = true := fun c hc => List.of_mem_filter hc
  refine (plain_of_piece hkept hcounts ?_).1
  rw [List.takeWhile_append] at h
  split at h
  · next hwhole =>
    -- The name is still in the path, so that what comes before it is made of inner segments.
    have hends : ∀ c ∈ '/' :: name, (!endsPath c) = true := by
      intro c hc
      rcases List.mem_cons.mp hc with rfl | hin
      · rfl
      · rw [(hname.chars c hin).2.2]
        rfl
    rw [List.takeWhile_eq_self_iff.mpr hends, List.splitOnP_append_cons _ _ rfl,
      List.splitOnP_eq_singleton fun c hc => (hname.chars c hc).1,
      addSegments_append _ _ (List.cons_ne_nil _ _), addSegments,
      addSegment_of_not_isDots hname.dots, List.append_cons path] at h
    have hplace : (path ++ [segmentText s])[path.length]? = some (segmentText s) :=
      List.getElem?_concat_length
    rw [← List.append_cancel_right h] at hplace
    rw [(List.takeWhile_prefix (!endsPath ·)).eq_of_length hwhole]
    exact .inr ((getElem?_addInner hplace).resolve_left (by simp))
  · -- The path is over before the name.
    have hplace : (path ++ [segmentText s, segmentText name])[path.length]? =
        some (segmentText s) := by simp
    rw [← h] at hplace
    exact (getElem?_addSegments hplace).resolve_left (by simp)

end Plain

end Url

end PropertySheet
