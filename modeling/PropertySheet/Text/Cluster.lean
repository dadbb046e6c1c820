import PropertySheet.Text.ClusterTable

/-!
# Grapheme clusters

What a reader takes for one character, by the extended rules of the character standard: a base with
its marks, a Hangul syllable, a conjunct, a flag, a picture built with joiners. A screen cell holds
one cluster.

`clusters` cuts a text without losing or moving a character: its concatenation is the text.
-/

namespace PropertySheet.Text

/-- Break classes of the character standard. -/
inductive BreakClass where
  | cr | lf | control
  | extend | joiner | spacingMark | prepend
  | regional
  | leading | vowel | trailing | openSyllable | closedSyllable
  | pictograph
  | other
deriving DecidableEq, Repr

/-- The break class of a character. Printable ASCII needs no table. -/
def breakClass (c : Char) : BreakClass :=
  let n := c.toNat
  if n = 0x0D then .cr
  else if n = 0x0A then .lf
  else if 0x20 ≤ n && n < 0x7F then .other
  else if n = 0x200D then .joiner
  else if inRanges n controlRanges then .control
  else if inRanges n extendRanges then .extend
  else if inRanges n spacingMarkRanges then .spacingMark
  else if inRanges n prependRanges then .prepend
  else if 0x1F1E6 ≤ n && n ≤ 0x1F1FF then .regional
  else if (0x1100 ≤ n && n ≤ 0x115F) || (0xA960 ≤ n && n ≤ 0xA97C) then .leading
  else if (0x1160 ≤ n && n ≤ 0x11A7) || (0xD7B0 ≤ n && n ≤ 0xD7C6) then .vowel
  else if (0x11A8 ≤ n && n ≤ 0x11FF) || (0xD7CB ≤ n && n ≤ 0xD7FB) then .trailing
  else if 0xAC00 ≤ n && n ≤ 0xD7A3 then
    if (n - 0xAC00) % 28 = 0 then .openSyllable else .closedSyllable
  else if inRanges n pictographRanges then .pictograph
  else .other

/-- Progress of a conjunct: a consonant, then at least one virama among marks. -/
inductive Conjunct where
  | none | consonant | linked
deriving DecidableEq, Repr

/-- What the end of a cluster says about the next character. -/
structure ClusterEnd where
  last : BreakClass
  /-- A pictograph with marks only after it. -/
  pictograph : Bool
  /-- A pictograph with marks and then a joiner after it. -/
  joined : Bool
  /-- An odd number of regional letters. -/
  oddRegional : Bool
  conjunct : Conjunct
deriving DecidableEq, Repr

/-- Progress of a conjunct after one more character. -/
def Conjunct.next (state : Conjunct) (c : Char) (k : BreakClass) : Conjunct :=
  if inRanges c.toNat conjunctConsonantRanges then .consonant
  else match state with
    | .none => .none
    | s =>
      if inRanges c.toNat viramaRanges then .linked
      else if (k = .extend && c.toNat ≠ 0x200C) || k = .joiner then s
      else .none

/-- The end of a cluster that starts with a character. -/
def ClusterEnd.start (c : Char) : ClusterEnd :=
  let k := breakClass c
  { last := k, pictograph := k = .pictograph, joined := false, oddRegional := k = .regional,
    conjunct := Conjunct.none.next c k }

/-- The end of a cluster after one more character of it. -/
def ClusterEnd.push (e : ClusterEnd) (c : Char) : ClusterEnd :=
  let k := breakClass c
  { last := k
    pictograph := k = .pictograph || (e.pictograph && k = .extend)
    joined := e.pictograph && k = .joiner
    oddRegional := k = .regional && !e.oddRegional
    conjunct := e.conjunct.next c k }

/-- Whether a character continues the cluster before it. -/
def ClusterEnd.continues (e : ClusterEnd) (c : Char) : Bool :=
  let k := breakClass c
  match e.last, k with
  | .cr, .lf => true
  | .cr, _ | .lf, _ | .control, _ => false
  | _, .cr | _, .lf | _, .control => false
  | _, .extend | _, .joiner | _, .spacingMark => true
  | .prepend, _ => true
  | .leading, .leading | .leading, .vowel => true
  | .leading, .openSyllable | .leading, .closedSyllable => true
  | .openSyllable, .vowel | .openSyllable, .trailing | .vowel, .vowel | .vowel, .trailing => true
  | .closedSyllable, .trailing | .trailing, .trailing => true
  | .regional, .regional => e.oddRegional
  | _, .pictograph => e.joined
  | _, _ => e.conjunct = .linked && inRanges c.toNat conjunctConsonantRanges

/-- The rest of the open cluster, and the clusters after it. -/
def clustersFrom (e : ClusterEnd) : List Char → List Char × List (List Char)
  | [] => ([], [])
  | c :: rest =>
    if e.continues c then
      let (open_, done) := clustersFrom (e.push c) rest
      (c :: open_, done)
    else
      let (open_, done) := clustersFrom (.start c) rest
      ([], (c :: open_) :: done)

/-- The grapheme clusters of a text, in order. -/
def clusters : List Char → List (List Char)
  | [] => []
  | c :: rest =>
    let (open_, done) := clustersFrom (.start c) rest
    (c :: open_) :: done

theorem flatten_clustersFrom (e : ClusterEnd) (cs : List Char) :
    (clustersFrom e cs).1 ++ (clustersFrom e cs).2.flatten = cs := by
  induction cs generalizing e with
  | nil => rfl
  | cons c rest ih =>
    rw [clustersFrom]
    split
    · simpa using ih (e.push c)
    · simpa using ih (.start c)

/-- No character is lost, moved or doubled. -/
theorem flatten_clusters (cs : List Char) : (clusters cs).flatten = cs := by
  cases cs with
  | nil => rfl
  | cons c rest => simpa [clusters] using flatten_clustersFrom (.start c) rest

end PropertySheet.Text
