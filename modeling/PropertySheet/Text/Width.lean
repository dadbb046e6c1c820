import PropertySheet.Text.Blank
import PropertySheet.Text.WidthTable

/-!
# Column widths

A terminal draws a character in no, one or two columns (one Khmer sign takes three). Two measures
are needed and they differ: `charWidth` takes a character on its own, `textWidth` takes a text with
the ligatures and pictures its characters form. A control character has no width of its own and
counts one column inside a text.
-/

namespace PropertySheet.Text

/-- Columns of a character on its own. -/
def charWidth (c : Char) : Nat :=
  let n := c.toNat
  if n < 0x20 then 0
  else if n < 0x7F then 1
  else if n < 0xA0 then 0
  else if n = 0x17D8 then 3
  else if inRanges n zeroColumnRanges then 0
  else if inRanges n twoColumnRanges then 2
  else 1

/-! ## Width of a text

The text is read from its end, so that each character knows what follows it. The context names what
the characters to the right still allow to be joined to them. -/

/-- What a text offers to the character before it. -/
inductive Follower where
  | plain
  | lineFeed
  /-- A selector for the picture form. -/
  | pictureSelector
  /-- A selector for the text form. -/
  | textSelector
  | picture
  | skinTone
  | regional
  | regionals
  /-- A joiner before a picture. -/
  | joined
  | joinedSelector
  | joinedKeycap
  | joinedKeycapSelector
  | joinedRegional
  | joinedRegionalPair
  | joinedRegionalOdd
  | alef
  | lamed
  | joinedLamed
  | ya
  | joinedYa
  | vowelYa
  | tifinagh
  | joinedTifinagh
  | tifinaghJoiner
  | lisuTone
  | orkhonI
  | joinedOrkhonI
  | khmerLetter
deriving DecidableEq, Repr

def isRegional (c : Char) : Bool := 0x1F1E6 ≤ c.toNat && c.toNat ≤ 0x1F1FF

def isSkinTone (c : Char) : Bool := 0x1F3FB ≤ c.toNat && c.toNat ≤ 0x1F3FF

/-- Pictures that stand for themselves: no regional letters and no skin tones. -/
def isPicture (c : Char) : Bool :=
  0x80 ≤ c.toNat && !isRegional c && !isSkinTone c && inRanges c.toNat pictureRanges

def isKeycapBase (c : Char) : Bool := ('0' ≤ c && c ≤ '9') || c == '#' || c == '*'

/-- Characters that a selector can turn into a picture. -/
def hasPictureForm (c : Char) : Bool :=
  isKeycapBase c ||
    (0x80 ≤ c.toNat && !isRegional c && !isSkinTone c && inRanges c.toNat emojiRanges)

/-- Pictures that a selector can turn back into text of one column. -/
def hasTextForm (c : Char) : Bool := c.toNat < 0x10000 && isPicture c

def isTifinaghConsonant (c : Char) : Bool :=
  (0x2D31 ≤ c.toNat && c.toNat ≤ 0x2D65) || c.toNat == 0x2D6F

def isKhmerLetter (c : Char) : Bool :=
  inRanges c.toNat [(0x1780, 0x1782), (0x1784, 0x1787), (0x1789, 0x178C), (0x178E, 0x1793),
    (0x1795, 0x1798), (0x179B, 0x179D), (0x17A0, 0x17A0), (0x17A2, 0x17A2), (0x17A7, 0x17A7),
    (0x17AB, 0x17AC), (0x17AF, 0x17AF)]

/-- Default-ignorable marks, which stand between the parts of a ligature without breaking it. -/
def isLigatureTransparent (c : Char) : Bool :=
  inRanges c.toNat [(0x34F, 0x34F), (0x17B4, 0x17B5), (0x180B, 0x180D), (0x180F, 0x180F),
    (0x200D, 0x200D), (0xFE00, 0xFE0F), (0xE0100, 0xE01EF)]

/-- A character with nothing to join on its right: its columns, and what it offers to the left. -/
def standalone (c : Char) : Int × Follower :=
  let n := c.toNat
  let offers : Follower :=
    if n < 0x80 then .plain
    else if n = 0xFE0F then .pictureSelector
    else if n = 0xFE0E then .textSelector
    else if isRegional c then .regional
    else if isSkinTone c then .skinTone
    else if isPicture c then .picture
    else if inRanges n alefRanges then .alef
    else if n = 0x05DC then .lamed
    else if n = 0x1A10 then .ya
    else if isTifinaghConsonant c then .tifinagh
    else if n = 0xA4FC || n = 0xA4FD then .lisuTone
    else if n = 0x10C03 then .orkhonI
    else if isKhmerLetter c then .khmerLetter
    else .plain
  (charWidth c, offers)

/-- A ligature's later part stays on offer across transparent marks; a joiner is remembered. -/
def acrossMark (c : Char) : Follower → Option Follower
  | .lamed => if c.toNat = 0x200D then some .joinedLamed else some .lamed
  | .ya => if c.toNat = 0x200D then some .joinedYa else some .ya
  | .tifinagh => if c.toNat = 0x200D then some .joinedTifinagh else some .tifinagh
  | .orkhonI => if c.toNat = 0x200D then some .joinedOrkhonI else some .orkhonI
  | .joinedLamed => some .joinedLamed
  | .joinedYa => some .joinedYa
  | .vowelYa => some .vowelYa
  | .joinedTifinagh => some .joinedTifinagh
  | .tifinaghJoiner => some .tifinaghJoiner
  | .lisuTone => some .lisuTone
  | .joinedOrkhonI => some .joinedOrkhonI
  | .khmerLetter => some .khmerLetter
  | _ => none

/-- The columns that a character adds before a context, and the context it leaves. -/
def widthStep (c : Char) (next : Follower) : Int × Follower :=
  let n := c.toNat
  match next with
  | .plain => if n = 0x0A then (1, .lineFeed) else if isControl c then (1, .plain) else standalone c
  | .pictureSelector => if hasPictureForm c then (2, .picture) else widthPlain c
  | .joinedSelector =>
    if hasPictureForm c || isPicture c then (0, .picture)
    else if isSkinTone c then (0, .skinTone) else widthPlain c
  | .joinedKeycapSelector => if isKeycapBase c then (0, .picture) else widthPlain c
  | _ =>
    if n ≤ 0xA0 then
      if n = 0x0D ∧ next = .lineFeed then (0, .plain) else widthPlain c
    else if n = 0xFE0F then
      match next with
      | .joined => (0, .joinedSelector)
      | .joinedKeycap => (0, .joinedKeycapSelector)
      | f => match acrossMark c f with
        | some g => (0, g)
        | none => (0, .pictureSelector)
    else if n = 0xFE0E then (0, .textSelector)
    else if isLigatureTransparent c ∧ (acrossMark c next).isSome then
      (0, (acrossMark c next).getD .plain)
    else
      match next with
      | .textSelector => if hasTextForm c then (1, .plain) else widthPlain c
      | .alef =>
        if inRanges n lamRanges then (0, .plain)
        else if n ≠ 0x200C ∧ inRanges n zeroColumnRanges then (0, .alef) else widthPlain c
      | .joinedLamed => if n = 0x05D0 then (0, .plain) else widthPlain c
      | .khmerLetter => if n = 0x17D2 then (-1, .plain) else widthPlain c
      | .joinedYa => if n = 0x1A17 then (0, .vowelYa) else widthPlain c
      | .vowelYa => if n = 0x1A15 then (0, .plain) else widthPlain c
      | .tifinagh => if n = 0x2D7F then (1, .tifinaghJoiner) else widthPlain c
      | .joinedTifinagh =>
        if n = 0x2D7F then (1, .tifinaghJoiner)
        else if isTifinaghConsonant c then (0, .plain) else widthPlain c
      | .tifinaghJoiner => if isTifinaghConsonant c then (-1, .plain) else widthPlain c
      | .lisuTone => if 0xA4F8 ≤ n ∧ n ≤ 0xA4FB then (0, .plain) else widthPlain c
      | .joinedOrkhonI => if n = 0x10C32 then (0, .plain) else widthPlain c
      | .skinTone =>
        if n = 0x200D then (0, .joined)
        else if inRanges n skinToneBaseRanges then (0, .picture) else widthPlain c
      | .picture | .regionals | .joinedRegionalPair | .joinedRegionalOdd =>
        if n = 0x200D then (0, .joined)
        else if isRegional c then
          match next with
          | .regionals => (1, .regionals)
          | .joinedRegionalPair => (3, .joinedRegionalOdd)
          | .joinedRegionalOdd => (-1, .joinedRegionalPair)
          | _ => widthPlain c
        else widthPlain c
      | .regional => if isRegional c then (1, .regionals) else widthPlain c
      | .joinedRegional => if isRegional c then (-1, .joinedRegionalPair) else widthPlain c
      | .joined =>
        if isPicture c then (0, .picture)
        else if isSkinTone c then (0, .skinTone)
        else if isRegional c then (1, .joinedRegional)
        else if n = 0x20E3 then (0, .joinedKeycap)
        else widthPlain c
      | _ => widthPlain c
where
  widthPlain (c : Char) : Int × Follower :=
    if c.toNat = 0x0A then (1, .lineFeed) else if isControl c then (1, .plain) else standalone c

/-- Columns of a text. -/
def charsWidth (cs : List Char) : Nat :=
  (cs.foldr (fun c acc => let step := widthStep c acc.2; (acc.1 + step.1, step.2))
    ((0, .plain) : Int × Follower)).1.toNat

/-- Columns of a text. -/
def textWidth (s : String) : Nat := charsWidth s.toList

end PropertySheet.Text
