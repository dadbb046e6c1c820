/-!
# Binary floating point in exact arithmetic

A `Binary64` is a double: a sign, a mantissa below 2^53 and a power of two. Every operation works on
the exact rational value and rounds once, to the nearest double and to the even one on a tie, so
nothing depends on a floating-point unit.

`shortest` gives the fewest decimal digits that read back as the same double, and among those the
nearest to it.
-/

namespace PropertySheet.Json

/-- A finite double: `mantissa * 2 ^ exponent`, with the mantissa as large as it can be. -/
structure Binary64 where
  negative : Bool := false
  mantissa : Nat := 0
  exponent : Int := -1074
deriving DecidableEq, Repr, Inhabited

namespace Binary64

/-- A power of a base with an exponent of either sign, as numerator and denominator. -/
def power (base : Nat) (e : Int) : Nat × Nat :=
  if 0 ≤ e then (base.pow e.toNat, 1) else (1, base.pow (-e).toNat)

/-- The largest `k` with `2 ^ k ≤ num / den`, for a positive ratio. -/
def floorLog2 (num den : Nat) : Int :=
  let k : Int := (num.log2 : Int) - den.log2
  let (a, b) := power 2 k
  if den * a ≤ num * b then k else k - 1

/-- A ratio rounded to a whole number, a half to the even neighbour. -/
def roundHalfEven (num den : Nat) : Nat :=
  let q := num / den
  let r := num % den
  if den < 2 * r ∨ (den = 2 * r ∧ q % 2 = 1) then q + 1 else q

/-- The double nearest to a ratio, or nothing when the ratio is beyond the largest one. -/
def ofRatio? (num den : Nat) : Option Binary64 :=
  if num = 0 then some {}
  else
    let e := max (-1074) (floorLog2 num den - 52)
    let (a, b) := power 2 e
    let m := roundHalfEven (num * b) (den * a)
    let (m, e) := if m = Nat.pow 2 53 then (Nat.pow 2 52, e + 1) else (m, e)
    if 971 < e then none else some { mantissa := m, exponent := e }

/-- The value of a double without its sign, as numerator and denominator. -/
def ratio (d : Binary64) : Nat × Nat :=
  let (a, b) := power 2 d.exponent
  (d.mantissa * a, b)

def isZero (d : Binary64) : Bool := d.mantissa = 0

/-- The double nearest to a power of ten, for the powers that doubles can hold. -/
def tenPower (k : Nat) : Binary64 := (ofRatio? (Nat.pow 10 k) 1).getD {}

def mul? (x y : Binary64) : Option Binary64 :=
  let (a, b) := x.ratio
  let (c, d) := y.ratio
  ofRatio? (a * c) (b * d)

def div? (x y : Binary64) : Option Binary64 :=
  let (a, b) := x.ratio
  let (c, d) := y.ratio
  ofRatio? (a * d) (b * c)

/-- A significand scaled by a power of ten in steps that each round: the significand first, then
every product or quotient with a power of ten of at most 308. Beyond three quotients nothing is left
of a 64-bit significand, so the steps are counted down. -/
def scaleTen (steps : Nat) (x : Binary64) (e : Int) : Option Binary64 :=
  if e.natAbs ≤ 308 then
    if 0 ≤ e then x.mul? (tenPower e.natAbs) else x.div? (tenPower e.natAbs)
  else if x.isZero then some x
  else if 0 ≤ e then none
  else
    match steps with
    | 0 => some {}
    | steps + 1 => do scaleTen steps (← x.div? (tenPower 308)) (e + 308)

/-- The double of `significand * 10 ^ e`, or nothing when it is out of range. -/
def ofDecimal? (negative : Bool) (significand : Nat) (e : Int) : Option Binary64 := do
  let x ← scaleTen 4 (← ofRatio? significand 1) e
  return { x with negative }

/-! ## Shortest decimal -/

/-- The largest `k` with `10 ^ k ≤ num / den`, for a positive ratio. -/
def floorLog10 (num den : Nat) : Int :=
  let k := Int.fdiv (floorLog2 num den * 30103) 100000
  let atMost := fun (j : Int) => let (a, b) := power 10 j; decide (den * a ≤ num * b)
  if atMost (k + 1) then k + 1 else if atMost k then k else k - 1

/-- Whether `c * 10 ^ p` reads back as the double `m * 2 ^ e`: it lies between the midpoints to the
two neighbours, which belong to the interval when `m` is even. All sides are counted in quarters of
the last place. -/
def readsBack (m : Nat) (e : Int) (c : Nat) (p : Int) : Bool :=
  let (a, b) := power 10 p
  let (x, y) := power 2 (e - 2)
  let below := if m = Nat.pow 2 52 ∧ -1074 < e then 1 else 2
  let value := c * a * y
  let low := (4 * m - below) * b * x
  let high := (4 * m + 2) * b * x
  if m % 2 = 0 then low ≤ value && value ≤ high else low < value && value < high

/-- The digits on a grid of `count` significant digits that read back, if there are any. -/
def digitsOfCount (m : Nat) (e : Int) (top : Int) (count : Nat) : Option (Nat × Int) :=
  let p := top - count + 1
  let (a, b) := power 10 p
  let (x, y) := power 2 e
  let num := m * x * b
  let den := a * y
  let c := num / den
  let below := readsBack m e c p
  let above := readsBack m e (c + 1) p
  if below && above then
    let twice := 2 * (num % den)
    if twice < den ∨ (twice = den ∧ c % 2 = 0) then some (c, p) else some (c + 1, p)
  else if below then some (c, p)
  else if above then some (c + 1, p)
  else none

/-- Remove the zeros at the end of the digits. -/
def stripZeros (fuel : Nat) (digits : Nat) (p : Int) : Nat × Int :=
  match fuel with
  | 0 => (digits, p)
  | fuel + 1 => if digits % 10 = 0 then stripZeros fuel (digits / 10) (p + 1) else (digits, p)

/-- The fewest digits, and their power of ten, that read back as a double other than zero. Seventeen
digits always do. -/
def shortest (d : Binary64) : Nat × Int :=
  let (num, den) := d.ratio
  let top := floorLog10 num den
  let found := (List.range 17).findSome? fun i => digitsOfCount d.mantissa d.exponent top (i + 1)
  let (digits, p) := found.getD (0, 0)
  stripZeros 17 digits p

end Binary64

end PropertySheet.Json
