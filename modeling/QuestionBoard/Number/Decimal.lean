import QuestionBoard.Number.Binary64

/-!
Decimal text of binary64 numbers. `Binary64.shortest` finds the fewest decimal digits that read back
as the number, the nearest of those; `Binary64.display` writes them, positionally for exponents from
-4 to 15 and with an exponent of at least two digits beyond. `Binary64.fixed` and
`Binary64.scientific` write a set number of digits, rounded from the exact value.
-/

namespace QuestionBoard

def decimalDigits (n : Nat) : String := String.ofList (Nat.toDigits 10 n)

def decimalText (n : Int) : String :=
  if n < 0 then "-" ++ decimalDigits n.natAbs else decimalDigits n.natAbs

/-- The text with zeros before it up to a width. -/
def zeroPadded (width : Nat) (text : String) : String :=
  String.ofList (List.replicate (width - text.length) '0') ++ text

/-- The largest `k` with `10 ^ k ≤ n / d`, for positive `n` and `d`. -/
def floorLog10 (n d : Nat) : Int :=
  let k : Int := ((Nat.toDigits 10 n).length : Int) - (Nat.toDigits 10 d).length
  let reached := if 0 ≤ k then decide (d * Nat.pow 10 k.toNat ≤ n) else decide (d ≤ n * Nat.pow 10 (-k).toNat)
  if reached then k else k - 1

/-- The fraction `n / d` over `10 ^ e`, as a fraction of whole numbers. -/
def decimalScaled (n d : Nat) (e : Int) : Nat × Nat :=
  if 0 ≤ e then (n, d * Nat.pow 10 e.toNat) else (n * Nat.pow 10 (-e).toNat, d)

namespace Binary64

/-- Decimal digits and the power of ten that they are multiplied by. -/
structure Digits where
  digits : Nat
  exponent : Int
  deriving DecidableEq, Repr

/-- Whether the digits read back as the positive number `x`. -/
def Digits.readsAs (c : Digits) (x : Binary64) : Bool := ofDecimal false c.digits c.exponent == x

/-- The neighbours of `n / d` with `count` digits that read back as `x`, the nearer first. -/
def candidate? (x : Binary64) (n d : Nat) (count : Nat) : Option Digits :=
  let e := floorLog10 n d - count + 1
  let (n', d') := decimalScaled n d e
  let below : Digits := ⟨n' / d', e⟩
  let above : Digits := ⟨n' / d' + 1, e⟩
  let nearest : Digits := ⟨roundHalfEven n' d', e⟩
  if nearest.readsAs x then some nearest
  else if below.readsAs x then some below
  else if above.readsAs x then some above
  else none

/-- The digits without zeros at their end, `fuel` bounding their number. -/
def Digits.trim : Nat → Digits → Digits
  | 0, c => c
  | fuel + 1, c => if c.digits ≠ 0 ∧ c.digits % 10 = 0 then trim fuel ⟨c.digits / 10, c.exponent + 1⟩ else c

/-- The fewest digits that read back as the positive number `mantissa · 2 ^ exponent`. -/
def shortest (x : Binary64) (mantissa : Nat) (exponent : Int) : Digits :=
  let (n, d) := magnitude mantissa exponent
  let found := (List.range 17).findSome? fun i => candidate? x n d (i + 1)
  -- The exact value needs at most 1074 places, and it reads back whatever the search finds.
  let exact : Digits := ⟨n * (Nat.pow 10 1074 / d), -1074⟩
  (found.getD exact).trim 2000

/-- The form of an exponent: a sign and at least two digits. -/
def exponentText (e : Int) : String :=
  (if e < 0 then "-" else "+") ++ zeroPadded 2 (decimalDigits e.natAbs)

/-- The digits with a point after the first and an exponent. -/
def Digits.scientific (c : Digits) : String :=
  match Nat.toDigits 10 c.digits with
  | [] => ""
  | first :: rest =>
    let e := c.exponent + rest.length
    String.ofList (first :: (if rest.isEmpty then [] else '.' :: rest)) ++ "e" ++ exponentText e

/-- The digits written positionally, with at least one place after the point. -/
def Digits.positional (c : Digits) : String :=
  let ds := Nat.toDigits 10 c.digits
  if 0 ≤ c.exponent then String.ofList (ds ++ List.replicate c.exponent.toNat '0') ++ ".0"
  else
    let places := (-c.exponent).toNat
    let padded := List.replicate (places + 1 - ds.length) '0' ++ ds
    let whole := padded.length - places
    String.ofList (padded.take whole) ++ "." ++ String.ofList (padded.drop whole)

/-- The exponents, of the first digit, between which a number is written positionally. -/
def positionalExponents : Int × Int := (-4, 15)

/-- The shortest text that reads back as the number. -/
def display : Binary64 → String
  | .notANumber => "nan"
  | .infinite negative => if negative then "-inf" else "inf"
  | .finite negative m e h =>
    let sign := if negative then "-" else ""
    if m = 0 then sign ++ "0.0"
    else
      let c := shortest (.finite false m e h) m e
      let first : Int := c.exponent + (Nat.toDigits 10 c.digits).length - 1
      let text := if positionalExponents.1 ≤ first ∧ first ≤ positionalExponents.2
        then c.positional else c.scientific
      sign ++ text

/-! ### A set number of digits -/

/-- Places after the point, for a whole number of units of the last place. -/
def pointed (units places : Nat) : String :=
  if places = 0 then decimalDigits units
  else
    let ds := zeroPadded (places + 1) (decimalDigits units) |>.toList
    String.ofList (ds.take (ds.length - places)) ++ "." ++ String.ofList (ds.drop (ds.length - places))

/-- The number with a set count of places, a tie going to the even last place. -/
def fixed (places : Nat) : Binary64 → String
  | .notANumber => "nan"
  | .infinite negative => if negative then "-inf" else "inf"
  | .finite negative m e _ =>
    let (n, d) := magnitude m e
    (if negative then "-" else "") ++ pointed (roundHalfEven (n * Nat.pow 10 places) d) places

/-- The first `count` significant digits of a number above zero, rounded. -/
def significant (count : Nat) (n d : Nat) : Digits :=
  let e := floorLog10 n d - count + 1
  let (n', d') := decimalScaled n d e
  let r := roundHalfEven n' d'
  if r = Nat.pow 10 count then ⟨Nat.pow 10 (count - 1), e + 1⟩ else ⟨r, e⟩

/-- The number with one digit before the point, `places` after it, and an exponent. -/
def scientific (places : Nat) : Binary64 → String
  | .notANumber => "nan"
  | .infinite negative => if negative then "-inf" else "inf"
  | .finite negative m e _ =>
    let sign := if negative then "-" else ""
    if m = 0 then sign ++ pointed 0 places ++ "e+00"
    else
      let (n, d) := magnitude m e
      let c := significant (places + 1) n d
      sign ++ pointed c.digits places ++ "e" ++ exponentText (c.exponent + places)

/-- The text without zeros, and then without a point, at its end. -/
def withoutTrailingZeros (text : String) : String :=
  if text.contains '.' then
    let ds := text.toList.reverse.dropWhile (· == '0')
    String.ofList (if ds.head? == some '.' then ds.drop 1 else ds).reverse
  else text

/-- The number with at most `count` significant digits, positionally where its exponent allows. -/
def general (count : Nat) : Binary64 → String
  | .notANumber => "nan"
  | .infinite negative => if negative then "-inf" else "inf"
  | x@(.finite negative m e _) =>
    let count := max count 1
    if m = 0 then (if negative then "-0" else "0")
    else
      let (n, d) := magnitude m e
      let c := significant count n d
      let first : Int := c.exponent + count - 1
      if -4 ≤ first ∧ first < count then withoutTrailingZeros (fixed (count - 1 - first).toNat x)
      else
        let sign := if negative then "-" else ""
        sign ++ withoutTrailingZeros (pointed c.digits (count - 1)) ++ "e" ++ exponentText first

end Binary64

end QuestionBoard
