/-!
Binary64 numbers, held exactly. A finite number is `± mantissa · 2 ^ exponent` in the one form that
the format admits, so two numbers are the same value and sign exactly when they are equal here.
Every operation computes with whole numbers and rounds once, to the nearest number of the format,
a tie going to the even mantissa.
-/

namespace QuestionBoard

namespace Binary64

/-- Whether `mantissa · 2 ^ exponent` is written as the format writes it. -/
def Admissible (mantissa : Nat) (exponent : Int) : Prop :=
  mantissa < Nat.pow 2 53 ∧ -1074 ≤ exponent ∧ exponent ≤ 971 ∧ (Nat.pow 2 52 ≤ mantissa ∨ exponent = -1074)

instance (mantissa : Nat) (exponent : Int) : Decidable (Admissible mantissa exponent) :=
  inferInstanceAs (Decidable (_ ∧ _))

end Binary64

/-- A binary64 number. -/
inductive Binary64
  | finite (negative : Bool) (mantissa : Nat) (exponent : Int)
      (admissible : Binary64.Admissible mantissa exponent)
  | infinite (negative : Bool)
  | notANumber
  deriving DecidableEq

/-- The whole number nearest to `n / d`, a tie going to the even one. -/
def roundHalfEven (n d : Nat) : Nat :=
  let q := n / d
  let r := n % d
  if 2 * r < d then q
  else if d < 2 * r then q + 1
  else if q % 2 = 0 then q else q + 1

namespace Binary64

/-! ### Rounding -/

def zero (negative : Bool) : Binary64 :=
  .finite negative 0 (-1074) (by decide)

instance : Inhabited Binary64 := ⟨zero false⟩

/-- The fraction `n / d` over `2 ^ e`, as a fraction of whole numbers. -/
def scaled (n d : Nat) (e : Int) : Nat × Nat :=
  if 0 ≤ e then (n, d * Nat.pow 2 e.toNat) else (n * Nat.pow 2 (-e).toNat, d)

/-- The largest `k` with `2 ^ k ≤ n / d`, for positive `n` and `d`. -/
def floorLog2 (n d : Nat) : Int :=
  let k : Int := (n.log2 : Int) - d.log2
  let (n', d') := scaled n d k
  if d' ≤ n' then k else k - 1

/-- The number `± mantissa · 2 ^ exponent`, which is infinite once the exponent is past the format's. -/
def pack (negative : Bool) (mantissa : Nat) (exponent : Int) : Binary64 :=
  if h : Admissible mantissa exponent then .finite negative mantissa exponent h
  else if mantissa = 0 then zero negative
  else .infinite negative

def ofRatio (negative : Bool) (n d : Nat) : Binary64 :=
  if n = 0 then zero negative
  else
    let e := max (floorLog2 n d - 52) (-1074)
    let (n', d') := scaled n d e
    let m := roundHalfEven n' d'
    if m = Nat.pow 2 53 then pack negative (Nat.pow 2 52) (e + 1) else pack negative m e

/-- The number nearest to an integer. -/
def ofInt (n : Int) : Binary64 := ofRatio (decide (n < 0)) n.natAbs 1

/-- The number nearest to `± digits · 10 ^ exponent`. -/
def ofDecimal (negative : Bool) (digits : Nat) (exponent : Int) : Binary64 :=
  let size : Int := (Nat.toDigits 10 digits).length + exponent
  if digits = 0 then zero negative
  else if 400 < size then .infinite negative
  else if size < -400 then zero negative
  else if 0 ≤ exponent then ofRatio negative (digits * Nat.pow 10 exponent.toNat) 1
  else ofRatio negative digits (Nat.pow 10 (-exponent).toNat)

/-! ### Parts -/

/-- The absolute value of a finite number as a fraction. -/
def magnitude (mantissa : Nat) (exponent : Int) : Nat × Nat :=
  if 0 ≤ exponent then (mantissa * Nat.pow 2 exponent.toNat, 1) else (mantissa, Nat.pow 2 (-exponent).toNat)

/-- The whole part, the fraction being dropped toward zero. -/
def truncate? : Binary64 → Option Int
  | .finite negative m e _ =>
    let (n, d) := magnitude m e
    some (if negative then -((n / d : Nat) : Int) else (n / d : Nat))
  | _ => none

/-- The largest whole number that is not above the number. -/
def floor? : Binary64 → Option Int
  | .finite negative m e _ =>
    let (n, d) := magnitude m e
    some (if negative then -(((n + d - 1) / d : Nat) : Int) else (n / d : Nat))
  | _ => none

def isWhole : Binary64 → Bool
  | .finite _ m e _ =>
    let (n, d) := magnitude m e
    n % d == 0
  | _ => false

/-- The part after the point, with the sign of the number. -/
def fraction : Binary64 → Binary64
  | .finite negative m e _ =>
    let (n, d) := magnitude m e
    ofRatio negative (n % d) d
  | .infinite negative => zero negative
  | .notANumber => .notANumber

/-- The bits of the interchange format, as a whole number below `2 ^ 64`. -/
def toBits : Binary64 → Nat
  | .finite negative m e _ =>
    (if negative then Nat.pow 2 63 else 0) +
      (if m < Nat.pow 2 52 then m else (e + 1075).toNat * Nat.pow 2 52 + (m - Nat.pow 2 52))
  | .infinite negative => (if negative then Nat.pow 2 63 else 0) + 2047 * Nat.pow 2 52
  | .notANumber => 2047 * Nat.pow 2 52 + Nat.pow 2 51

/-! ### Arithmetic -/

/-- A finite number as a multiple of `2 ^ unit`, for a `unit` not above its exponent. -/
def multipleOf (unit : Int) (negative : Bool) (m : Nat) (e : Int) : Int :=
  let n : Int := m * Nat.pow 2 (e - unit).toNat
  if negative then -n else n

/-- The sum, rounded once. -/
def add : Binary64 → Binary64 → Binary64
  | .notANumber, _ => .notANumber
  | _, .notANumber => .notANumber
  | .infinite s, .infinite t => if s = t then .infinite s else .notANumber
  | .infinite s, _ => .infinite s
  | _, .infinite t => .infinite t
  | .finite s m e _, .finite t n f _ =>
    let unit := min e f
    let total := multipleOf unit s m e + multipleOf unit t n f
    if total = 0 then zero (s && t)
    else
      let (a, b) := magnitude total.natAbs unit
      ofRatio (decide (total < 0)) a b

/-- The number with the other sign. -/
def neg : Binary64 → Binary64
  | .finite s m e h => .finite (!s) m e h
  | .infinite s => .infinite (!s)
  | .notANumber => .notANumber

/-- The difference, rounded once. -/
def sub (x y : Binary64) : Binary64 := x.add y.neg

/-- The product, rounded once. -/
def mul : Binary64 → Binary64 → Binary64
  | .notANumber, _ => .notANumber
  | _, .notANumber => .notANumber
  | .infinite s, .infinite t => .infinite (s != t)
  | .infinite s, .finite t n _ _ => if n = 0 then .notANumber else .infinite (s != t)
  | .finite s m _ _, .infinite t => if m = 0 then .notANumber else .infinite (s != t)
  | .finite s m e _, .finite t n f _ =>
    let (a, b) := magnitude m e
    let (c, d) := magnitude n f
    ofRatio (s != t) (a * c) (b * d)

instance : Add Binary64 := ⟨add⟩
instance : Sub Binary64 := ⟨sub⟩
instance : Mul Binary64 := ⟨mul⟩
instance : Neg Binary64 := ⟨neg⟩

/-! ### Order -/

/-- Whether `x ≤ y` as numbers: both zeros are equal, and nothing compares with what is no number. -/
def le : Binary64 → Binary64 → Bool
  | .notANumber, _ => false
  | _, .notANumber => false
  | .infinite true, _ => true
  | _, .infinite false => true
  | .infinite false, _ => false
  | _, .infinite true => false
  | .finite s m e _, .finite t n f _ =>
    let unit := min e f
    decide (multipleOf unit s m e ≤ multipleOf unit t n f)

instance : LE Binary64 := ⟨fun x y => le x y = true⟩
instance (x y : Binary64) : Decidable (x ≤ y) := inferInstanceAs (Decidable (le x y = true))

def sameValue (x y : Binary64) : Bool := le x y && le y x

/-- Whether the number is above zero. -/
def isPositive (x : Binary64) : Bool := le (zero false) x && !le x (zero false)

end Binary64

end QuestionBoard
