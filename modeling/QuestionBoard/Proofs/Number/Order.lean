import Mathlib.Algebra.Order.Ring.Int
import QuestionBoard.Number.Binary64

/-!
The order of binary64 numbers. Two finite numbers are compared as multiples of a common unit, and any
unit that is small enough will do, so three numbers are compared by one unit.
-/

namespace QuestionBoard

namespace Binary64

theorem multipleOf_eq_mul {u v e : Int} (hu : u ≤ v) (hv : v ≤ e) (s : Bool) (m : Nat) :
    multipleOf u s m e = multipleOf v s m e * 2 ^ (v - u).toNat := by
  have hexponent : (e - u).toNat = (e - v).toNat + (v - u).toNat := by omega
  simp only [multipleOf, hexponent, Nat.pow_eq, pow_add, Nat.cast_mul, Nat.cast_pow, Nat.cast_ofNat]
  cases s
  · simp [mul_assoc]
  · simp [mul_assoc]

/-- Finite numbers are compared by any unit that is not above their exponents. -/
theorem finite_le_finite_iff {s t : Bool} {m n : Nat} {e f : Int} {h : Admissible m e}
    {h' : Admissible n f} {u : Int} (hu : u ≤ e) (hu' : u ≤ f) :
    finite s m e h ≤ finite t n f h' ↔ multipleOf u s m e ≤ multipleOf u t n f := by
  change decide (multipleOf (min e f) s m e ≤ multipleOf (min e f) t n f) = true ↔ _
  have hmin : u ≤ min e f := le_min hu hu'
  rw [decide_eq_true_eq, multipleOf_eq_mul hmin (min_le_left e f),
    multipleOf_eq_mul hmin (min_le_right e f)]
  exact (mul_le_mul_iff_left₀ (pow_pos (by decide) _)).symm

theorem le_trans {x y z : Binary64} (hxy : x ≤ y) (hyz : y ≤ z) : x ≤ z := by
  cases y with
  | notANumber => cases x with
    | infinite s => cases s <;> cases hxy
    | _ => cases hxy
  | infinite t => cases t with
    | true => cases x with
      | infinite s => cases s with
        | true => exact hyz
        | false => cases hxy
      | _ => cases hxy
    | false => cases z with
      | infinite s => cases s with
        | true => cases hyz
        | false => exact hxy
      | _ => cases hyz
  | finite t n f hn => cases x with
    | notANumber => cases hxy
    | infinite s => cases s with
      | true => cases z with
        | notANumber => cases hyz
        | _ => rfl
      | false => cases hxy
    | finite s m e hm => cases z with
      | notANumber => cases hyz
      | infinite s => cases s with
        | true => cases hyz
        | false => rfl
      | finite u k g hk =>
          -- The unit of all three numbers.
          have he : min e (min f g) ≤ e := min_le_left _ _
          have hf : min e (min f g) ≤ f := (min_le_right _ _).trans (min_le_left _ _)
          have hg : min e (min f g) ≤ g := (min_le_right _ _).trans (min_le_right _ _)
          exact (finite_le_finite_iff he hg).mpr
            (((finite_le_finite_iff he hf).mp hxy).trans ((finite_le_finite_iff hf hg).mp hyz))

end Binary64

end QuestionBoard
