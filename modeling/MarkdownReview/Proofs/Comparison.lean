import Mathlib.Algebra.Order.Ring.Int
import Mathlib.Data.Prod.Lex
/-!
How floats compare. Those that are numbers stand in one line, and one that is no number is neither
above nor below anything.
-/

namespace MarkdownReview.Comparison

open Float.Model (UnpackedFloat)

/-- Where a float stands among the numbers: its kind counts first, then the exponent, and the
mantissa last. -/
def standing : UnpackedFloat → ℤ ×ₗ ℤ ×ₗ ℤ
  | .infinity .negative => toLex (-2, toLex (0, 0))
  | .finite .negative mantissa exponent _ => toLex (-1, toLex (-exponent, -mantissa))
  | .zero _ | .notANumber => toLex (0, toLex (0, 0))
  | .finite .positive mantissa exponent _ => toLex (1, toLex (exponent, mantissa))
  | .infinity .positive => toLex (2, toLex (0, 0))

theorem compare_neg (m n : ℤ) : compare (-m) (-n) = (compare m n).swap := by
  rw [← Std.OrientedOrd.eq_swap]
  rcases lt_trichotomy m n with less | rfl | more
  · rw [compare_gt_iff_gt.mpr less, compare_gt_iff_gt.mpr (neg_lt_neg less)]
  · rw [compare_eq_iff_eq.mpr rfl, compare_eq_iff_eq.mpr rfl]
  · rw [compare_lt_iff_lt.mpr more, compare_lt_iff_lt.mpr (neg_lt_neg more)]

theorem compare_natCast (m n : ℕ) : compare (m : ℤ) n = compare m n := by
  rcases lt_trichotomy m n with less | rfl | more
  · rw [compare_lt_iff_lt.mpr less, compare_lt_iff_lt.mpr (Int.ofNat_lt.mpr less)]
  · rw [compare_eq_iff_eq.mpr rfl, compare_eq_iff_eq.mpr rfl]
  · rw [compare_gt_iff_gt.mpr more, compare_gt_iff_gt.mpr (Int.ofNat_lt.mpr more)]

theorem compare_eq {a b : UnpackedFloat} (first : a.isNaN = false) (second : b.isNaN = false) :
    a.compare b = some (compare (standing a) (standing b)) := by
  cases a with
  | notANumber => cases first
  | infinity s =>
    cases b with
    | notANumber => cases second
    | infinity t => cases s <;> cases t <;> rfl
    | zero t => cases s <;> rfl
    | finite t n f _ => cases s <;> cases t <;> rfl
  | zero s =>
    cases b with
    | notANumber => cases second
    | infinity t => cases t <;> rfl
    | zero t => rfl
    | finite t n f _ => cases t <;> rfl
  | finite s m e _ =>
    cases b with
    | notANumber => cases second
    | infinity t => cases s <;> cases t <;> rfl
    | zero t => cases s <;> rfl
    | finite t n f _ =>
      cases s <;> cases t
      case negative.positive => rfl
      case positive.negative => rfl
      case negative.negative =>
        change some ((compare e f).then (compare m n)).swap =
          some ((compare (-e) (-f)).then (compare (-m : ℤ) (-n)))
        rw [compare_neg, compare_neg, compare_natCast, ← Ordering.swap_then]
      case positive.positive =>
        change some ((compare e f).then (compare m n)) =
          some ((compare e f).then (compare (m : ℤ) n))
        rw [compare_natCast]

theorem compare_of_isNaN {a b : UnpackedFloat} (undefined : a.isNaN = true ∨ b.isNaN = true) :
    a.compare b = none := by
  rcases undefined with first | second
  · cases a with
    | notANumber => rfl
    | _ => cases first
  · cases b with
    | notANumber => cases a <;> rfl
    | _ => cases second

def rank (x : Float) : ℤ ×ₗ ℤ ×ₗ ℤ := standing x.toModel.unpack

variable {x y z : Float}

theorem le_iff_compare :
    x ≤ y ↔ Option.any Ordering.isLE (x.toModel.unpack.compare y.toModel.unpack) = true := by
  change Float.le x y = true ↔ _
  rw [Float.le, decide_eq_true_iff]
  exact Iff.rfl

theorem lt_iff_compare : x < y ↔ x.toModel.unpack.compare y.toModel.unpack = some .lt := by
  change Float.lt x y = true ↔ _
  rw [Float.lt, decide_eq_true_iff]
  exact beq_iff_eq

theorem not_le_of_isNaN (undefined : x.isNaN = true ∨ y.isNaN = true) : ¬x ≤ y := by
  rw [le_iff_compare, compare_of_isNaN undefined]
  exact Bool.false_ne_true

theorem not_lt_of_isNaN (undefined : x.isNaN = true ∨ y.isNaN = true) : ¬x < y := by
  rw [lt_iff_compare, compare_of_isNaN undefined]
  exact (Option.some_ne_none _).symm

theorem le_iff_rank (first : x.isNaN = false) (second : y.isNaN = false) :
    x ≤ y ↔ rank x ≤ rank y := by
  rw [le_iff_compare, compare_eq first second, Option.any_some, Ordering.isLE_iff_ne_gt]
  exact compare_le_iff_le

theorem lt_iff_rank (first : x.isNaN = false) (second : y.isNaN = false) :
    x < y ↔ rank x < rank y := by
  rw [lt_iff_compare, compare_eq first second, Option.some_inj]
  exact compare_lt_iff_lt

theorem isNaN_eq_false_of_le (below : x ≤ y) : x.isNaN = false ∧ y.isNaN = false := by
  by_contra undefined
  rw [not_and_or, Bool.not_eq_false, Bool.not_eq_false] at undefined
  exact not_le_of_isNaN undefined below

theorem le_trans (below : x ≤ y) (further : y ≤ z) : x ≤ z := by
  obtain ⟨first, second⟩ := isNaN_eq_false_of_le below
  have third := (isNaN_eq_false_of_le further).2
  rw [le_iff_rank first second] at below
  rw [le_iff_rank second third] at further
  rw [le_iff_rank first third]
  exact below.trans further

theorem not_le_iff : ¬x ≤ y ↔ y < x ∨ x.isNaN = true ∨ y.isNaN = true := by
  by_cases undefined : x.isNaN = true ∨ y.isNaN = true
  · exact iff_of_true (not_le_of_isNaN undefined) (.inr undefined)
  · obtain ⟨first, second⟩ := not_or.mp undefined
    rw [Bool.not_eq_true] at first second
    rw [le_iff_rank first second, not_le, ← lt_iff_rank second first]
    exact (or_iff_left undefined).symm

theorem not_lt_iff : ¬x < y ↔ y ≤ x ∨ x.isNaN = true ∨ y.isNaN = true := by
  by_cases undefined : x.isNaN = true ∨ y.isNaN = true
  · exact iff_of_true (not_lt_of_isNaN undefined) (.inr undefined)
  · obtain ⟨first, second⟩ := not_or.mp undefined
    rw [Bool.not_eq_true] at first second
    rw [lt_iff_rank first second, not_lt, ← le_iff_rank second first]
    exact (or_iff_left undefined).symm

theorem isNaN_zero : (0 : Float).isNaN = false := by decide

theorem not_le_zero_iff : ¬x ≤ 0 ↔ 0 < x ∨ x.isNaN = true := by
  rw [not_le_iff, isNaN_zero]
  simp only [Bool.false_eq_true, or_false]

theorem not_lt_zero_iff : ¬x < 0 ↔ 0 ≤ x ∨ x.isNaN = true := by
  rw [not_lt_iff, isNaN_zero]
  simp only [Bool.false_eq_true, or_false]

end MarkdownReview.Comparison
