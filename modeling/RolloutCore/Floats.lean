import Mathlib.Data.Int.Log
import RolloutCore.Json

/-!
# Floats

The IEEE comparisons and the arithmetic the replay validator does on logprobs. A finite float is a
rational and arithmetic on finite floats is exact, without rounding and without overflow; infinities
and NaN follow the standard. Rounding appears in two places: `float` of an integer, and the `.6g`
format.
-/

namespace RolloutCore

namespace PyFloat

/-- `x < y`; false as soon as one of them is NaN. -/
def lt : PyFloat → PyFloat → Bool
  | .fin p, .fin q => p < q
  | .fin _, .posInf | .negInf, .fin _ | .negInf, .posInf => true
  | _, _ => false

/-- `x <= y`; false as soon as one of them is NaN. -/
def le : PyFloat → PyFloat → Bool
  | .fin p, .fin q => p ≤ q
  | .fin _, .posInf | .negInf, .fin _ | .negInf, .negInf | .negInf, .posInf
  | .posInf, .posInf => true
  | _, _ => false

def add : PyFloat → PyFloat → PyFloat
  | .fin p, .fin q => .fin (p + q)
  | .nan, _ | _, .nan | .posInf, .negInf | .negInf, .posInf => .nan
  | .posInf, _ | _, .posInf => .posInf
  | .negInf, _ | _, .negInf => .negInf

def neg : PyFloat → PyFloat
  | .fin q => .fin (-q)
  | .posInf => .negInf
  | .negInf => .posInf
  | .nan => .nan

/-- `x - y`; the difference of two equal infinities is NaN. -/
def sub (x y : PyFloat) : PyFloat := x.add y.neg

def abs : PyFloat → PyFloat
  | .fin q => .fin |q|
  | .posInf | .negInf => .posInf
  | .nan => .nan

/-- `x / n` for a positive count. -/
def divCount (x : PyFloat) (n : ℕ) : PyFloat :=
  match x with
  | .fin q => .fin (q / n)
  | x => x

/-- `sum(xs)`. -/
def sum (xs : List PyFloat) : PyFloat := xs.foldl add (.fin 0)

/-- `max(xs)`: the first element, given up for every later one that is greater. -/
def maxOf : List PyFloat → Option PyFloat
  | [] => none
  | x :: xs => some (xs.foldl (fun m y => if m.lt y then y else m) x)

/-- `sorted(xs)`. With a NaN among them the order is not the one of Python's merge sort. -/
def sorted (xs : List PyFloat) : List PyFloat := xs.insertionSort fun x y => !y.lt x

theorem le_of_lt_of_le {x y t : PyFloat} (h : x.lt y = true) (h' : y.le t = true) :
    x.le t = true := by
  cases x <;> cases y <;> cases t <;> simp_all [lt, le]
  exact h.le.trans h'

theorem ne_nan_of_lt {x y : PyFloat} (h : x.lt y = true) : y ≠ .nan := by
  rintro rfl
  cases x <;> cases h

/-- What is not above `x` is bounded as `x` is, unless it is NaN. -/
theorem nan_or_le_of_not_lt {x y t : PyFloat} (h : ¬ x.lt y = true) (h' : x.le t = true) :
    y = .nan ∨ y.le t = true := by
  cases x <;> cases y <;> cases t <;> simp_all [lt, le]
  exact h.trans h'

/-- Giving up `m` for a greater `y` keeps a bound exactly if `y` has it too, or is NaN. -/
theorem max_le_iff {m y t : PyFloat} :
    (if m.lt y then y else m).le t = true ↔ m.le t = true ∧ (y = .nan ∨ y.le t = true) := by
  split_ifs with h
  · exact ⟨fun hy => ⟨le_of_lt_of_le h hy, .inr hy⟩, fun hy => hy.2.resolve_left (ne_nan_of_lt h)⟩
  · exact ⟨fun hm => ⟨hm, nan_or_le_of_not_lt h hm⟩, And.left⟩

/-- The maximum is bounded exactly if the first element is and every later one that is no NaN is. -/
theorem maxOf_le_iff {x t : PyFloat} {xs : List PyFloat} :
    (∃ m, maxOf (x :: xs) = some m ∧ m.le t = true) ↔
      x.le t = true ∧ ∀ y ∈ xs, y = .nan ∨ y.le t = true := by
  simp only [maxOf, Option.some.injEq, exists_eq_left']
  induction xs generalizing x with
  | nil => simp
  | cons y xs ih => rw [List.foldl_cons, ih, max_le_iff, List.forall_mem_cons, and_assoc]

/-! ## Conversion and format -/

/-- The integer nearest to `n / 2 ^ k`, the even one of two. -/
def shiftHalfEven (n k : ℕ) : ℕ :=
  let m := n / 2 ^ k
  let r := 2 * (n % 2 ^ k)
  if r < 2 ^ k then m
  else if 2 ^ k < r then m + 1
  else if m % 2 = 0 then m else m + 1

/-- `float(n)`: 53 significant bits; `none` is the `OverflowError`. -/
def ofInt (n : ℤ) : Option PyFloat :=
  let k := n.natAbs.log2 + 1 - 53
  let m := shiftHalfEven n.natAbs k * 2 ^ k
  if 2 ^ 1024 ≤ m then none else some (.fin (n.sign * m))

/-- The integer has at most 53 significant bits and is in range. -/
def Represents (n : ℤ) : Prop := 2 ^ (n.natAbs.log2 + 1 - 53) ∣ n.natAbs ∧ n.natAbs < 2 ^ 1024

theorem shiftHalfEven_mul_eq {n k : ℕ} : shiftHalfEven n k * 2 ^ k = n ↔ 2 ^ k ∣ n := by
  constructor
  · exact fun h => ⟨shiftHalfEven n k, by rw [mul_comm, h]⟩
  · rintro ⟨m, rfl⟩
    simp [shiftHalfEven, Nat.mul_comm]

/-- `float` keeps exactly these integers as they are. -/
theorem ofInt_exact_iff (n : ℤ) : ofInt n = some (.fin n) ↔ Represents n := by
  unfold ofInt Represents
  dsimp only
  rw [← shiftHalfEven_mul_eq]
  generalize hm : shiftHalfEven n.natAbs (n.natAbs.log2 + 1 - 53) *
    2 ^ (n.natAbs.log2 + 1 - 53) = m
  have hsign : ((n.sign * m : ℤ) : ℚ) = n ↔ m = n.natAbs := by
    rw [Int.cast_inj]
    rcases eq_or_ne n 0 with rfl | hn
    · obtain rfl : m = 0 := by rw [← hm]; rfl
      simp
    · nth_rewrite 2 [← Int.sign_mul_natAbs n]
      rw [mul_right_inj' (by simpa using hn), Nat.cast_inj]
  push_cast at hsign
  split_ifs with hbig
  · refine iff_of_false (by simp) ?_
    rintro ⟨rfl, hlt⟩
    omega
  · rw [Option.some.injEq, fin.injEq, hsign]
    exact ⟨fun h => ⟨h, h ▸ not_le.mp hbig⟩, And.left⟩

example : ofInt (2 ^ 53 + 1) = some (.fin (2 ^ 53)) := by decide +kernel

/-- The six digits and the exponent of `q > 0` in scientific notation. -/
def sixDigits (q : ℚ) : ℕ × ℤ :=
  let e := Int.log 10 q
  let m := (roundHalfEven (q / 10 ^ (e - 5))).toNat
  if m = 10 ^ 6 then (10 ^ 5, e + 1) else (m, e)

/-- The digits behind the point, without trailing zeros, and the point if any are left. -/
def fraction (cs : List Char) : String :=
  let kept := (cs.reverse.dropWhile (· = '0')).reverse
  if kept.isEmpty then "" else "." ++ String.ofList kept

/-- `format(q, ".6g")` for `q > 0`. -/
def formatGeneral (q : ℚ) : String :=
  let (m, e) := sixDigits q
  let digits := (toString m).toList
  if -4 ≤ e ∧ e < 0 then
    "0" ++ fraction (List.replicate (-e - 1).toNat '0' ++ digits)
  else if 0 ≤ e ∧ e < 6 then
    String.ofList (digits.take (e.toNat + 1)) ++ fraction (digits.drop (e.toNat + 1))
  else
    let sign := if e < 0 then "-" else "+"
    let pad := if e.natAbs < 10 then "0" else ""
    s!"{String.ofList (digits.take 1)}{fraction (digits.drop 1)}e{sign}{pad}{e.natAbs}"

/-- `format(x, ".6g")`. -/
def format6g : PyFloat → String
  | .fin q => if q = 0 then "0" else if q < 0 then "-" ++ formatGeneral (-q) else formatGeneral q
  | .posInf => "inf"
  | .negInf => "-inf"
  | .nan => "nan"

example : format6g (.fin (1 / 1000)) = "0.001" ∧ format6g (.fin (1 / 30000000)) = "3.33333e-08" := by
  decide +kernel

end PyFloat

end RolloutCore
