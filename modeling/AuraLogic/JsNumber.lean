import Mathlib.Data.Nat.Digits

/-! JavaScript numbers as ECMA-262 prints them. A finite nonzero number is kept as the
decimal that `Number::toString` prints for it: the shortest digit string `s` and the point
position `n`, its value being `s × 10^(n - k)` for the `k` digits of `s`. `toFixed` rounds the
double itself, the value of that decimal rounded to the nearest double. -/

namespace AuraLogic

/-- A lower-case hex digit, as Go's %x and JSON's \u escapes print them. -/
def hexDigit (n : Nat) : Char := if n < 10 then Char.ofNat (48 + n) else Char.ofNat (87 + n)

/-- The shortest decimal of a finite nonzero number: `digits` ends in no zero, so its
digit count `k` is as small as possible. -/
structure Decimal where
  digits : Nat
  point : Int
  digits_mod : digits % 10 ≠ 0
  deriving DecidableEq, Repr

inductive JsNumber where
  | nan
  | infinity (negative : Bool)
  | zero (negative : Bool)
  | finite (negative : Bool) (d : Decimal)
  deriving DecidableEq, Repr

namespace Decimal

def width (d : Decimal) : Nat := (Nat.toDigits 10 d.digits).length

/-- Steps 6 to 10 of `Number::toString` for the positive number `d`. -/
def print (d : Decimal) : List Char :=
  let s := Nat.toDigits 10 d.digits
  let k : Int := s.length
  let n := d.point
  if k ≤ n ∧ n ≤ 21 then s ++ List.replicate (n - k).toNat '0'
  else if 0 < n ∧ n ≤ 21 then s.take n.toNat ++ '.' :: s.drop n.toNat
  else if -6 < n ∧ n ≤ 0 then '0' :: '.' :: List.replicate (-n).toNat '0' ++ s
  else
    let exponent := (if 0 ≤ n - 1 then '+' else '-') :: Nat.toDigits 10 (n - 1).natAbs
    if s.length = 1 then s ++ 'e' :: exponent
    else s.take 1 ++ '.' :: s.drop 1 ++ 'e' :: exponent

theorem lt_pow_length_toDigitsCore (fuel n : Nat) (enough : n < fuel) :
    n < 10 ^ (Nat.toDigitsCore 10 fuel n []).length := by
  induction fuel generalizing n with
  | zero => omega
  | succ fuel ih =>
    simp only [Nat.toDigitsCore]
    split_ifs with last
    · simp only [List.length_singleton, pow_one]; omega
    · rw [Nat.toDigitsCore_lens_eq, pow_succ]
      have := ih (n / 10) (by omega)
      omega

theorem digits_lt_pow_width (d : Decimal) : d.digits < 10 ^ d.width :=
  lt_pow_length_toDigitsCore _ _ (Nat.lt_succ_self _)

theorem e_mem_print {d : Decimal} (out : d.point ≤ -6 ∨ 22 ≤ d.point) : 'e' ∈ d.print := by
  unfold print
  simp only
  rw [if_neg (by omega), if_neg (by omega), if_neg (by omega)]
  split_ifs <;> simp

/-! ### The double a decimal prints -/

def num (d : Decimal) : Nat := d.digits * 10 ^ (d.point - d.width).toNat

def den (d : Decimal) : Nat := 10 ^ (d.width - d.point).toNat

def bitLength : Nat → Nat → Nat
  | 0, _ => 0
  | fuel + 1, n => if n = 0 then 0 else bitLength fuel (n / 2) + 1

/-- `⌊log₂ (num d / den d)⌋`. -/
def log2 (d : Decimal) : Int :=
  let l : Int := (bitLength d.num d.num : Int) - bitLength d.den d.den
  if d.den * 2 ^ l.toNat ≤ d.num * 2 ^ (-l).toNat then l else l - 1

/-- The exponent of the last place of the double nearest to `d`: 52 places below its leading
bit, and not below that of the subnormals. -/
def ulpExponent (d : Decimal) : Int := max (d.log2 - 52) (-1074)

def divRoundEven (a b : Nat) : Nat :=
  a / b + if b < 2 * (a % b) ∨ (2 * (a % b) = b ∧ a / b % 2 = 1) then 1 else 0

/-- The double `d` prints is `significand d × 2 ^ ulpExponent d`: the value of `d` rounded to
the nearest double, ties to even. -/
def significand (d : Decimal) : Nat :=
  divRoundEven (d.num * 2 ^ (-d.ulpExponent).toNat) (d.den * 2 ^ d.ulpExponent.toNat)

/-- The integer `n` nearest to `x × 10^f` for the double `x` that `d` prints, the larger one on
a tie (step 8 of `toFixed`). -/
def scaled (d : Decimal) (f : Nat) : Nat :=
  let a := d.significand * 10 ^ f * 2 ^ d.ulpExponent.toNat
  let b := 2 ^ (-d.ulpExponent).toNat
  a / b + if b ≤ 2 * (a % b) then 1 else 0

theorem lt_two_pow_bitLength : ∀ (fuel n : Nat), n < 2 ^ fuel → n < 2 ^ bitLength fuel n
  | 0, _, small => small
  | fuel + 1, n, small => by
    unfold bitLength
    split_ifs with zero
    · simp [zero]
    · have := lt_two_pow_bitLength fuel (n / 2) (by rw [pow_succ] at small; omega)
      rw [pow_succ]
      omega

theorem two_pow_bitLength_le : ∀ (fuel n : Nat), 0 < n → 2 ^ bitLength fuel n ≤ 2 * n
  | 0, _, pos => by simp only [bitLength, pow_zero]; omega
  | fuel + 1, n, pos => by
    unfold bitLength
    rw [if_neg (by omega)]
    by_cases one : n = 1
    · subst one; cases fuel <;> simp [bitLength]
    · have := two_pow_bitLength_le fuel (n / 2) (by omega)
      rw [pow_succ]
      omega

theorem divRoundEven_le (a b : Nat) : divRoundEven a b ≤ a / b + 1 := by
  unfold divRoundEven
  split_ifs <;> omega

section Tiny

variable {d : Decimal} {f : Nat}

theorem num_pos (d : Decimal) : 0 < d.num :=
  Nat.mul_pos (Nat.pos_of_ne_zero fun zero => d.digits_mod (by rw [zero])) (by positivity)

theorem num_mul_lt_den (tiny : d.point + f ≤ -1) : d.num * 10 ^ (f + 1) < d.den := by
  have small := d.digits_lt_pow_width
  have exponent : (d.width - d.point).toNat = d.width + (f + 1) +
      ((d.width - d.point).toNat - d.width - (f + 1)) := by omega
  rw [num, den, show (d.point - d.width).toNat = 0 by omega, pow_zero, mul_one, exponent,
    pow_add 10 (d.width + (f + 1)), pow_add 10 d.width]
  calc d.digits * 10 ^ (f + 1) < 10 ^ d.width * 10 ^ (f + 1) :=
        Nat.mul_lt_mul_of_pos_right small (by positivity)
    _ ≤ 10 ^ d.width * 10 ^ (f + 1) * 10 ^ ((d.width - d.point).toNat - d.width - (f + 1)) :=
        Nat.le_mul_of_pos_right _ (by positivity)

theorem pow_lt_bitLength (tiny : d.point + f ≤ -1) :
    bitLength d.num d.num ≤ bitLength d.den d.den ∧
      10 ^ (f + 1) < 2 ^ (bitLength d.den d.den + 1 - bitLength d.num d.num) := by
  have low := two_pow_bitLength_le d.num d.num (num_pos d)
  have high := lt_two_pow_bitLength d.den d.den (Nat.lt_two_pow d.den)
  have small := num_mul_lt_den tiny
  have chain : 2 ^ bitLength d.num d.num * 10 ^ (f + 1) < 2 ^ (bitLength d.den d.den + 1) := by
    calc 2 ^ bitLength d.num d.num * 10 ^ (f + 1) ≤ 2 * d.num * 10 ^ (f + 1) :=
          Nat.mul_le_mul_right _ low
      _ < 2 * d.den := by rw [mul_assoc]; omega
      _ < 2 ^ (bitLength d.den d.den + 1) := by rw [pow_succ]; omega
  have ten : 1 ≤ 10 ^ (f + 1) := Nat.one_le_pow _ _ (by norm_num)
  have order : bitLength d.num d.num < bitLength d.den d.den + 1 :=
    (Nat.pow_lt_pow_iff_right (by norm_num)).1
      (lt_of_le_of_lt (Nat.le_mul_of_pos_right _ ten) chain)
  refine ⟨by omega, Nat.lt_of_mul_lt_mul_left (a := 2 ^ bitLength d.num d.num) ?_⟩
  rwa [← pow_add, Nat.add_sub_cancel' order.le]

/-- Below `10^(-f-1)`, for `f` up to 77 places, the digits at `f` places round to zero. -/
theorem scaled_eq_zero (tiny : d.point + f ≤ -1) (fits : 10 ^ f ≤ 2 ^ 256) : d.scaled f = 0 := by
  obtain ⟨order, bits⟩ := pow_lt_bitLength tiny
  have exponent : d.ulpExponent = -((-d.ulpExponent).toNat : Int) ∧
      (bitLength d.den d.den + 1 - bitLength d.num d.num ≤ (-d.ulpExponent).toNat + 1 ∨
        (-d.ulpExponent).toNat = 1074) := by
    simp only [ulpExponent, log2]
    split_ifs <;> omega
  generalize (-d.ulpExponent).toNat = E at exponent
  have room : 5 * 10 ^ f ≤ 2 * 2 ^ E := by
    rcases exponent.2 with wide | sub
    · calc 5 * 10 ^ f ≤ 10 ^ (f + 1) := by rw [pow_succ]; omega
        _ ≤ 2 ^ (E + 1) := bits.le.trans (Nat.pow_le_pow_right (by norm_num) wide)
        _ = 2 * 2 ^ E := by rw [pow_succ, mul_comm]
    · have four : 2 ^ 2 ≤ 2 ^ (E - 256) := Nat.pow_le_pow_right (by norm_num) (by omega)
      have split : 2 ^ E = 2 ^ (E - 256) * 2 ^ 256 := by
        rw [← pow_add, Nat.sub_add_cancel (by omega : 256 ≤ E)]
      calc 5 * 10 ^ f ≤ 2 * 2 ^ 2 * 2 ^ 256 := by omega
        _ ≤ 2 * 2 ^ (E - 256) * 2 ^ 256 := Nat.mul_le_mul_right _ (Nat.mul_le_mul_left _ four)
        _ = 2 * 2 ^ E := by rw [split, mul_assoc]
  have small := num_mul_lt_den tiny
  have rounded : d.significand * d.den ≤ d.num * 2 ^ E + d.den := by
    have bound : d.significand ≤ d.num * 2 ^ E / d.den + 1 := by
      have := divRoundEven_le (d.num * 2 ^ E) d.den
      simpa only [significand, exponent.1, neg_neg, Int.toNat_natCast, show (-(E : Int)).toNat = 0 by omega,
        pow_zero, mul_one] using this
    calc d.significand * d.den ≤ (d.num * 2 ^ E / d.den + 1) * d.den := Nat.mul_le_mul_right _ bound
      _ ≤ d.num * 2 ^ E + d.den := by
          rw [add_mul, one_mul]; exact Nat.add_le_add_right (Nat.div_mul_le_self _ _) _
  have half : 2 * (d.significand * 10 ^ f) < 2 ^ E := by
    refine Nat.lt_of_mul_lt_mul_right (a := 10 * d.den) ?_
    have sent := Nat.mul_lt_mul_of_pos_left small (show 0 < 2 * 2 ^ E by positivity)
    have rest : 20 * 10 ^ f * d.den ≤ 8 * 2 ^ E * d.den := Nat.mul_le_mul_right _ (by omega)
    calc 2 * (d.significand * 10 ^ f) * (10 * d.den) = 20 * 10 ^ f * (d.significand * d.den) := by ring
      _ ≤ 20 * 10 ^ f * (d.num * 2 ^ E + d.den) := Nat.mul_le_mul_left _ rounded
      _ = 2 * 2 ^ E * (d.num * 10 ^ (f + 1)) + 20 * 10 ^ f * d.den := by ring
      _ < 2 * 2 ^ E * d.den + 8 * 2 ^ E * d.den := Nat.add_lt_add_of_lt_of_le sent rest
      _ = 2 ^ E * (10 * d.den) := by ring
  simp only [scaled, exponent.1, neg_neg, Int.toNat_natCast, show (-(E : Int)).toNat = 0 by omega,
    pow_zero, mul_one]
  rw [Nat.div_eq_of_lt (by omega), Nat.mod_eq_of_lt (by omega), if_neg (by omega)]

end Tiny

end Decimal

/-- The digits of `m` with a point before the last `f` of them, padded with leading zeros
so that one digit stands before the point (steps 9 and 10 of `toFixed`). -/
def fixedDigits (m f : Nat) : List Char :=
  let s := Nat.toDigits 10 m
  if f = 0 then s
  else
    let s := if s.length ≤ f then List.replicate (f + 1 - s.length) '0' ++ s else s
    s.take (s.length - f) ++ '.' :: s.drop (s.length - f)

namespace JsNumber

def one : JsNumber := .finite false ⟨1, 1, by decide⟩

/-- `Number::toString(x)` in radix 10, which is what `String(x)` returns. -/
def toString : JsNumber → String
  | .nan => "NaN"
  | .zero _ => "0"
  | .infinity false => "Infinity"
  | .infinity true => "-Infinity"
  | .finite false d => String.mk d.print
  | .finite true d => String.mk ('-' :: d.print)

/-- `x.toFixed(f)`; a number of at least `10^21` is printed by `toString`. -/
def toFixed (x : JsNumber) (f : Nat) : String :=
  match x with
  | .nan => "NaN"
  | .infinity _ => x.toString
  | .zero _ => String.mk (fixedDigits 0 f)
  | .finite negative d =>
    let m := if 22 ≤ d.point then d.print else fixedDigits (d.scaled f) f
    String.mk (if negative then '-' :: m else m)

end JsNumber

end AuraLogic
