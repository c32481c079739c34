/-!
# Numbers of 64 bits in base two

A finite number is a sign, a mantissa and an exponent of two, kept exactly. `ofDecimal` rounds a
decimal to the nearest number, a tie to the even mantissa.
-/

namespace SnapshotViewer

/-- A binary floating point number of 64 bits. A finite one is `± mantissa * 2 ^ exponent`, where
the mantissa has 53 bits unless the exponent is the least one. -/
inductive Binary64 where
  | finite (negative : Bool) (mantissa : Nat) (exponent : Int)
  | infinite (negative : Bool)
  | notANumber
deriving DecidableEq

namespace Binary64

/-- The least exponent of two. -/
def minExponent : Int := -1074

/-- The greatest exponent of two. -/
def maxExponent : Int := 971

/-- A fraction times a power of two, as a fraction. -/
def scale (num den : Nat) (exponent : Int) : Nat × Nat :=
  if 0 ≤ exponent then (num * Nat.pow 2 exponent.toNat, den)
  else (num, den * Nat.pow 2 (-exponent).toNat)

/-- The quotient, rounded to the nearest integer and to the even one on a tie. -/
def roundDiv (num den : Nat) : Nat :=
  let quotient := num / den
  let rest := num % den
  if 2 * rest < den then quotient
  else if den < 2 * rest then quotient + 1
  else quotient + quotient % 2

/-- The exponent of the greatest power of two that is not above a positive fraction. -/
def log2Floor (num den : Nat) : Int :=
  let estimate : Int := (num.log2 : Int) - den.log2
  let (n, d) := scale num den (-estimate)
  if n < d then estimate - 1 else estimate

/-- The nearest number of a fraction. -/
def ofFraction (negative : Bool) (num den : Nat) : Binary64 :=
  if num = 0 then .finite negative 0 minExponent
  else
    let exponent := max (log2Floor num den - 52) minExponent
    let (n, d) := scale num den (-exponent)
    let mantissa := roundDiv n d
    let (mantissa, exponent) :=
      if mantissa = Nat.pow 2 53 then (Nat.pow 2 52, exponent + 1) else (mantissa, exponent)
    if maxExponent < exponent then .infinite negative else .finite negative mantissa exponent

/-- The nearest number of `digits * 10 ^ exponent`. Beyond the range of the format the power of ten
is not worked out: all decimals there are infinite or zero. -/
def ofDecimal (negative : Bool) (digits : Nat) (exponent : Int) : Binary64 :=
  let magnitude : Int := (Nat.toDigits 10 digits).length + exponent
  if digits = 0 then .finite negative 0 minExponent
  else if 400 < magnitude then .infinite negative
  else if magnitude < -400 then .finite negative 0 minExponent
  else if 0 ≤ exponent then ofFraction negative (digits * Nat.pow 10 exponent.toNat) 1
  else ofFraction negative digits (Nat.pow 10 (-exponent).toNat)

/-- The integer part of a finite number: the fraction is cut off. -/
def truncate? : Binary64 → Option Int
  | .finite negative mantissa exponent =>
    let (n, d) := scale mantissa 1 exponent
    some (if negative then -((n / d : Nat) : Int) else (n / d : Nat))
  | _ => none

/-- The integer that a number is, if it is one. -/
def toInt? : Binary64 → Option Int
  | .finite negative mantissa exponent =>
    let (n, d) := scale mantissa 1 exponent
    if n % d = 0 then some (if negative then -((n / d : Nat) : Int) else (n / d : Nat)) else none
  | _ => none

/-- Neither of the two zeros. -/
def isNonzero : Binary64 → Bool
  | .finite _ mantissa _ => mantissa != 0
  | _ => true

/-- Equality of numbers: the two zeros are equal, and what is not a number equals nothing. -/
def same : Binary64 → Binary64 → Bool
  | .finite s m e, .finite s' m' e' => (m == 0 && m' == 0) || (s == s' && m == m' && e == e')
  | .infinite s, .infinite s' => s == s'
  | _, _ => false

theorem eq_zero_of_scale {num den n d : Nat} {exponent : Int}
    (h : scale num den exponent = (n, d)) (hn : n = 0) : num = 0 := by
  unfold scale at h
  split at h
  · cases h
    exact (Nat.mul_eq_zero.1 hn).resolve_right (Nat.ne_of_gt (Nat.two_pow_pos _))
  · cases h
    exact hn

/-- Only a zero is the integer zero. -/
theorem isNonzero_of_toInt? {x : Binary64} (h : x.toInt? = some 0) :
    x.isNonzero = false := by
  cases x with
  | finite negative mantissa exponent =>
    rw [toInt?] at h
    cases hscale : scale mantissa 1 exponent with
    | mk n d =>
      simp only [hscale] at h
      split at h
      · rename_i hmod
        injection h with hvalue
        have hquotient : n / d = 0 := by split at hvalue <;> omega
        have hn : n = 0 := by rw [← Nat.div_add_mod n d, hmod, hquotient]; rfl
        simp [isNonzero, eq_zero_of_scale hscale hn]
      · cases h
  | infinite negative => cases h
  | notANumber => cases h

end Binary64

end SnapshotViewer
