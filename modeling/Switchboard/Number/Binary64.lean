/-!
# Binary floating point numbers of 64 bits

A finite number is `m · 2^q` with `m < 2^53` and `-1074 ≤ q ≤ 971`, together with a sign. Rounding
is to nearest, ties to even, and works on exact ratios of natural numbers; products and quotients
are the rounded exact results.
-/

namespace Switchboard

/-- A finite binary floating point number: `mantissa · 2^(exponent - 1074)` with a sign. -/
structure Binary64 where
  negative : Bool
  mantissa : Nat
  /-- The power of two is this number less 1074. -/
  exponent : Nat
  deriving Repr, DecidableEq, Inhabited

namespace Binary64

/-- Zero, with a sign. -/
def zero (negative : Bool) : Binary64 := ⟨negative, 0, 0⟩

def isZero (x : Binary64) : Bool := x.mantissa == 0

/-- The same number with the other sign. -/
def negate (x : Binary64) : Binary64 := { x with negative := !x.negative }

/-- `num / den` rounded to an integer, ties to even. -/
def roundDiv (num den : Nat) : Nat :=
  let q := num / den
  let r := num % den
  if 2 * r < den then q
  else if 2 * r > den then q + 1
  else if q % 2 = 0 then q else q + 1

/-- The number of binary digits of the ratio's integer part, zero or less for small ratios:
the least `l` with `num < den · 2^l`. -/
def ratioLog (num den : Nat) : Int :=
  let l : Int := (num.log2 : Int) - (den.log2 : Int)
  if 0 ≤ l then
    if num < den * Nat.pow 2 l.toNat then l else l + 1
  else
    if num * Nat.pow 2 (-l).toNat < den then l else l + 1

/-- The least mantissa of a number whose precision is full: `2^52`. -/
def leastNormal : Nat := 0x10000000000000

/-- The number nearest to `num / den`; none when that is beyond the largest finite number. -/
def ofRatio? (negative : Bool) (num den : Nat) : Option Binary64 :=
  if num = 0 then some (zero negative)
  else
    let q : Int := max (ratioLog num den - 53) (-1074)
    let m :=
      if 0 ≤ q then roundDiv num (den * Nat.pow 2 q.toNat)
      else roundDiv (num * Nat.pow 2 (-q).toNat) den
    let (m, q) := if m = 2 * leastNormal then (leastNormal, q + 1) else (m, q)
    if q > 971 then none else some ⟨negative, m, (q + 1074).toNat⟩

/-- The exact absolute value as a ratio. -/
def ratio (x : Binary64) : Nat × Nat :=
  if 1074 ≤ x.exponent then (x.mantissa * Nat.pow 2 (x.exponent - 1074), 1)
  else (x.mantissa, Nat.pow 2 (1074 - x.exponent))

/-- A natural number, rounded. -/
def ofNat? (n : Nat) : Option Binary64 := ofRatio? false n 1

/-- The rounded product. -/
def mul? (x y : Binary64) : Option Binary64 :=
  ofRatio? (x.negative != y.negative) (x.ratio.1 * y.ratio.1) (x.ratio.2 * y.ratio.2)

/-- The rounded quotient; none for a zero divisor. -/
def div? (x y : Binary64) : Option Binary64 :=
  if y.mantissa = 0 then none
  else
    ofRatio? (x.negative != y.negative) (x.ratio.1 * y.ratio.2) (x.ratio.2 * y.ratio.1)

/-- The number nearest to `n · 10^e`. -/
def ofDecimal? (negative : Bool) (n : Nat) (e : Int) : Option Binary64 :=
  if 0 ≤ e then ofRatio? negative (n * Nat.pow 10 e.toNat) 1
  else ofRatio? negative n (Nat.pow 10 (-e).toNat)

end Binary64

end Switchboard
