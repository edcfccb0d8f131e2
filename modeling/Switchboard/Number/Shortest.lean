import Switchboard.Number.Binary64

/-!
# The fewest digits that read back

A finite binary number is written with as few decimal digits as still lie nearer to it than to any
other binary number. `shortest` finds them: for one digit, two, and so on up to seventeen it tests
the two neighbours of the number on that decimal grid, and the first grid with a hit wins; of two
hits the nearer one. `FloatText` places the decimal point.
-/

namespace Switchboard.Binary64

/-- Half the distance to the neighbours below and above, and the number itself, all in one unit:
`(below, above, value, unit)` with the value `value / unit`. -/
def neighbourhood (x : Binary64) : Nat × Nat × Nat × Nat :=
  let m := x.mantissa
  let (scale, unit) : Nat × Nat :=
    if 1076 ≤ x.exponent then (Nat.pow 2 (x.exponent - 1076), 1)
    else (1, Nat.pow 2 (1076 - x.exponent))
  let below := if m = leastNormal && 0 < x.exponent then scale else 2 * scale
  (below, 2 * scale, 4 * m * scale, unit)

/-- The decimal exponent of a positive ratio: `10^e ≤ num / den < 10^(e + 1)`. -/
def decimalExponent (num den : Nat) : Int :=
  let guess : Int := ((num.log2 : Int) - (den.log2 : Int)) * 30103 / 100000
  let atLeast (e : Int) : Bool :=
    if 0 ≤ e then den * Nat.pow 10 e.toNat ≤ num else den ≤ num * Nat.pow 10 (-e).toNat
  if atLeast (guess + 1) then guess + 1 else if atLeast guess then guess else guess - 1

/-- The digits of `x` on the grid of `10^step`: the nearer of the two neighbours that read back. -/
def onGrid? (below above value unit : Nat) (even : Bool) (step : Int) : Option Nat :=
  -- everything in the unit `unit · 10^step`, scaled to integers
  let (f, g) : Nat × Nat :=
    if 0 ≤ step then (1, Nat.pow 10 step.toNat) else (Nat.pow 10 (-step).toNat, 1)
  let v := value * f
  let s := unit * g
  let low := v / s
  let fits (n : Nat) : Bool :=
    let p := n * s
    let lo := v - below * f
    let hi := v + above * f
    if even then lo ≤ p && p ≤ hi else lo < p && p < hi
  let d0 := v - low * s
  let d1 := (low + 1) * s - v
  match fits low, fits (low + 1) with
  | true, true => some (if d0 < d1 || (d0 == d1 && low % 2 == 0) then low else low + 1)
  | true, false => some low
  | false, true => some (low + 1)
  | false, false => none

/-- Tries grids with `digits` digits, one more, and so on, `fuel` times. -/
def shortestFrom (below above value unit : Nat) (even : Bool) (e : Int) (digits : Nat) :
    Nat → Nat × Int
  | 0 => (0, 0)
  | fuel + 1 =>
    let step := e - digits + 1
    match onGrid? below above value unit even step with
    | some n => (n, step)
    | none => shortestFrom below above value unit even e (digits + 1) fuel

/-- The digits and the decimal exponent of the shortest decimal of a nonzero number. -/
def shortest (x : Binary64) : Nat × Int :=
  let (below, above, value, unit) := x.neighbourhood
  shortestFrom below above value unit (x.mantissa % 2 == 0) (decimalExponent value unit) 1 17

/-- Removes trailing zeros of a digit string into the exponent. -/
def dropZeros : Nat → Nat × Int → Nat × Int
  | 0, d => d
  | fuel + 1, (n, e) => if n ≠ 0 ∧ n % 10 = 0 then dropZeros fuel (n / 10, e + 1) else (n, e)

/-- Where a float's text changes from positional to exponent notation: positional if the decimal
point stands more than `leastPoint` and at most `mostPoint` places after the first digit. -/
structure FloatText where
  leastPoint : Int
  mostPoint : Int
  /-- The sign written before a positive exponent. -/
  plus : String

/-- Positional from 10⁻⁵ up to below 10¹⁶; beyond that a signed exponent; whole numbers end in
`.0`. -/
def FloatText.standard : FloatText := ⟨-5, 16, "+"⟩

/-- The text of a number. -/
def FloatText.render (style : FloatText) (x : Binary64) : String :=
  let sign := if x.negative then "-" else ""
  if x.isZero then sign ++ "0.0"
  else
    let (n, k) := dropZeros 20 x.shortest
    let ds := Nat.toDigits 10 n
    let length : Int := ds.length
    let point := length + k
    let body : List Char :=
      if 0 ≤ k ∧ point ≤ style.mostPoint then ds ++ List.replicate k.toNat '0' ++ ['.', '0']
      else if 0 < point ∧ point ≤ style.mostPoint then
        ds.take point.toNat ++ ['.'] ++ ds.drop point.toNat
      else if style.leastPoint < point ∧ point ≤ 0 then
        ['0', '.'] ++ List.replicate (-point).toNat '0' ++ ds
      else
        let e := point - 1
        let mantissa :=
          match ds with
          | [d] => [d]
          | d :: rest => d :: '.' :: rest
          | [] => []
        mantissa ++ ['e'] ++ (if e < 0 then [] else style.plus.toList) ++ (toString e).toList
    sign ++ String.ofList body

end Switchboard.Binary64
