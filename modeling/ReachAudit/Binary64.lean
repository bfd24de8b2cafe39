import ReachAudit.Text.Trim

namespace ReachAudit

/-- A finite binary64 number, `mantissa * 2 ^ exponent` with a sign of its own for zero. The
    mantissa has 53 bits unless the exponent is the least one. -/
structure Binary64 where
  negative : Bool
  mantissa : Nat
  exponent : Int
  deriving DecidableEq, Repr

namespace Binary64

def leastExponent : Int := -1074
def greatestExponent : Int := 971

def fullMantissa : Nat := 0x10000000000000

def power (base : Nat) (e : Int) : Nat := Nat.pow base e.toNat

def zero (negative : Bool) : Binary64 := ⟨negative, 0, leastExponent⟩

def roundDiv (num den : Nat) : Nat :=
  let q := num / den
  let twice := 2 * (num % den)
  if den < twice ∨ (den = twice ∧ q % 2 = 1) then q + 1 else q

def scaled (num den : Nat) (e : Int) : Nat × Nat :=
  (num * power 2 (-e), den * power 2 e)

def ofRatio (negative : Bool) (num den : Nat) : Option Binary64 :=
  let guess : Int := num.log2 - den.log2 - 53
  let (n, d) := scaled num den guess
  let exponent := max leastExponent (if 2 * fullMantissa ≤ n / d then guess + 1 else guess)
  let (n, d) := scaled num den exponent
  let mantissa := roundDiv n d
  let x : Binary64 :=
    if mantissa = 2 * fullMantissa then ⟨negative, fullMantissa, exponent + 1⟩
    else ⟨negative, mantissa, exponent⟩
  if greatestExponent < x.exponent then none else some x

def ratio (x : Binary64) : Nat × Nat := (x.mantissa * power 2 x.exponent, power 2 (-x.exponent))

def ofNat (n : Nat) : Option Binary64 := if n = 0 then some (zero false) else ofRatio false n 1

def mul (x y : Binary64) : Option Binary64 :=
  if x.mantissa = 0 ∨ y.mantissa = 0 then some (zero false)
  else ofRatio false (x.ratio.1 * y.ratio.1) (x.ratio.2 * y.ratio.2)

def div (x y : Binary64) : Option Binary64 :=
  if x.mantissa = 0 ∨ y.mantissa = 0 then some (zero false)
  else ofRatio false (x.ratio.1 * y.ratio.2) (x.ratio.2 * y.ratio.1)

def greatestPower : Nat := 308

def tenTo (k : Nat) : Option Binary64 := ofNat (Nat.pow 10 k)

def scaleDown (x : Binary64) (k : Nat) : Option Binary64 :=
  if k ≤ greatestPower then (tenTo k).bind x.div
  else if x.mantissa = 0 then some x
  else ((tenTo greatestPower).bind x.div).bind fun y => scaleDown y (k - greatestPower)
  termination_by k
  decreasing_by simp only [greatestPower]; omega

def scaleUp (x : Binary64) (k : Nat) : Option Binary64 :=
  if k ≤ greatestPower then (tenTo k).bind x.mul
  else if x.mantissa = 0 then some x
  else none

/-- `digits * 10 ^ scale` in the arithmetic of such numbers: the digits are rounded first, and so is
    each step after that. The nearest number may be missed by a little. -/
def ofDecimal (negative : Bool) (digits : Nat) (scale : Int) : Option Binary64 := do
  let x ← ofNat digits
  let y ← if 0 ≤ scale then x.scaleUp scale.toNat else x.scaleDown (-scale).toNat
  return { y with negative }

structure Decimal where
  digits : Nat
  scale : Int
  deriving DecidableEq, Repr

/-- The interval of numbers that round to `x`, in quarters of its last place: below, itself, above.
    Below a power of two the neighbour is nearer. -/
def quarters (x : Binary64) : Nat × Nat × Nat :=
  let m := x.mantissa
  let below := if m = fullMantissa ∧ x.exponent ≠ leastExponent then 4 * m - 1 else 4 * m - 2
  (below, 4 * m, 4 * m + 2)

def onGrid (x : Binary64) (scale : Int) : Option Nat :=
  let (below, self, above) := x.quarters
  let unit := power 2 (x.exponent - 2) * power 10 (-scale)
  let step := power 2 (2 - x.exponent) * power 10 scale
  let closed := x.mantissa % 2 = 0
  let low := self * unit / step
  let high := low + 1
  let lowFits : Bool := if closed then below * unit ≤ low * step else below * unit < low * step
  let highFits : Bool := if closed then high * step ≤ above * unit else high * step < above * unit
  let lowGap := self * unit - low * step
  let highGap := high * step - self * unit
  match lowFits, highFits with
  | true, true =>
    if lowGap < highGap ∨ (lowGap = highGap ∧ low % 2 = 0) then some low else some high
  | true, false => some low
  | false, true => some high
  | false, false => none

def magnitude (x : Binary64) : Int :=
  let num := x.mantissa * power 2 x.exponent
  let den := power 2 (-x.exponent)
  let k : Int := (Nat.toDigits 10 num).length - (Nat.toDigits 10 den).length
  if num * power 10 (-k) < den * power 10 k then k else k + 1

def shortest (x : Binary64) : Decimal :=
  let k := x.magnitude
  let ofLength (n : Nat) : Option Decimal := (x.onGrid (k - n)).map fun digits => ⟨digits, k - n⟩
  ((List.range' 1 17).findSome? ofLength).getD ⟨x.mantissa, 0⟩

/-- Positional from 1e-5 to below 1e16, with at least one place; else one digit, a point if more
    follow, and a signed exponent. -/
def text (x : Binary64) : List Char :=
  let sign := if x.negative then ['-'] else []
  if x.mantissa = 0 then sign ++ ['0', '.', '0']
  else
    let d := x.shortest
    let all := Nat.toDigits 10 d.digits
    let point : Int := all.length + d.scale
    let kept := Text.trimEnd (· = '0') all
    sign ++
      if -4 ≤ point ∧ point ≤ 0 then
        ['0', '.'] ++ List.replicate (-point).toNat '0' ++ kept
      else if 0 < point ∧ point ≤ 16 then
        let whole := kept.take point.toNat
        let fraction := kept.drop point.toNat
        whole ++ List.replicate (point.toNat - whole.length) '0' ++ ['.'] ++
          if fraction = [] then ['0'] else fraction
      else
        let e := point - 1
        kept.take 1 ++ (if kept.length = 1 then [] else '.' :: kept.drop 1) ++
          ['e', if 0 ≤ e then '+' else '-'] ++ Nat.toDigits 10 e.natAbs

end Binary64

end ReachAudit
