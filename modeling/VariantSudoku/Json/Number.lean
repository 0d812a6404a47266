import VariantSudoku.Json.Lexeme
import VariantSudoku.Text.Integer

set_option autoImplicit false

namespace VariantSudoku.Json

inductive Number where
  | integer (value : Int)
  | real
  deriving DecidableEq, Repr

namespace Number

def wordLimit : Nat := 18446744073709551615

structure Decimal where
  significand : Nat := 0
  exponent : Int := 0
  -- A digit was left out because the significand would not fit.
  full : Bool := false

def Decimal.addWhole (d : Decimal) (c : Char) : Decimal :=
  let significand := d.significand * 10 + (c.toNat - '0'.toNat)
  if d.full || significand > wordLimit then { d with exponent := d.exponent + 1, full := true }
  else { d with significand }

def Decimal.addFraction (d : Decimal) (c : Char) : Decimal :=
  let significand := d.significand * 10 + (c.toNat - '0'.toNat)
  if d.full || significand > wordLimit then { d with full := true }
  else { d with significand, exponent := d.exponent - 1 }

-- The nearest number of 53 significant bits, which halves round to an even one of.
def roundToDouble (n : Nat) : Nat :=
  let unit := Nat.pow 2 (n.log2 + 1 - 53)
  let quotient := n / unit
  let rest := n % unit
  if 2 * rest > unit ∨ (2 * rest = unit ∧ quotient % 2 = 1) then (quotient + 1) * unit
  else quotient * unit

-- From here on a product of two doubles is no double.
def doubleLimit : Nat := Nat.pow 2 1024 - Nat.pow 2 970

def Decimal.isBeyondDoubles (d : Decimal) : Bool :=
  d.significand != 0 &&
    (d.exponent > 308 ||
      (d.exponent ≥ 0 &&
        roundToDouble d.significand * roundToDouble (Nat.pow 10 d.exponent.toNat) ≥ doubleLimit))

def exponentValue : Option (Bool × List Char) → Int
  | none => 0
  | some (negative, digits) =>
      let n := (Text.numeral digits : Int)
      if negative then -n else n

def decimal (n : Reader.Numeral) : Decimal :=
  let whole := n.whole.foldl Decimal.addWhole {}
  let all := n.fraction.foldl Decimal.addFraction { whole with full := false }
  { all with exponent := all.exponent + exponentValue n.exponent }

def integer? (n : Reader.Numeral) : Option Int :=
  if n.fraction.isEmpty && n.exponent.isNone then
    let size := Text.numeral n.whole
    if n.negative then
      if 0 < size ∧ size ≤ 9223372036854775808 then some (-(size : Int)) else none
    else if size ≤ wordLimit then some size else none
  else none

def ofNumeral (n : Reader.Numeral) : Except Fault Number :=
  match integer? n with
  | some value => .ok (.integer value)
  | none => if (decimal n).isBeyondDoubles then .error .malformed else .ok .real

end Number

end VariantSudoku.Json
