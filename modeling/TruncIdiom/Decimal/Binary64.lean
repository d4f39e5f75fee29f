/-!
Binary floating-point numbers of 64 bits, as exact values.

A number is kept as its bits. `shape` reads them as a sign, a whole mantissa and a power of two, so
comparisons are made in whole numbers; `ofDecimal` is the number nearest to a decimal one.
-/

namespace TruncIdiom.Decimal

def pow2 (n : Nat) : Nat := Nat.pow 2 n

def pow10 (n : Nat) : Nat := Nat.pow 10 n

/-- A floating-point number, as its bits. -/
structure Binary64 where
  bits : UInt64
  deriving DecidableEq, Repr, Inhabited

/-- What the bits stand for. A finite value is `mantissa * 2 ^ exponent` with its sign. -/
inductive Shape where
  | notANumber
  | infinite (negative : Bool)
  | finite (negative : Bool) (mantissa : Nat) (exponent : Int)
  deriving DecidableEq, Repr

def Binary64.shape (x : Binary64) : Shape :=
  let n := x.bits.toNat
  let negative := n / pow2 63 == 1
  let exponent : Nat := n / pow2 52 % pow2 11
  let fraction := n % pow2 52
  if exponent = 2047 then
    if fraction = 0 then .infinite negative else .notANumber
  else if exponent = 0 then .finite negative fraction (-1074)
  else .finite negative (fraction + pow2 52) (exponent - 1075)

def Binary64.infinity (negative : Bool) : Binary64 :=
  ⟨if negative then 0xFFF0000000000000 else 0x7FF0000000000000⟩

def Binary64.nan : Binary64 := ⟨0x7FF8000000000000⟩

/-- The number nearest to `mantissa * 10 ^ exponent`. Beyond four hundred places on either side
nothing but infinity and zero is left. -/
def Binary64.ofDecimal (negative : Bool) (mantissa : Nat) (exponent : Int) : Binary64 :=
  let sign : UInt64 := if negative then 0x8000000000000000 else 0
  let size := exponent + (Nat.toDigits 10 mantissa).length
  if mantissa = 0 ∨ size < -400 then ⟨sign⟩
  else if size > 400 then .infinity negative
  else ⟨sign ||| (Float.ofScientific mantissa (exponent < 0) exponent.natAbs).toBits⟩

/-- Whether the number is a zero of either sign. -/
def Binary64.isZero (x : Binary64) : Bool :=
  match x.shape with
  | .finite _ 0 _ => true
  | _ => false

def Shape.ofInt (n : Int) : Shape := .finite (decide (n < 0)) n.natAbs 0

/-- A finite value in units of `2 ^ unit`, which must not be larger than its own. -/
def scaledInt (negative : Bool) (mantissa : Nat) (exponent unit : Int) : Int :=
  let size : Int := (mantissa * pow2 (exponent - unit).toNat : Nat)
  if negative then -size else size

/-- Whether one value is below another. What is no number is neither below nor above any. -/
def Shape.below : Shape → Shape → Bool
  | .notANumber, _ => false
  | _, .notANumber => false
  | .infinite negative, .infinite negative' => negative && !negative'
  | .infinite negative, .finite .. => negative
  | .finite .., .infinite negative => !negative
  | .finite negative mantissa exponent, .finite negative' mantissa' exponent' =>
    let unit := min exponent exponent'
    decide (scaledInt negative mantissa exponent unit <
      scaledInt negative' mantissa' exponent' unit)

def Binary64.below (x : Binary64) (n : Int) : Bool := x.shape.below (.ofInt n)

end TruncIdiom.Decimal
