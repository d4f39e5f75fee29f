import TruncIdiom.Decimal.Binary64

/-!
The shortest decimal text of a floating-point number.

Of the decimal numbers that read back as the given one, `shortest` takes one with the fewest
digits, and of those the nearest. On the grid of decimal numbers with a fixed count of digits only
the two neighbours of the value can be nearest, so it tries those for one digit, two digits and so
on; seventeen always suffice. `Binary64.text` writes the digits in positional notation for values
from 0.0001 up to 10^16 and with an exponent outside.
-/

namespace TruncIdiom.Decimal

/-- A decimal number `digits * 10 ^ exponent`. -/
structure Scaled where
  digits : Nat
  exponent : Int
  deriving DecidableEq, Repr

/-- Whether `a * 10 ^ s ≤ b * 2 ^ q`. -/
def tenthsLe (a : Nat) (s : Int) (b : Nat) (q : Int) : Bool :=
  a * pow10 s.toNat * pow2 (-q).toNat ≤ b * pow2 q.toNat * pow10 (-s).toNat

def tenthsGe (a : Nat) (s : Int) (b : Nat) (q : Int) : Bool :=
  b * pow2 q.toNat * pow10 (-s).toNat ≤ a * pow10 s.toNat * pow2 (-q).toNat

/-- Whether a decimal number reads back as `mantissa * 2 ^ exponent`: it lies between the
midpoints to the two neighbours, on a midpoint only when the mantissa is even. Below a power of two
the neighbours stand at half the distance. -/
def readsBack (mantissa : Nat) (exponent : Int) (c : Scaled) : Bool :=
  let low := if mantissa = pow2 52 ∧ exponent > -1074 then 4 * mantissa - 1 else 4 * mantissa - 2
  let high := 4 * mantissa + 2
  if mantissa % 2 = 0 then
    tenthsGe (4 * c.digits) c.exponent low exponent &&
      tenthsLe (4 * c.digits) c.exponent high exponent
  else
    !tenthsLe (4 * c.digits) c.exponent low exponent &&
      !tenthsGe (4 * c.digits) c.exponent high exponent

/-- The least power of ten above `num / den`, searched upwards from `10 ^ -places`. -/
def leadingPower (num den : Nat) : Nat → Int
  | 0 => if num < den then 0 else (Nat.toDigits 10 (num / den)).length
  | places + 1 =>
    if num * pow10 (places + 1) < den then -(places + 1 : Nat) else leadingPower num den places

/-- The nearest of the two neighbours of `mantissa * 2 ^ exponent` with `count` digits that read
back, if one does. -/
def neighbour? (mantissa : Nat) (exponent power : Int) (count : Nat) : Option Scaled :=
  let scale := power - count
  let num := mantissa * pow2 exponent.toNat * pow10 (-scale).toNat
  let den := pow2 (-exponent).toNat * pow10 scale.toNat
  let below : Scaled := ⟨num / den, scale⟩
  let above : Scaled := ⟨num / den + 1, scale⟩
  match readsBack mantissa exponent below, readsBack mantissa exponent above with
  | true, true =>
    let rest := 2 * (num % den)
    if rest < den ∨ (rest = den ∧ num / den % 2 = 0) then some below else some above
  | true, false => some below
  | false, true => some above
  | false, false => none

def withoutZeros : Nat → Scaled → Scaled
  | 0, c => c
  | fuel + 1, c =>
    if c.digits % 10 = 0 then withoutZeros fuel ⟨c.digits / 10, c.exponent + 1⟩ else c

/-- The shortest decimal number that reads back as `mantissa * 2 ^ exponent`. -/
def shortest (mantissa : Nat) (exponent : Int) : Scaled :=
  let power := leadingPower (mantissa * pow2 exponent.toNat) (pow2 (-exponent).toNat) 400
  let found := (List.range 17).findSome? fun n => neighbour? mantissa exponent power (n + 1)
  withoutZeros 18 (found.getD ⟨mantissa, exponent⟩)

/-- The text of a whole number with a sign and at least two digits, after the mark of an
exponent. -/
def exponentText (e : Int) : String :=
  let digits := Nat.toDigits 10 e.natAbs
  String.ofList ((if e < 0 then '-' else '+') :: List.replicate (2 - digits.length) '0' ++ digits)

/-- The text of a decimal number: positional where the point stands at most three places before
the digits and at most sixteen after their start, with an exponent elsewhere. -/
def Scaled.text (c : Scaled) : String :=
  let digits := Nat.toDigits 10 c.digits
  let point : Int := digits.length + c.exponent
  if -3 ≤ point ∧ point ≤ 16 then
    if point ≤ 0 then
      String.ofList (['0', '.'] ++ List.replicate (-point).toNat '0' ++ digits)
    else if point < digits.length then
      String.ofList (digits.take point.toNat ++ '.' :: digits.drop point.toNat)
    else
      String.ofList (digits ++ List.replicate (point.toNat - digits.length) '0' ++ ['.', '0'])
  else
    let tail := if digits.length = 1 then [] else '.' :: digits.drop 1
    String.ofList (digits.take 1 ++ tail ++ ['e']) ++ exponentText (point - 1)

def Binary64.text (x : Binary64) : String :=
  match x.shape with
  | .notANumber => "nan"
  | .infinite negative => if negative then "-inf" else "inf"
  | .finite negative mantissa exponent =>
    let size := if mantissa = 0 then "0.0" else (shortest mantissa exponent).text
    if negative then "-" ++ size else size

end TruncIdiom.Decimal
