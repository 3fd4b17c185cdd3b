/-
Decimal text of double precision numbers.

`shortest` finds the fewest significant digits that read back as the same double and, among those,
the ones nearest to its exact value.  `Decimal.text` holds the decisions of the written form: where
positional digits give way to an exponent and how the exponent is spelled.
-/

import SumProduct.Number.Double

set_option autoImplicit false

namespace SumProduct.Number

/-- The number `digits * 10 ^ exponent`. -/
structure Decimal where
  digits : Nat
  exponent : Int
  deriving DecidableEq, Repr

def scaleTen (numerator denominator : Nat) (power : Int) : Nat × Nat :=
  if 0 ≤ power then (numerator * tenTo power.toNat, denominator)
  else (numerator, denominator * tenTo (-power).toNat)

/-- Raises `guess` to the number of digits before the decimal point of a ratio. -/
def raiseMagnitude (numerator denominator : Nat) : (steps : Nat) → (guess : Int) → Int
  | 0, guess => guess
  | steps + 1, guess =>
    let scaled := scaleTen numerator denominator (-guess)
    if scaled.2 ≤ scaled.1 then raiseMagnitude numerator denominator steps (guess + 1) else guess

/-- The integer `k` with `10 ^ (k - 1) ≤ numerator / denominator < 10 ^ k`. -/
def magnitude (numerator denominator : Nat) : Int :=
  let bits : Int := (numerator.log2 : Int) - denominator.log2 - 1
  raiseMagnitude numerator denominator 4 ((bits * 30103).fdiv 100000)

/-- The exact value of a finite double as a ratio. -/
def ratioOf (mantissa : Nat) (exponent : Int) : Nat × Nat :=
  if 0 ≤ exponent then (mantissa * twoTo exponent.toNat, 1)
  else (mantissa, twoTo (-exponent).toNat)

def Decimal.bits (value : Decimal) : Nat :=
  let scaled := scaleTen value.digits 1 value.exponent
  nearestBits scaled.1 scaled.2

/-- Of the two neighbours of a ratio on the grid `10 ^ exponent`, the nearer one that reads back as
the double with the given bits; a tie goes to the even neighbour. -/
def neighbour? (numerator denominator bits : Nat) (exponent : Int) : Option Decimal :=
  let scaled := scaleTen numerator denominator (-exponent)
  let below : Decimal := ⟨scaled.1 / scaled.2, exponent⟩
  let above : Decimal := ⟨scaled.1 / scaled.2 + 1, exponent⟩
  let fits (candidate : Decimal) : Bool := candidate.bits == bits
  if fits below && fits above then some ⟨roundQuotient scaled.1 scaled.2, exponent⟩
  else if fits below then some below
  else if fits above then some above
  else none

/-- Tries grids of more and more digits, `count` of them still unused. -/
def searchShortest (numerator denominator bits : Nat) (size : Int) : (count : Nat) → Decimal
  | 0 => ⟨(scaleTen numerator denominator (17 - size)).1 / (scaleTen numerator denominator (17 - size)).2,
      size - 17⟩
  | count + 1 =>
    match neighbour? numerator denominator bits (size - (17 - count : Nat)) with
    | some found => found
    | none => searchShortest numerator denominator bits size count

def Decimal.trim (value : Decimal) : (steps : Nat) → Decimal
  | 0 => value
  | steps + 1 =>
    if value.digits ≠ 0 ∧ value.digits % 10 = 0 then
      Decimal.trim ⟨value.digits / 10, value.exponent + 1⟩ steps
    else value

/-- The fewest digits that read back as the positive double `mantissa * 2 ^ exponent`. -/
def shortest (mantissa : Nat) (exponent : Int) : Decimal :=
  let ratio := ratioOf mantissa exponent
  let bits := nearestBits ratio.1 ratio.2
  (searchShortest ratio.1 ratio.2 bits (magnitude ratio.1 ratio.2) 17).trim 20

/-- A positive double rounded to a number of significant digits, ties to even. -/
def significant (count : Nat) (mantissa : Nat) (exponent : Int) : Decimal :=
  let ratio := ratioOf mantissa exponent
  let size := magnitude ratio.1 ratio.2
  let scaled := scaleTen ratio.1 ratio.2 (count - size)
  ⟨roundQuotient scaled.1 scaled.2, size - count⟩

def roundSignificant (count : Nat) (x : Float) : Float :=
  match decode x with
  | .finite negative mantissa exponent =>
    if mantissa == 0 then x
    else
      let rounded := significant count mantissa exponent
      ofDecimal negative rounded.digits rounded.exponent
  | _ => x

def digitsOf (n : Nat) : List Char := Nat.toDigits 10 n

def padZeros (width : Nat) (digits : List Char) : List Char :=
  List.replicate (width - digits.length) '0' ++ digits

/-- Digits with a decimal point after the first `point` of them, zeros filling either side; a
fraction that would be empty is written as a single zero. -/
def positional (digits : List Char) (point : Int) : List Char :=
  if point ≤ 0 then '0' :: '.' :: List.replicate (-point).toNat '0' ++ digits
  else if digits.length ≤ point.toNat then
    digits ++ List.replicate (point.toNat - digits.length) '0' ++ ['.', '0']
  else digits.take point.toNat ++ '.' :: digits.drop point.toNat

/-- One digit, the others behind a point, and a signed exponent of at least two digits. -/
def scientific (digits : List Char) (point : Int) : List Char :=
  let mantissa := match digits with
    | [] => ['0']
    | [digit] => [digit]
    | digit :: rest => digit :: '.' :: rest
  let power := point - 1
  mantissa ++ 'e' :: (if power < 0 then '-' else '+') :: padZeros 2 (digitsOf power.natAbs)

/-- Positional digits for magnitudes from `10 ^ -4` up to below `10 ^ 16`, an exponent elsewhere. -/
def Decimal.text (value : Decimal) : List Char :=
  let digits := digitsOf value.digits
  let point := value.exponent + digits.length
  if -4 < point ∧ point ≤ 16 then positional digits point else scientific digits point

def text (x : Float) : String :=
  match decode x with
  | .notANumber => "nan"
  | .infinite negative => if negative then "-inf" else "inf"
  | .finite negative mantissa exponent =>
    let sign := if negative then ['-'] else []
    if mantissa == 0 then String.ofList (sign ++ ['0', '.', '0'])
    else String.ofList (sign ++ (shortest mantissa exponent).text)

end SumProduct.Number
