/-
JSON numbers: how they are written, and which of them are too large.

A number has to fit a double.  Its digits are collected into a significand of at most
64 bits and a power of ten; the number is too large when their product, each factor
and the product rounded to 53 bits, reaches past the largest double.
-/
import StyleCompletion.Json.Basic

namespace StyleCompletion.Json

/-! ## Digits -/

/-- The value of a decimal digit. -/
def digitValue (c : Char) : Nat := c.toNat - '0'.toNat

/-- The first digits of a number as a whole number, scaled by a power of ten. -/
structure Scaled where
  significand : Nat
  exponent : Int

/-- Largest significand: all of 64 bits. -/
def significandMax : Nat := 0xFFFFFFFFFFFFFFFF

/-- Takes in the digits before the point.  From the first digit on that does not fit,
digits only raise the exponent. -/
def Scaled.addWhole (scaled : Scaled) : List Char → Scaled
  | [] => scaled
  | d :: rest =>
      let next := scaled.significand * 10 + digitValue d
      if significandMax < next then
        { scaled with exponent := scaled.exponent + (rest.length + 1) }
      else Scaled.addWhole { scaled with significand := next } rest

/-- Takes in the digits after the point.  From the first digit on that does not fit,
digits are dropped. -/
def Scaled.addFraction (scaled : Scaled) : List Char → Scaled
  | [] => scaled
  | d :: rest =>
      let next := scaled.significand * 10 + digitValue d
      if significandMax < next then scaled
      else Scaled.addFraction ⟨next, scaled.exponent - 1⟩ rest

/-! ## Range -/

/-- The 53-bit number nearest to `n`, the even one of two. -/
def roundTo53 (n : Nat) : Nat :=
  let excess := n.log2 - 52
  let unit := Nat.pow 2 excess
  let low := n % unit
  let floor := n / unit
  if 2 * low < unit then floor * unit
  else if unit < 2 * low then (floor + 1) * unit
  else if low = 0 || floor % 2 = 0 then floor * unit
  else (floor + 1) * unit

/-- The least number that rounds past the largest double. -/
def doubleLimit : Nat := Nat.pow 2 1024 - Nat.pow 2 970

/-- The number is too large for a double. -/
def Scaled.isTooLarge (scaled : Scaled) : Bool :=
  match scaled.exponent with
  | .negSucc _ => false
  | .ofNat e =>
      if scaled.significand = 0 then false
      else if 308 < e then true
      else doubleLimit ≤ roundTo53 scaled.significand * roundTo53 (Nat.pow 10 e)

/-! ## Reading -/

/-- At least one digit, and what follows the digits. -/
def readDigits (cs : List Char) : Except Fault (List Char × List Char) :=
  match cs with
  | [] => .error .endsEarly
  | c :: _ =>
      if c.isDigit then .ok (cs.takeWhile Char.isDigit, cs.dropWhile Char.isDigit)
      else .error .malformed

/-- The digits before the point.  A zero stands alone. -/
def readWhole (cs : List Char) : Except Fault (List Char × List Char) := do
  let (digits, rest) ← readDigits cs
  if digits.head? = some '0' ∧ digits.length ≠ 1 then .error .malformed
  else .ok (digits, rest)

/-- The digits after the point, none without a point. -/
def readFraction : List Char → Except Fault (List Char × List Char)
  | '.' :: rest => readDigits rest
  | cs => .ok ([], cs)

/-- The value of decimal digits. -/
def digitsValue (digits : List Char) : Nat :=
  digits.foldl (fun value d => value * 10 + digitValue d) 0

/-- The exponent, zero without one. -/
def readExponent : List Char → Except Fault (Int × List Char)
  | c :: rest =>
      if c = 'e' ∨ c = 'E' then
        match rest with
        | '-' :: rest => do
            let (digits, rest) ← readDigits rest
            return (-(digitsValue digits : Int), rest)
        | '+' :: rest => do
            let (digits, rest) ← readDigits rest
            return ((digitsValue digits : Int), rest)
        | rest => do
            let (digits, rest) ← readDigits rest
            return ((digitsValue digits : Int), rest)
      else .ok (0, c :: rest)
  | [] => .ok (0, [])

/-- Reads a number without its sign, and gives what follows it. -/
def readUnsigned (cs : List Char) : Except Fault (List Char) := do
  let (whole, rest) ← readWhole cs
  let (fraction, rest) ← readFraction rest
  let (exponent, rest) ← readExponent rest
  let scaled := ((Scaled.mk 0 0).addWhole whole).addFraction fraction
  if Scaled.isTooLarge { scaled with exponent := scaled.exponent + exponent } then
    .error .malformed
  else .ok rest

/-- Reads a number as it is written, and gives what follows it. -/
def readNumber (cs : List Char) : Except Fault (List Char × List Char) := do
  let rest ← readUnsigned (match cs with
    | '-' :: unsigned => unsigned
    | unsigned => unsigned)
  return (cs.take (cs.length - rest.length), rest)

end StyleCompletion.Json
