/-
Texts inside JSON: the form between double quotes, read and written.
-/
import StyleCompletion.Json.Basic
import StyleCompletion.Text.Bytes

namespace StyleCompletion.Json

/-! ## Writing -/

/-- A digit of base sixteen, in lower case. -/
def hexDigit (n : Nat) : Char := Nat.digitChar n

/-- A character as it is written between quotes. -/
def quoteChar (c : Char) : List Char :=
  if c = '"' then ['\\', '"']
  else if c = '\\' then ['\\', '\\']
  else if c = '\x08' then ['\\', 'b']
  else if c = '\x0c' then ['\\', 'f']
  else if c = '\n' then ['\\', 'n']
  else if c = '\r' then ['\\', 'r']
  else if c = '\t' then ['\\', 't']
  else if c.toNat < 0x20 then
    ['\\', 'u', '0', '0', hexDigit (c.toNat / 16), hexDigit (c.toNat % 16)]
  else [c]

/-- A text between quotes. -/
def quote (cs : List Char) : List Char := '"' :: cs.flatMap quoteChar ++ ['"']

/-! ## Reading -/

/-- The value of a digit of base sixteen. -/
def hexValue? (c : Char) : Option Nat :=
  if c.isDigit then some (c.toNat - '0'.toNat)
  else if 'a' ≤ c ∧ c ≤ 'f' then some (c.toNat - 'a'.toNat + 10)
  else if 'A' ≤ c ∧ c ≤ 'F' then some (c.toNat - 'A'.toNat + 10)
  else none

/-- The 16-bit unit that four digits of base sixteen name. -/
def unit? (a b c d : Char) : Option Nat := do
  return (← hexValue? a) * 4096 + (← hexValue? b) * 256 + (← hexValue? c) * 16 + (← hexValue? d)

/-- The fault of a text in which a unit should follow and does not. -/
def unitFault (rest : List Char) : Fault :=
  if Text.byteLength rest < 4 then .endsEarly else .malformed

/-- The character that a backslash and `c` stand for. -/
def escaped? (c : Char) : Option Char :=
  match c with
  | '"' => some '"'
  | '\\' => some '\\'
  | '/' => some '/'
  | 'b' => some '\x08'
  | 'f' => some '\x0c'
  | 'n' => some '\n'
  | 'r' => some '\r'
  | 't' => some '\t'
  | _ => none

/-- A unit that starts a pair. -/
def isLeading (unit : Nat) : Bool := 0xD800 ≤ unit && unit ≤ 0xDBFF

/-- A unit that ends a pair. -/
def isTrailing (unit : Nat) : Bool := 0xDC00 ≤ unit && unit ≤ 0xDFFF

/-- The character that a pair of units stands for. -/
def pairChar (leading trailing : Nat) : Char :=
  Char.ofNat ((leading - 0xD800) * 0x400 + (trailing - 0xDC00) + 0x10000)

/-- Puts a character before a text that is read. -/
def prepend (c : Char) (read : Except Fault (List Char × List Char)) :
    Except Fault (List Char × List Char) :=
  read.map fun (cs, rest) => (c :: cs, rest)

/-- Reads a text up to its closing quote, and gives what follows it. -/
def readText : List Char → Except Fault (List Char × List Char)
  | [] => .error .endsEarly
  | '"' :: rest => .ok ([], rest)
  | '\\' :: 'u' :: a :: b :: c :: d :: rest =>
      match unit? a b c d with
      | none => .error (unitFault (a :: b :: c :: d :: rest))
      | some unit =>
          if isTrailing unit then .error .malformed
          else if isLeading unit then
            match rest with
            | '\\' :: 'u' :: a :: b :: c :: d :: rest =>
                match unit? a b c d with
                | none => .error (unitFault (a :: b :: c :: d :: rest))
                | some trailing =>
                    if isTrailing trailing then prepend (pairChar unit trailing) (readText rest)
                    else .error .malformed
            | '\\' :: 'u' :: rest => .error (unitFault rest)
            | [] | ['\\'] => .error .endsEarly
            | _ => .error .malformed
          else prepend (Char.ofNat unit) (readText rest)
  | '\\' :: 'u' :: rest => .error (unitFault rest)
  | ['\\'] => .error .endsEarly
  | '\\' :: c :: rest =>
      match escaped? c with
      | some c => prepend c (readText rest)
      | none => .error .malformed
  | c :: rest =>
      if c.toNat < 0x20 then .error .malformed
      else prepend c (readText rest)

end StyleCompletion.Json
