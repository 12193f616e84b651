import ServiceLoom.Text.Category

/-!
# String literals of generated code

How a text is written between double quotes. A quote and a backslash are escaped
by a backslash, four controls have letters of their own, and every other
character without a visible shape is written as `\u` with its code point in
braces.
-/

namespace ServiceLoom.Text

/-- A hexadecimal numeral without leading zeros, in lower case. -/
def hexDigits (n : Nat) : List Char := Nat.toDigits 16 n

/-- The value of a hexadecimal digit. -/
def hexDigit? (c : Char) : Option Nat :=
  if '0' ≤ c ∧ c ≤ '9' then some (c.toNat - 0x30)
  else if 'a' ≤ c ∧ c ≤ 'f' then some (c.toNat - 0x57)
  else if 'A' ≤ c ∧ c ≤ 'F' then some (c.toNat - 0x37)
  else none

namespace Literal

/-- The written form of one character. -/
def escapeChar (c : Char) : List Char :=
  match c with
  | '"' => ['\\', '"']
  | '\\' => ['\\', '\\']
  | '\t' => ['\\', 't']
  | '\r' => ['\\', 'r']
  | '\n' => ['\\', 'n']
  | '\x00' => ['\\', '0']
  | c =>
      if isShapeless c then ['\\', 'u',
        '\x7b'] ++ hexDigits c.toNat ++ ['\x7d'] else [c]

/-- The written form of a text, without the quotes. -/
def escape (cs : List Char) : List Char := cs.flatMap escapeChar

/-- The text as a literal, quotes included. -/
def encode (s : String) : String :=
  String.ofList ('"' :: (escape s.toList ++ ['"']))

end Literal

end ServiceLoom.Text
