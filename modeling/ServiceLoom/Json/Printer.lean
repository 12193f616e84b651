import ServiceLoom.Json.Basic
import ServiceLoom.Text.Literal

/-!
# Writing documents

The compact form has no blanks; the indented form puts every item and member on
a line of its own, two blanks deeper than what encloses it. Members are written
in the order in which the object lists them.
-/

namespace ServiceLoom.Json

/-- The four hexadecimal digits of a control character. -/
def controlDigits (c : Char) : List Char :=
  let digits := Text.hexDigits c.toNat
  List.replicate (4 - digits.length) '0' ++ digits

/-- The written form of one character of a text. -/
def escapeChar (c : Char) : List Char :=
  if c = '"' then ['\\', '"']
  else if c = '\\' then ['\\', '\\']
  else if c = '\n' then ['\\', 'n']
  else if c = '\r' then ['\\', 'r']
  else if c = '\t' then ['\\', 't']
  else if c = '\x08' then ['\\', 'b']
  else if c = '\x0c' then ['\\', 'f']
  else if c.toNat < 0x20 then ['\\', 'u'] ++ controlDigits c
  else [c]

/-- A text between quotes. -/
def quote (s : String) : String :=
  String.ofList ('"' :: (s.toList.flatMap escapeChar ++ ['"']))

mutual

/-- The value without any blanks. -/
def compact : Json → String
  | .null => "null"
  | .bool b => if b then "true" else "false"
  | .number n => n.text
  | .string s => quote s
  | .array items => "[" ++ ",".intercalate (compactItems items) ++ "]"
  | .object members =>
      "\x7b" ++ ",".intercalate (compactMembers members) ++ "\x7d"

def compactItems : List Json → List String
  | [] => []
  | x :: rest => x.compact :: compactItems rest

def compactMembers : List (String × Json) → List String
  | [] => []
  | (k, x) :: rest => (quote k ++ ":" ++ x.compact) :: compactMembers rest

end

/-- A line break and the blanks of a depth. -/
def lineBreak (depth : Nat) : String :=
  "\n" ++ String.ofList (List.replicate (2 * depth) ' ')

/-- Parts on lines of their own, between two brackets. -/
def block (opening closing : String) (depth : Nat)
    (parts : List String) : String :=
  if parts.isEmpty then opening ++ closing
  else opening ++ lineBreak (depth + 1) ++
    ("," ++ lineBreak (depth + 1)).intercalate parts ++
    lineBreak depth ++ closing

mutual

/-- The indented form of a value that stands at a depth. -/
def prettyAt (depth : Nat) : Json → String
  | .array items => block "[" "]" depth (prettyItems (depth + 1) items)
  | .object members =>
      block "\x7b" "\x7d" depth (prettyMembers (depth + 1) members)
  | .null => "null"
  | .bool b => if b then "true" else "false"
  | .number n => n.text
  | .string s => quote s

def prettyItems (depth : Nat) : List Json → List String
  | [] => []
  | x :: rest => x.prettyAt depth :: prettyItems depth rest

def prettyMembers (depth : Nat) : List (String × Json) → List String
  | [] => []
  | (k, x) :: rest =>
      (quote k ++ ": " ++ x.prettyAt depth) :: prettyMembers depth rest

end

/-- The indented form. -/
def pretty (j : Json) : String := j.prettyAt 0

end ServiceLoom.Json
