import ServiceLoom.Calendar.Date
import ServiceLoom.Decimal.Reader
import ServiceLoom.Text.Literal
import ServiceLoom.Toml.Basic

/-!
# Reading settings documents

A document is a sequence of lines: blank ones, comments, headers and
assignments. Values may span lines inside brackets and between triple quotes.
Numerals may group their digits by single underscores.
-/

namespace ServiceLoom.Toml

open Decimal (natOfDigits)

/-- The most lists and inline tables that may enclose a value. -/
def nestingLimit : Nat := 79

/-- The blanks within a line. -/
def isSpace (c : Char) : Bool := c == ' ' || c == '\t'

/-- Whether a character may stand in a comment or a text: no control character
but the tabulation. -/
def isTextChar (c : Char) : Bool :=
  c == '\t' || (0x20 ≤ c.toNat && c.toNat ≠ 0x7F)

def skipSpaces (cs : List Char) : List Char := cs.dropWhile isSpace

/-- What follows a line break. -/
def lineBreak? : List Char → Option (List Char)
  | '\n' :: rest => some rest
  | '\r' :: '\n' :: rest => some rest
  | _ => none

/-- Skips blanks and line breaks. -/
def skipLines : List Char → List Char
  | '\r' :: '\n' :: rest => skipLines rest
  | c :: rest => if isSpace c || c == '\n' then skipLines rest else c :: rest
  | [] => []

/-- Skips a comment, if there is one. -/
def skipComment : List Char → List Char
  | '#' :: rest => rest.dropWhile isTextChar
  | cs => cs

/-- What follows the end of a line, which may hold a comment. -/
def lineEnd? (cs : List Char) : Option (List Char) :=
  match skipComment (skipSpaces cs) with
  | [] => some []
  | rest => lineBreak? rest

/-- Skips blanks, line breaks and comments. The first argument bounds the number
of comments. -/
def skipGaps : Nat → List Char → List Char
  | 0, cs => cs
  | fuel + 1, cs =>
    match skipLines cs with
    | '#' :: rest => skipGaps fuel (rest.dropWhile isTextChar)
    | rest => rest

/-- The character with the code point that `count` hexadecimal digits denote. -/
def codePoint? (count : Nat) (cs : List Char) : Option (Char × List Char) := do
  let digits := cs.take count
  let values ← digits.mapM Text.hexDigit?
  let n := values.foldl (fun n d => n * 16 + d) 0
  if digits.length = count ∧ n.isValidChar then
    some (Char.ofNat n, cs.drop count)
  else none

/-- The character of an escape, after its backslash. -/
def escape? : List Char → Option (Char × List Char)
  | 'b' :: rest => some ('\x08', rest)
  | 't' :: rest => some ('\t', rest)
  | 'n' :: rest => some ('\n', rest)
  | 'f' :: rest => some ('\x0c', rest)
  | 'r' :: rest => some ('\r', rest)
  | '"' :: rest => some ('"', rest)
  | '\\' :: rest => some ('\\', rest)
  | 'u' :: rest => codePoint? 4 rest
  | 'U' :: rest => codePoint? 8 rest
  | _ => none

/-- The rest of a text with escapes after its quote; `read` holds what was read
so far, latest first. -/
def quotedFrom? : Nat → List Char → List Char → Option (String × List Char)
  | 0, _, _ => none
  | _ + 1, _, [] => none
  | fuel + 1, read, c :: rest =>
    if c = '"' then some (String.ofList read.reverse, rest)
    else if c = '\\' then
      match escape? rest with
      | some (c, rest) => quotedFrom? fuel (c :: read) rest
      | none => none
    else if isTextChar c then quotedFrom? fuel (c :: read) rest
    else none

def quoted? (cs : List Char) : Option (String × List Char) :=
  quotedFrom? (cs.length + 1) [] cs

/-- The rest of a text without escapes after its apostrophe. -/
def literal? (cs : List Char) : Option (String × List Char) :=
  let isOwn (c : Char) : Bool := isTextChar c && c ≠ '\''
  match cs.dropWhile isOwn with
  | '\'' :: rest => some (String.ofList (cs.takeWhile isOwn), rest)
  | _ => none

/-- What follows a backslash at the end of a line: the first character that is
no blank. -/
def continuation? (cs : List Char) : Option (List Char) :=
  (lineBreak? (skipSpaces cs)).map skipLines

/-- The rest of a text over several lines. Three of its marks in a row end it;
of four or five the first ones belong to the text. Escapes are read if `escapes`
says so. -/
def longFrom? (mark : Char) (escapes : Bool) : Nat →
    List Char → List Char → Option (String × List Char)
  | 0, _, _ => none
  | _ + 1, _, [] => none
  | fuel + 1, read, c :: rest =>
    if c = mark then
      let count := min ((c :: rest).takeWhile (· = mark)).length 5
      let after := (c :: rest).drop count
      if count < 3 then
        longFrom? mark escapes fuel (List.replicate count mark ++ read) after
      else some (String.ofList
        (List.replicate (count - 3) mark ++ read).reverse, after)
    else if c = '\\' ∧ escapes = true then
      match continuation? rest with
      | some rest => longFrom? mark escapes fuel read rest
      | none =>
        match escape? rest with
        | some (c, rest) => longFrom? mark escapes fuel (c :: read) rest
        | none => none
    else
      match lineBreak? (c :: rest) with
      | some rest => longFrom? mark escapes fuel ('\n' :: read) rest
      | none =>
          if isTextChar c then
            longFrom? mark escapes fuel (c :: read) rest
          else none

/-- A text over several lines, after its opening marks. A line break right there
is no part of it. -/
def long? (mark : Char) (escapes : Bool) (cs : List Char) :
    Option (String × List Char) :=
  longFrom? mark escapes (cs.length + 1) [] ((lineBreak? cs).getD cs)

/-- A text of any kind. -/
def text? : List Char → Option (String × List Char)
  | '"' :: '"' :: '"' :: rest => long? '"' true rest
  | '"' :: rest => quoted? rest
  | '\'' :: '\'' :: '\'' :: rest => long? '\'' false rest
  | '\'' :: rest => literal? rest
  | _ => none

/-- Whether a character may stand in a key without quotes. -/
def isBareChar (c : Char) : Bool := c.isAlphanum || c == '_' || c == '-'

/-- One part of a key. -/
def keyPart? : List Char → Option (String × List Char)
  | '"' :: rest => quoted? rest
  | '\'' :: rest => literal? rest
  | cs =>
    let name := cs.takeWhile isBareChar
    if name.isEmpty then none
    else some (String.ofList name, cs.dropWhile isBareChar)

/-- The parts of a key with points between them, and the blanks around them. -/
def keyParts? : Nat → List Char → Option (List String × List Char)
  | 0, _ => none
  | fuel + 1, cs => do
    let (part, rest) ← keyPart? (skipSpaces cs)
    match skipSpaces rest with
    | '.' :: rest =>
      let (parts, rest) ← keyParts? fuel rest
      return (part :: parts, rest)
    | rest => return ([part], rest)

/-- A key. -/
def key? (cs : List Char) : Option (Key × List Char) := do
  let (parts, rest) ← keyParts? (cs.length + 1) cs
  if parts.length ≤ nestingLimit then
    let name ← parts.getLast?
    return (⟨parts.dropLast, name⟩, rest)
  else none

/-- Digits with single underscores between them, which are left out of the
result. -/
def grouped? (isDigit : Char → Bool) : List Char →
    Option (List Char × List Char)
  | [] => none
  | c :: rest =>
    if isDigit c then
      match rest with
      | '_' :: more =>
          (grouped? isDigit more).map fun (ds, rest) => (c :: ds, rest)
      | d :: more =>
        if isDigit d then
          (grouped? isDigit (d :: more)).map fun (ds, rest) => (c :: ds, rest)
        else some ([c], d :: more)
      | [] => some ([c], [])
    else none

/-- The digits of a whole number: a zero, or digits that start with none. -/
def whole? : List Char → Option (List Char × List Char)
  | '0' :: rest => some (['0'], rest)
  | cs => grouped? Char.isDigit cs

/-- The fraction after a point, or none. -/
def fraction? : List Char → Option (List Char × List Char)
  | '.' :: rest => grouped? Char.isDigit rest
  | cs => some ([], cs)

/-- The exponent after its letter, or none. -/
def exponent? : List Char → Option (Option Int × List Char)
  | [] => some (none, [])
  | c :: rest =>
    if c = 'e' ∨ c = 'E' then do
      let (negative, rest) := Decimal.splitSign rest
      let (digits, rest) ← grouped? Char.isDigit rest
      let n : Int := natOfDigits digits
      return (some (if negative then -n else n), rest)
    else some (none, c :: rest)

/-- An integer of 64 bits. -/
def integerOf? (n : Int) : Option Toml :=
  if Word64.least ≤ n ∧ n < Word64.signedBound then some (.integer n) else none

/-- A decimal number, after its sign. A float must not be too large. -/
def decimal? (negative : Bool) (cs : List Char) :
    Option (Toml × List Char) := do
  let (whole, rest) ← whole? cs
  let (fraction, afterFraction) ← fraction? rest
  let (exponent, rest) ← exponent? afterFraction
  if fraction.isEmpty && exponent.isNone then
    let n : Int := natOfDigits whole
    return (← integerOf? (if negative then -n else n), rest)
  else
    let x := Decimal.signed negative
      (Decimal.nearestFloat (natOfDigits (whole ++ fraction))
        (exponent.getD 0 - fraction.length))
    if x == 1 / 0 then none else return (.float x, rest)

/-- A number in a base, after its mark. -/
def inBase? (base : Nat) (cs : List Char) : Option (Toml × List Char) := do
  let isDigit (c : Char) : Bool := (Text.hexDigit? c).any (· < base)
  let (digits, rest) ← grouped? isDigit cs
  let n := digits.foldl (fun n c => n * base + (Text.hexDigit? c).getD 0) 0
  return (← integerOf? n, rest)

/-- A number. -/
def number? (cs : List Char) : Option (Toml × List Char) :=
  match cs with
  | '0' :: 'x' :: rest => inBase? 16 rest
  | '0' :: 'o' :: rest => inBase? 8 rest
  | '0' :: 'b' :: rest => inBase? 2 rest
  | _ =>
    let (negative, rest) := Decimal.splitSign cs
    match rest with
    | 'i' :: 'n' :: 'f' :: rest =>
        some (.float (Decimal.signed negative (1 / 0)), rest)
    | 'n' :: 'a' :: 'n' :: rest => some (.float (0 / 0), rest)
    | rest => decimal? negative rest

/-- A number with exactly `count` digits. -/
def fixedDigits? (count : Nat) (cs : List Char) : Option (Nat × List Char) :=
  let digits := cs.take count
  if digits.length = count && digits.all Char.isDigit then
    some (natOfDigits digits, cs.drop count)
  else none

/-- What follows a day of the calendar. -/
def date? (cs : List Char) : Option (List Char) := do
  let (year, rest) ← fixedDigits? 4 cs
  let '-' :: rest := rest | none
  let (month, rest) ← fixedDigits? 2 rest
  let '-' :: rest := rest | none
  let (day, rest) ← fixedDigits? 2 rest
  let _ ← Calendar.Date.of? year month day
  return rest

/-- What follows hours and minutes. -/
def clock? (cs : List Char) : Option (List Char) := do
  let (hour, rest) ← fixedDigits? 2 cs
  let ':' :: rest := rest | none
  let (minute, rest) ← fixedDigits? 2 rest
  if hour < 24 ∧ minute < 60 then some rest else none

/-- What follows a time of the day. -/
def time? (cs : List Char) : Option (List Char) := do
  let ':' :: rest := ← clock? cs | none
  let (second, rest) ← fixedDigits? 2 rest
  if second ≤ 60 then
    match rest with
    | '.' :: d :: more =>
        return if d.isDigit then more.dropWhile Char.isDigit else rest
    | _ => return rest
  else none

/-- What follows an offset from universal time, or nothing. -/
def offset? : List Char → Option (List Char)
  | [] => some []
  | c :: rest =>
    if c = 'Z' ∨ c = 'z' then some rest
    else if c = '+' ∨ c = '-' then clock? rest
    else some (c :: rest)

/-- What follows a date, a time, or a date with a time. -/
def datetimeEnd? (cs : List Char) : Option (List Char) :=
  match date? cs with
  | none => time? cs
  | some rest =>
    match rest with
    | c :: more =>
      if c = 'T' ∨ c = 't' ∨ c = ' ' then
        match time? more with
        | some rest => offset? rest
        | none => some rest
      else some rest
    | [] => some []

/-- A date, a time, or a date with a time. -/
def datetime? (cs : List Char) : Option (Toml × List Char) :=
  (datetimeEnd? cs).map fun rest =>
    (.datetime (String.ofList (cs.take (cs.length - rest.length))), rest)

/-- A value that encloses no others. -/
def scalar? (cs : List Char) : Option (Toml × List Char) :=
  match cs with
  | '"' :: _ => (text? cs).map fun (s, rest) => (.string s, rest)
  | '\'' :: _ => (text? cs).map fun (s, rest) => (.string s, rest)
  | 't' :: 'r' :: 'u' :: 'e' :: rest => some (.bool true, rest)
  | 'f' :: 'a' :: 'l' :: 's' :: 'e' :: rest => some (.bool false, rest)
  | _ => (datetime? cs).orElse fun _ => number? cs

mutual

/-- A value inside of brackets and braces that leave room for `room` more. -/
def value? : Nat → Nat → List Char → Option (Toml × List Char)
  | 0, _, _ => none
  | fuel + 1, room, cs =>
    match cs with
    | '[' :: rest =>
      match room with
      | 0 => none
      | room + 1 =>
          (items? fuel room [] rest).map fun (xs, rest) => (.array xs, rest)
    | '\x7b' :: rest =>
      match room with
      | 0 => none
      | room + 1 =>
        match skipSpaces rest with
        | '\x7d' :: rest => some (.table .inline [], rest)
        | rest =>
          match assignments? fuel room [] rest with
          | some (pairs, rest) =>
              (ofAssignments? pairs).map fun es => (.table .inline es, rest)
          | none => none
    | _ => scalar? cs

/-- The items of a list up to its bracket; the last one may be followed by a
comma. -/
def items? : Nat → Nat → List Toml → List Char → Option (List Toml × List Char)
  | 0, _, _, _ => none
  | fuel + 1, room, read, cs =>
    match skipGaps (cs.length + 1) cs with
    | ']' :: rest => some (read.reverse, rest)
    | cs =>
      match value? fuel room cs with
      | none => none
      | some (x, rest) =>
        match skipGaps (rest.length + 1) rest with
        | ',' :: rest => items? fuel room (x :: read) rest
        | ']' :: rest => some ((x :: read).reverse, rest)
        | _ => none

/-- The assignments of an inline table up to its brace. -/
def assignments? :
    Nat → Nat → List (Key × Toml) → List Char →
    Option (List (Key × Toml) × List Char)
  | 0, _, _, _ => none
  | fuel + 1, room, read, cs =>
    match key? cs with
    | some (key, '=' :: rest) =>
      match value? fuel room (skipSpaces rest) with
      | none => none
      | some (x, rest) =>
        match skipSpaces rest with
        | ',' :: rest => assignments? fuel room ((key, x) :: read) rest
        | '\x7d' :: rest => some (((key, x) :: read).reverse, rest)
        | _ => none
    | _ => none

end

/-- A header or an assignment at the start of a line. -/
def statement? (cs : List Char) : Option (Statement × List Char) :=
  match cs with
  | '[' :: '[' :: rest => do
    let (key, ']' :: ']' :: rest) ← key? rest | none
    return (.appendTable key, rest)
  | '[' :: rest => do
    let (key, ']' :: rest) ← key? rest | none
    return (.openTable key, rest)
  | _ => do
    let (key, '=' :: rest) ← key? cs | none
    let (x, rest) ← value? (cs.length + 1) nestingLimit (skipSpaces rest)
    return (.assign key x, rest)

/-- The statements of the lines of a document. The first argument bounds the
number of lines. -/
def statements? : Nat → List Char → Option (List Statement)
  | 0, _ => none
  | fuel + 1, cs =>
    match skipLines cs with
    | [] => some []
    | '#' :: rest => (lineEnd? ('#' :: rest)).bind (statements? fuel)
    | cs => do
      let (s, rest) ← statement? cs
      let rest ← lineEnd? rest
      return s :: (← statements? fuel rest)

/-- The text without the mark of its byte order. -/
def withoutOrderMark : List Char → List Char
  | '\uFEFF' :: rest => rest
  | cs => cs

/-- The entries of the document that a text holds. -/
def parse? (text : String) : Option Entries :=
  let cs := withoutOrderMark text.toList
  (statements? (cs.length + 1) cs).bind ofStatements?

end ServiceLoom.Toml
