import ServiceLoom.Text.Category
import ServiceLoom.Text.Case.Table

/-!
# Upper and lower case of texts

Full Unicode case conversion: a character may become several (`ß` becomes `SS`),
and a capital sigma at the end of a word becomes `ς`.
-/

namespace ServiceLoom.Text

namespace Case

/-- The counterpart of a character in the first run that holds it. -/
def lookup (runs : List Run) (c : Nat) : Option Nat :=
  runs.findSome? (·.mapped? c)

def expand (expansions : List (Nat × List Nat)) (c : Nat) :
    Option (List Char) :=
  (expansions.find? (·.1 == c)).map fun e => e.2.map Char.ofNat

end Case

/-- The upper form of a character. -/
def upperChars (c : Char) : List Char :=
  if c.toNat < 0x80 then [c.toUpper]
  else match Case.expand Case.upperExpansions c.toNat with
    | some cs => cs
    | none => [((Case.lookup Case.upperRuns c.toNat).map Char.ofNat).getD c]

/-- The lower form of a character, taken alone. -/
def lowerChars (c : Char) : List Char :=
  if c.toNat < 0x80 then [c.toLower]
  else match Case.expand Case.lowerExpansions c.toNat with
    | some cs => cs
    | none => [((Case.lookup Case.lowerRuns c.toNat).map Char.ofNat).getD c]

/-- The text in upper case. -/
def upper (s : String) : String := String.ofList (s.toList.flatMap upperChars)

/-- Characters that have a case. -/
def casedSet : CharSet :=
  (Category.membersOfAny [.upperLetter, .lowerLetter, .titleLetter]).union
    Case.otherCased

/-- Characters that the final-sigma rule looks past. -/
def caseIgnorableSet : CharSet :=
  (Category.membersOfAny
    [.nonspacingMark, .enclosingMark, .format, .modifierLetter,
      .modifierSymbol]).union
      Case.otherIgnorable

/-- Whether a character has a case. -/
def isCased (c : Char) : Bool :=
  if c.toNat < 0x80 then c.isAlpha else casedSet.memChar c

/-- Whether the final-sigma rule looks past a character. -/
def isCaseIgnorable (c : Char) : Bool := caseIgnorableSet.memChar c

/-- Whether the first character that the final-sigma rule does not look past is
cased. -/
def meetsCased (cs : List Char) : Bool :=
  match cs.dropWhile isCaseIgnorable with
  | [] => false
  | c :: _ => isCased c

/-- The lower case of a text whose preceding characters, nearest first, are
`before`. -/
def lowerAfter (before : List Char) : List Char → List Char
  | [] => []
  | c :: rest =>
    (if c = 'Σ' then
        if meetsCased before && !meetsCased rest then ['ς'] else ['σ']
      else lowerChars c) ++ lowerAfter (c :: before) rest

/-- The text in lower case. -/
def lower (s : String) : String := String.ofList (lowerAfter [] s.toList)

/-- The text with its ASCII letters in lower case. -/
def lowerAscii (s : String) : String :=
  String.ofList (s.toList.map Char.toLower)

end ServiceLoom.Text
