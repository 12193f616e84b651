import ServiceLoom.Text.Case

/-!
# Names for readers

Titles made from identifiers: the parts between underscores, hyphens and blanks,
each with a capital first letter.
-/

namespace ServiceLoom.Names

/-- Whether a character separates the parts of an identifier. -/
def isSeparator (c : Char) : Bool := c == '_' || c == '-' || c == ' '

/-- The parts between separators, empty ones included. -/
def splitParts : List Char → List (List Char)
  | [] => [[]]
  | c :: rest =>
    match splitParts rest with
    | part :: parts =>
        if isSeparator c then [] :: part :: parts else (c :: part) :: parts
    | [] => [[]]

/-- The part with its first character in upper case. -/
def capitalize : List Char → List Char
  | [] => []
  | c :: rest => Text.upperChars c ++ rest

/-- The capitalised parts of an identifier. -/
def titleParts (name : String) : List (List Char) :=
  ((splitParts name.toList).filter (!·.isEmpty)).map capitalize

/-- The parts of an identifier as a title. -/
def humanize (name : String) : String :=
  " ".intercalate ((titleParts name).map String.ofList)

/-- The parts of an identifier in one word. -/
def pascal (name : String) : String :=
  String.ofList ((humanize name).toList.filter (· ≠ ' '))

end ServiceLoom.Names
