import ServiceLoom.Text.Age.Table
import ServiceLoom.Text.Case
import ServiceLoom.Text.Property.Table
import ServiceLoom.Text.Script.Extensions
import ServiceLoom.Text.Script.Table
import ServiceLoom.Pattern.Expr

/-!
# Named character classes

The classes that a pattern names: digits, blanks and word characters, the
classes between `[:` and `:]`, and Unicode properties. Names of properties are
compared without case, blanks, hyphens, underscores and a leading `is`.
-/

namespace ServiceLoom.Pattern

open Text (Category)

def asciiDigits : CharSet := [(0x30, 0x39)]

def asciiWord : CharSet :=
  [(0x30, 0x39), (0x41, 0x5A), (0x5F, 0x5F), (0x61, 0x7A)]

def asciiBlanks : CharSet := [(0x9, 0xD), (0x20, 0x20)]

def blanks : CharSet :=
  [(0x9, 0xD), (0x20, 0x20), (0x85, 0x85), (0xA0, 0xA0), (0x1680, 0x1680),
    (0x2000, 0x200A), (0x2028, 0x2029), (0x202F, 0x202F), (0x205F, 0x205F),
    (0x3000, 0x3000)]

def allChars : CharSet := [(0, CharSet.lastPoint)]

def asciiChars : CharSet := [(0, 0x7F)]

/-- The class named between `[:` and `:]`. -/
def asciiClass? : String → Option CharSet
  | "alnum" => some [(0x30, 0x39), (0x41, 0x5A), (0x61, 0x7A)]
  | "alpha" => some [(0x41, 0x5A), (0x61, 0x7A)]
  | "ascii" => some asciiChars
  | "blank" => some [(0x9, 0x9), (0x20, 0x20)]
  | "cntrl" => some [(0, 0x1F), (0x7F, 0x7F)]
  | "digit" => some asciiDigits
  | "graph" => some [(0x21, 0x7E)]
  | "lower" => some [(0x61, 0x7A)]
  | "print" => some [(0x20, 0x7E)]
  | "punct" => some [(0x21, 0x2F), (0x3A, 0x40), (0x5B, 0x60), (0x7B, 0x7E)]
  | "space" => some asciiBlanks
  | "upper" => some [(0x41, 0x5A)]
  | "word" => some asciiWord
  | "xdigit" => some [(0x30, 0x39), (0x41, 0x46), (0x61, 0x66)]
  | _ => none

/-- A name as it is compared. -/
def looseName (name : String) : String :=
  let cs := (name.toList.map Char.toLower).filter fun c =>
    c != ' ' && c != '_' && c != '-' && c.toNat < 0x80
  match cs with
  | ['i', 's', 'c'] => "isc"
  | 'i' :: 's' :: rest => String.ofList rest
  | _ => String.ofList cs

/-- Groups of categories with their short and long names. -/
def categoryGroups : List (String × String × List Category) :=
  [("l", "letter", Category.letters),
    ("lc", "casedletter", [.upperLetter, .lowerLetter, .titleLetter]),
    ("m", "mark", Category.marks), ("m", "combiningmark", Category.marks),
    ("n", "number", Category.numbers), ("p", "punctuation", Category.punctuation),
    ("p", "punct", Category.punctuation), ("s", "symbol", Category.symbols),
    ("z", "separator", Category.separators), ("c", "other", Category.others),
    ("nd", "digit", [.decimalNumber]), ("cc", "cntrl", [.control])]

/-- The general category, or group of them, with a name. Surrogates are no
characters and have none. -/
def category? (name : String) : Option CharSet :=
  let isNamed (e : Category × String × String) : Bool :=
    e.1 ≠ .surrogate && (looseName e.2.1 = name || looseName e.2.2 = name)
  match Category.names.find? isNamed with
  | some e => some e.1.members
  | none =>
    match categoryGroups.find? fun e => e.1 = name || e.2.1 = name with
    | some e => some (Category.membersOfAny e.2.2)
    | none =>
      if name = "any" then some allChars
      else if name = "ascii" then some asciiChars
      else if name = "assigned" then
        some (CharSet.complement Category.unassigned.members)
      else none

/-- Characters that can start an identifier. -/
def startSet : CharSet :=
  ((Category.membersOfAny (.letterNumber :: Category.letters)).union
    (CharSet.ofLines Text.Property.otherStart)).diff
      (CharSet.ofLines Text.Property.noStart)

/-- Characters that can continue an identifier. -/
def continueSet : CharSet :=
  (startSet.union
    (Category.membersOfAny [.nonspacingMark,
      .spacingMark, .decimalNumber, .connector])).union
    (CharSet.ofLines Text.Property.otherContinue)

/-- Characters that stand for themselves. -/
def baseSet : CharSet :=
  CharSet.complement ((Category.membersOfAny
    (Category.others ++ [.lineSeparator, .paragraphSeparator])).union
      Text.combiningSet)

/-- Whether one of the two names of an entry is a given one. -/
def isNamed (name : String) (e : String × String × List String) : Bool :=
  looseName e.1 = name || looseName e.2.1 = name

/-- The set of a list with long and short names. -/
def listed? (listing : List (String × String × List String)) (name : String) :
    Option CharSet :=
  (listing.find? (isNamed name)).map fun e => CharSet.ofLines e.2.2

/-- The property with a name. -/
def property? (name : String) : Option CharSet :=
  match name with
  | "alphabetic" | "alpha" => some Text.alphabeticSet
  | "uppercase" | "upper" => some Text.uppercaseSet
  | "lowercase" | "lower" => some Text.lowercaseSet
  | "whitespace" | "wspace" | "space" => some blanks
  | "cased" => some Text.casedSet
  | "caseignorable" | "ci" => some Text.caseIgnorableSet
  | "graphemeextend" | "grext" => some Text.combiningSet
  | "graphemebase" | "grbase" => some baseSet
  | "idstart" | "ids" => some startSet
  | "idcontinue" | "idc" => some continueSet
  | "xidstart" | "xids" =>
      some (startSet.diff (CharSet.ofLines Text.Property.unstableStart))
  | "xidcontinue" | "xidc" =>
    some (continueSet.diff (CharSet.ofLines Text.Property.unstableContinue))
  | "asciihexdigit" | "ahex" => some [(0x30, 0x39), (0x41, 0x46), (0x61, 0x66)]
  | "hexdigit" | "hex" =>
    some [(0x30, 0x39), (0x41, 0x46), (0x61, 0x66), (0xFF10, 0xFF19),
      (0xFF21, 0xFF26), (0xFF41, 0xFF46)]
  | "joincontrol" | "joinc" => some [(0x200C, 0x200D)]
  | _ => listed? Text.Property.listing name

/-- The name of a script. Two scripts have a second short name. -/
def scriptName (name : String) : String :=
  if name = "qaac" then "coptic"
  else if name = "qaai" then "inherited"
  else name

/-- The script with a name. -/
def script? (name : String) : Option CharSet :=
  listed? Text.Script.listing (scriptName name)

/-- The characters that belong to the script with a name, be it among others. -/
def scriptMembers? (name : String) : Option CharSet :=
  (Text.Script.listing.find? (isNamed (scriptName name))).map fun e =>
    let members (e : List String × List String) := CharSet.ofLines e.2
    let inScript (other : List String × List String) :=
      (other.1.flatMap (·.splitOn " ")).contains e.2.1
    let own := (CharSet.ofLines e.2.2).diff
      (CharSet.ofRanges (Text.Script.shared.flatMap members))
    own.union
      (CharSet.ofRanges ((Text.Script.shared.filter inScript).flatMap members))

/-- The characters that there are in the version of Unicode with a name. -/
def age? (name : String) : Option CharSet :=
  (Text.Age.listing.findIdx? (isNamed name)).map fun i =>
    CharSet.ofLines ((Text.Age.listing.take (i + 1)).flatMap (·.2.2))

/-- The class of a property name alone. -/
def namedClass? (name : String) : Option CharSet :=
  let name := looseName name
  let byProperty :=
    if name = "cf" ∨ name = "sc" ∨ name = "lc" then none else property? name
  byProperty.orElse fun _ => (category? name).orElse fun _ => script? name

/-- The class of a property name and a value. -/
def valuedClass? (name value : String) : Option CharSet :=
  match looseName name with
  | "generalcategory" | "gc" => category? (looseName value)
  | "script" | "sc" => script? (looseName value)
  | "scriptextensions" | "scx" => scriptMembers? (looseName value)
  | "age" => age? (looseName value)
  | _ => none

/-- The pairs of a character and its fold. -/
def foldPairs : List (Nat × Nat) :=
  Text.Case.foldRuns.flatMap fun r =>
    (List.range ((r.last - r.first) / r.step + 1)).map fun k =>
      (r.first + k * r.step, r.image + k * r.step)

/-- The set with every character that differs from one of its characters in case
alone. -/
def foldCase (s : CharSet) : CharSet :=
  let folds := (foldPairs.filter fun e => s.mem e.1 || s.mem e.2).map (·.2)
  let folded := CharSet.ofRanges (folds.map fun c => (c, c))
  s.union (folded.union
    (CharSet.ofRanges
      ((foldPairs.filter fun e => folded.mem e.2).map fun e => (e.1, e.1))))

/-- The set with the ASCII letters of the other case. -/
def foldAsciiCase (s : CharSet) : CharSet :=
  let letters := (List.range 26).flatMap fun k =>
    [(0x41 + k, 0x61 + k), (0x61 + k, 0x41 + k)]
  s.union (CharSet.ofRanges
    ((letters.filter fun e => s.mem e.1).map fun e => (e.2, e.2)))

end ServiceLoom.Pattern
