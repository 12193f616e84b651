import ServiceLoom.Text.CharSet
import ServiceLoom.Text.Category.Table

/-!
# Unicode general categories

Which category a character belongs to, and the classes built from categories:
letters, digits, word characters, and the characters that have no shape of their
own.
-/

namespace ServiceLoom.Text

/-- The general category of a character. -/
inductive Category where
  | upperLetter | lowerLetter | titleLetter | modifierLetter | otherLetter
  | nonspacingMark | spacingMark | enclosingMark
  | decimalNumber | letterNumber | otherNumber
  | connector | dash | openPunctuation | closePunctuation | initialQuote
  | finalQuote
  | otherPunctuation
  | mathSymbol | currencySymbol | modifierSymbol | otherSymbol
  | spaceSeparator | lineSeparator | paragraphSeparator
  | control | format | surrogate | privateUse | unassigned
deriving DecidableEq, Repr

namespace Category

/-- The two-letter code and the long name of every category. -/
def names : List (Category × String × String) :=
  [(upperLetter, "Lu", "Uppercase_Letter"), (lowerLetter,
    "Ll", "Lowercase_Letter"), (titleLetter, "Lt", "Titlecase_Letter"),
    (modifierLetter, "Lm", "Modifier_Letter"), (otherLetter,
    "Lo", "Other_Letter"), (nonspacingMark, "Mn", "Nonspacing_Mark"),
    (spacingMark, "Mc", "Spacing_Mark"), (enclosingMark, "Me", "Enclosing_Mark"),
    (decimalNumber, "Nd", "Decimal_Number"),
    (letterNumber, "Nl", "Letter_Number"), (otherNumber, "No", "Other_Number"),
    (connector, "Pc", "Connector_Punctuation"), (dash, "Pd", "Dash_Punctuation"),
    (openPunctuation, "Ps", "Open_Punctuation"),
    (closePunctuation, "Pe", "Close_Punctuation"),
    (initialQuote, "Pi", "Initial_Punctuation"), (finalQuote, "Pf",
    "Final_Punctuation"), (otherPunctuation, "Po", "Other_Punctuation"),
    (mathSymbol, "Sm", "Math_Symbol"), (currencySymbol, "Sc", "Currency_Symbol"),
    (modifierSymbol, "Sk", "Modifier_Symbol"), (otherSymbol, "So",
    "Other_Symbol"), (spaceSeparator, "Zs", "Space_Separator"), (lineSeparator,
    "Zl", "Line_Separator"), (paragraphSeparator, "Zp", "Paragraph_Separator"),
    (control, "Cc", "Control"), (format, "Cf", "Format"),
    (surrogate, "Cs", "Surrogate"), (privateUse, "Co", "Private_Use"),
    (unassigned, "Cn", "Unassigned")]

/-- The category with a given code. -/
def ofCode (code : String) : Category :=
  ((names.find? fun e => e.2.1 = code).map (·.1)).getD .unassigned

/-- The assigned ranges with their categories, in ascending order. -/
def assigned : List ((Nat × Nat) × Category) :=
  (listing.flatMap (·.splitOn " ")).map fun entry =>
    match entry.splitOn ":" with
    | [range, code] => (CharSet.rangeOfText range, ofCode code)
    | _ => ((0, 0), .control)

/-- The category of a code point. -/
def ofPoint (c : Nat) : Category :=
  ((assigned.find? fun e => e.1.1 ≤ c && c ≤ e.1.2).map (·.2)).getD .unassigned

/-- The characters of an assigned category. -/
def members (k : Category) : CharSet :=
  if k = .unassigned then
    CharSet.complement (CharSet.ofRanges (assigned.map (·.1)))
  else CharSet.ofRanges ((assigned.filter (·.2 = k)).map (·.1))

/-- The characters of any of the categories. -/
def membersOfAny (ks : List Category) : CharSet :=
  ks.foldl (fun s k => s.union k.members) []

def letters : List Category :=
  [upperLetter, lowerLetter, titleLetter, modifierLetter, otherLetter]

def marks : List Category := [nonspacingMark, spacingMark, enclosingMark]

def numbers : List Category := [decimalNumber, letterNumber, otherNumber]

def punctuation : List Category :=
  [connector, dash, openPunctuation, closePunctuation,
    initialQuote, finalQuote, otherPunctuation]

def symbols : List Category :=
  [mathSymbol, currencySymbol, modifierSymbol, otherSymbol]

def separators : List Category :=
  [spaceSeparator, lineSeparator, paragraphSeparator]

def others : List Category :=
  [control, format, surrogate, privateUse, unassigned]

end Category

/-- Decimal digits of every script. -/
def digitSet : CharSet := Category.decimalNumber.members

/-- Letters, letter numbers and the other alphabetic characters. -/
def alphabeticSet : CharSet :=
  (Category.membersOfAny (Category.letterNumber :: Category.letters)).union
    (CharSet.ofLines Category.otherAlphabetic)

/-- Word characters: alphabetic ones, marks, decimal digits, connectors and the
two joiners. -/
def wordSet : CharSet :=
  ((alphabeticSet.union
    (Category.membersOfAny (Category.decimalNumber :: Category.marks))).union
    Category.connector.members).union [(0x200C, 0x200D)]

def uppercaseSet : CharSet :=
  Category.upperLetter.members.union (CharSet.ofLines Category.otherUpper)

def lowercaseSet : CharSet :=
  Category.lowerLetter.members.union (CharSet.ofLines Category.otherLower)

/-- Characters that extend the character before them. -/
def combiningSet : CharSet :=
  (Category.membersOfAny [.nonspacingMark, .enclosingMark]).union
    (CharSet.ofLines Category.otherCombining)

/-- Characters that a reader cannot see or place: controls, format and
unassigned characters, separators other than the blank, and combining
characters. -/
def shapelessSet : CharSet :=
  ((Category.membersOfAny (Category.separators ++ Category.others)).diff
    [(0x20, 0x20)]).union
    combiningSet

/-- Whether a character is a word character. -/
def isWordChar (c : Char) : Bool :=
  if c.toNat < 0x80 then c.isAlphanum || c == '_' else wordSet.memChar c

/-- Whether a character has no visible shape of its own. -/
def isShapeless (c : Char) : Bool :=
  if c.toNat < 0x80 then c.toNat < 0x20 || c.toNat == 0x7F
  else shapelessSet.memChar c

end ServiceLoom.Text
