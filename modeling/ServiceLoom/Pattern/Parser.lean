import ServiceLoom.Pattern.Class
import ServiceLoom.Decimal.Reader

/-!
# Reading patterns

The notation of patterns: literals, `.`, classes in brackets with nested classes
and set operations, escapes, anchors and word boundaries, groups with and
without names, flags, alternatives and repetitions. There is no look-around and
there are no back-references. A pattern that breaks the notation has no
expression.
-/

namespace ServiceLoom.Pattern

/-- What the flags of a group switch on. -/
structure Flags where
  ignoreCase : Bool := false
  multiLine : Bool := false
  dotAll : Bool := false
  swapGreed : Bool := false
  unicode : Bool := true
  ignoreBlanks : Bool := false
  breaks : Bool := false

/-- Drops blanks and comments; the first argument tells whether the input starts
inside a comment. -/
def skipComments : Bool → List Char → List Char
  | _, [] => []
  | true, c :: rest =>
      if c = '\n' then skipComments false rest else skipComments true rest
  | false, c :: rest =>
    if Text.isBlankChar c then skipComments false rest
    else if c = '#' then skipComments true rest
    else c :: rest

namespace Flags

/-- Drops what the flags say to ignore. -/
def skip (f : Flags) (cs : List Char) : List Char :=
  if f.ignoreBlanks then skipComments false cs else cs

/-- The input after its first character and what is ignored there; none at the
end. -/
def next? (f : Flags) (cs : List Char) : Option (List Char) :=
  match f.skip (cs.drop 1) with
  | [] => none
  | rest => some rest

/-- The word characters. -/
def words (f : Flags) : CharSet := if f.unicode then Text.wordSet else asciiWord

/-- The set with the other case of its characters, if case is ignored. -/
def fold (f : Flags) (s : CharSet) : CharSet :=
  if !f.ignoreCase then s else if f.unicode then foldCase s else foldAsciiCase s

/-- The characters outside of a set. Without Unicode these would include stray
bytes. -/
def complement? (f : Flags) (s : CharSet) : Option CharSet :=
  if f.unicode then some s.complement else none

/-- A set, or its complement. -/
def negateIf? (f : Flags) (negated : Bool) (s : CharSet) : Option CharSet :=
  if negated then f.complement? s else some s

end Flags

/-- A building block that is no group, class or repetition. -/
inductive Primitive where
  | literal (c : Char)
  | named (s : CharSet)
  | assertion (a : Assertion)
  | dot

/-- The characters that have a meaning of their own in patterns. -/
def metaChars : List Char :=
  ['\\', '.', '+', '*', '?', '(', ')', '|', '[', ']',
    '\x7b', '\x7d', '^', '$', '#', '&', '-', '~']

/-- Whether a backslash before a character means the character itself. -/
def isEscapable (c : Char) : Bool :=
  metaChars.contains c ||
    (c.toNat < 0x80 && !c.isAlphanum && c != '<' && c != '>')

def isHexDigit (c : Char) : Bool :=
  c.isDigit || ('a' ≤ c && c ≤ 'f') || ('A' ≤ c && c ≤ 'F')

/-- The character with a number, unless it is a surrogate or too large. -/
def char? (n : Nat) : Option Char :=
  if n.isValidChar then some (Char.ofNat n) else none

/-- A given number of hexadecimal digits. -/
def fixedHex? (f : Flags) : Nat → List Char → List Char →
    Option (Char × List Char)
  | 0, read, cs => (char? (CharSet.hexValue read.reverse)).map (·, cs)
  | n + 1, read, c :: rest =>
    if isHexDigit c then
      let rest := f.skip rest
      if n ≠ 0 ∧ rest.isEmpty then none else fixedHex? f n (c :: read) rest
    else none
  | _ + 1, _, [] => none

/-- Hexadecimal digits up to a closing brace. -/
def bracedHex? (f : Flags) : Nat → List Char → List Char →
    Option (Char × List Char)
  | 0, _, _ => none
  | fuel + 1, read, cs =>
    match f.skip cs with
    | [] => none
    | c :: rest =>
      if c = '\x7d' then
        if read.isEmpty then none
        else (char? (CharSet.hexValue read.reverse)).map (·, f.skip rest)
      else if isHexDigit c then bracedHex? f fuel (c :: read) rest
      else none

/-- A character written by its number, after the letter of the escape. Without
Unicode two digits alone stand for a byte, which must be ASCII. -/
def hexEscape? (f : Flags) (count : Nat) (cs : List Char) :
    Option (Char × List Char) :=
  match f.skip cs with
  | [] => none
  | '\x7b' :: rest => bracedHex? f (rest.length + 1) [] rest
  | cs => (fixedHex? f count [] cs).filter fun e =>
    f.unicode || count ≠ 2 || e.1.toNat < 0x80

/-- The text up to a closing brace, without what is ignored. -/
def bracedName? (f : Flags) : Nat → List Char → List Char →
    Option (String × List Char)
  | 0, _, _ => none
  | fuel + 1, read, cs =>
    match f.skip cs with
    | [] => none
    | c :: rest =>
      if c = '\x7d' then some (String.ofList read.reverse, rest)
      else bracedName? f fuel (c :: read) rest

/-- The class of a property expression: a name, or a name and a value with `=`,
`:` or `!=` between. -/
def propertyClass? (text : String) : Option CharSet :=
  match text.splitOn "!=" with
  | [name, value] => (valuedClass? name value).map CharSet.complement
  | _ =>
    match text.splitOn ":" with
    | name :: value :: more =>
        valuedClass? name (":".intercalate (value :: more))
    | _ =>
      match text.splitOn "=" with
      | name :: value :: more =>
          valuedClass? name ("=".intercalate (value :: more))
      | _ => namedClass? text

/-- A property class, after the letter of the escape. -/
def propertyEscape? (f : Flags) (negated : Bool) (cs : List Char) :
    Option (Primitive × List Char) := do
  let (set, rest) ← match f.skip cs with
    | [] => none
    | '\x7b' :: rest => do
      let (name, rest) ← bracedName? f (rest.length + 1) [] rest
      some (← propertyClass? name, rest)
    | c :: rest =>
      if c = '\\' then none
      else (namedClass? (String.singleton c)).map (·, f.skip rest)
  if !f.unicode then none
  else some (.named (← f.negateIf? negated (f.fold set)), rest)

/-- The word boundary named in braces after `\b`. -/
def namedBoundary? (words : CharSet) : String → Option Assertion
  | "start" => some (.wordStart words)
  | "end" => some (.wordEnd words)
  | "start-half" => some (.wordStartHalf words)
  | "end-half" => some (.wordEndHalf words)
  | _ => none

def isBoundaryLetter (c : Char) : Bool := c.isAlpha || c == '-'

/-- The letters of a named word boundary, without what is ignored, and the
rest. -/
def boundaryLetters (f : Flags) : Nat → List Char →
    List Char → String × List Char
  | 0, read, cs => (String.ofList read.reverse, cs)
  | fuel + 1, read, cs =>
    match cs with
    | [] => (String.ofList read.reverse, [])
    | c :: rest =>
      if isBoundaryLetter c then
        boundaryLetters f fuel (c :: read) (f.skip rest)
      else (String.ofList read.reverse, c :: rest)

/-- A word boundary, after `\b`. A brace that starts with no letter belongs to a
repetition. -/
def boundaryEscape? (f : Flags) (cs : List Char) :
    Option (Primitive × List Char) :=
  match cs with
  | '\x7b' :: rest =>
    match f.skip rest with
    | [] => none
    | c :: inner =>
      if isBoundaryLetter c then
        match boundaryLetters f (inner.length + 1) [] (c :: inner) with
        | (name, '\x7d' :: rest) =>
            (namedBoundary? f.words name).map (.assertion ·, rest)
        | _ => none
      else some (.assertion (.boundary f.words), cs)
  | _ => some (.assertion (.boundary f.words), cs)

/-- The class of digits, blanks or word characters, or what lies outside of
it. -/
def shortClass? (f : Flags) (c : Char) : Option CharSet :=
  match c with
  | 'd' => some (if f.unicode then Text.digitSet else asciiDigits)
  | 's' => some (if f.unicode then blanks else asciiBlanks)
  | 'w' => some f.words
  | 'D' => f.complement? Text.digitSet
  | 'S' => f.complement? blanks
  | 'W' => f.complement? f.words
  | _ => none

/-- The control character of an escape letter. -/
def controlEscape? (c : Char) : Option Char :=
  match c with
  | 'a' => some '\x07'
  | 'f' => some '\x0c'
  | 't' => some '\t'
  | 'n' => some '\n'
  | 'r' => some '\r'
  | 'v' => some '\x0b'
  | _ => none

/-- An escape, after its backslash. -/
def escape? (f : Flags) : List Char → Option (Primitive × List Char)
  | [] => none
  | c :: rest =>
    if c = 'x' then (hexEscape? f 2 rest).map fun (c, rest) =>
      (.literal c, rest)
    else if c = 'u' then (hexEscape? f 4 rest).map fun (c, rest) =>
      (.literal c, rest)
    else if c = 'U' then (hexEscape? f 8 rest).map fun (c, rest) =>
      (.literal c, rest)
    else if c = 'p' then propertyEscape? f false rest
    else if c = 'P' then propertyEscape? f true rest
    else if ['d', 's', 'w', 'D', 'S', 'W'].contains c then
      (shortClass? f c).map (.named ·, rest)
    else if isEscapable c then some (.literal c, rest)
    else match controlEscape? c with
      | some c => some (.literal c, rest)
      | none =>
        if c = 'A' then some (.assertion .textStart, rest)
        else if c = 'z' then some (.assertion .textEnd, rest)
        else if c = 'b' then boundaryEscape? f rest
        else if c = 'B' then some (.assertion (.noBoundary f.words), rest)
        else if c = '<' then some (.assertion (.wordStart f.words), rest)
        else if c = '>' then some (.assertion (.wordEnd f.words), rest)
        else none

/-- A single character or escape inside brackets. -/
def classItem? (f : Flags) : List Char → Option (Primitive × List Char)
  | [] => none
  | '\\' :: rest => escape? f rest
  | c :: rest => some (.literal c, rest)

/-- A set of one character; without Unicode only ASCII is allowed. -/
def literalSet? (f : Flags) (c : Char) : Option CharSet :=
  if f.unicode || c.toNat < 0x80 then some [(c.toNat, c.toNat)] else none

/-- A character, a class or a range inside brackets. -/
def classRange? (f : Flags) (cs : List Char) :
    Option (CharSet × List Char) := do
  let (first, rest) ← classItem? f cs
  let rest := f.skip rest
  let single := match first with
    | .literal c => (literalSet? f c).map (·, rest)
    | .named s => some (s, rest)
    | _ => none
  match rest with
  | [] => none
  | '-' :: after =>
    match f.skip after with
    | ']' :: _ => single
    | '-' :: _ => single
    | [] => none
    | after =>
      let (last, rest) ← classItem? f after
      match first, last with
      | .literal a, .literal b =>
        let _ ← literalSet? f a
        let _ ← literalSet? f b
        if a ≤ b then some ([(a.toNat, b.toNat)], rest) else none
      | _, _ => none
  | _ => single

/-- A class between `[:` and `:]`, with the opening bracket still in front; none
if there is none. -/
def bracketedName? (f : Flags) : List Char → Option (Option CharSet × List Char)
  | '[' :: ':' :: rest =>
    let (negated, rest) := match rest with
      | '^' :: rest => (true, rest)
      | rest => (false, rest)
    let name := String.ofList (rest.takeWhile (· ≠ ':'))
    match rest.dropWhile (· ≠ ':') with
    | ':' :: ']' :: rest =>
      (asciiClass? name).map fun s => (f.negateIf? negated (f.fold s), rest)
    | _ => none
  | _ => none

/-- A set operation between the parts of a class. -/
inductive SetOp where
  | inter | diff | symmetric

/-- Two sets combined. -/
def SetOp.apply (op : SetOp) (s t : CharSet) : CharSet :=
  match op with
  | inter => s.inter t
  | diff => s.diff t
  | symmetric => (s.union t).diff (s.inter t)

/-- The part read so far, combined with what stands before the last
operation. -/
def closePart (f : Flags) (left : Option (SetOp × CharSet))
    (part : CharSet) : CharSet :=
  match left with
  | none => part
  | some (op, s) => op.apply (f.fold s) (f.fold part)

/-- The input after the hyphens at the start of a class. -/
def skipHyphens (f : Flags) : Nat → List Char → List Char
  | 0, cs => cs
  | fuel + 1, cs =>
    match cs with
    | '-' :: rest => skipHyphens f fuel (f.skip rest)
    | _ => cs

/-- The literal hyphens, or the literal bracket, at the start of a class, and
the rest. -/
def classLead (f : Flags) (cs : List Char) : CharSet × List Char :=
  match cs with
  | '-' :: rest => ([(0x2D, 0x2D)], skipHyphens f rest.length (f.skip rest))
  | ']' :: rest => ([(0x5D, 0x5D)], f.skip rest)
  | _ => ([], cs)

mutual

/-- A class, after its opening bracket, and how deep its brackets go. -/
def class? : Nat → Flags → List Char → Option (CharSet × Nat × List Char)
  | 0, _, _ => none
  | fuel + 1, f, cs => do
    let (negated, cs) := match f.skip cs with
      | '^' :: rest => (true, f.skip rest)
      | rest => (false, rest)
    let (lead, cs) := classLead f cs
    let (s, depth, rest) ← classParts? fuel f none lead 1 cs
    some (← f.negateIf? negated (f.fold s), depth, rest)

/-- The parts of a class up to its closing bracket; `depth` is how deep brackets
went so far. -/
def classParts? : Nat → Flags → Option (SetOp × CharSet) →
    CharSet → Nat → List Char →
    Option (CharSet × Nat × List Char)
  | 0, _, _, _, _, _ => none
  | fuel + 1, f, left, part, depth, cs =>
    match f.skip cs with
    | [] => none
    | ']' :: rest => some (closePart f left part, depth, rest)
    | '[' :: rest =>
      match bracketedName? f ('[' :: rest) with
      | some (none, _) => none
      | some (some s, rest) => classParts? fuel f left (part.union s) depth rest
      | none =>
        match class? fuel f rest with
        | none => none
        | some (s, inner, rest) =>
          classParts? fuel f left (part.union s) (max depth (inner + 1)) rest
    | '&' :: '&' :: rest =>
      classParts? fuel f (some (.inter, closePart f left part)) [] depth rest
    | '-' :: '-' :: rest =>
        classParts? fuel f (some (.diff, closePart f left part)) [] depth rest
    | '~' :: '~' :: rest =>
      classParts? fuel f (some (.symmetric, closePart f left part)) [] depth rest
    | cs =>
      match classRange? f cs with
      | none => none
      | some (s, rest) => classParts? fuel f left (part.union s) depth rest

end

/-- A decimal number with blanks around it. -/
def count? (f : Flags) (cs : List Char) : Option (Nat × List Char) :=
  let cs := f.skip (cs.dropWhile Text.isBlankChar)
  let digits := cs.takeWhile Char.isDigit
  if digits.isEmpty then none
  else
    let n := Decimal.natOfDigits digits
    if n < 4294967296 then
      some (n, f.skip ((cs.dropWhile Char.isDigit).dropWhile Text.isBlankChar))
    else none

/-- The bounds of a counted repetition, after the opening brace. -/
def bounds? (f : Flags) (cs : List Char) :
    Option ((Nat × Option Nat) × List Char) := do
  let cs := f.skip cs
  let (least, cs) ← count? f cs
  match cs with
  | '\x7d' :: rest => some ((least, some least), rest)
  | ',' :: rest =>
    match f.skip rest with
    | '\x7d' :: rest => some ((least, none), rest)
    | cs =>
      let (most, cs) ← count? f cs
      match cs with
      | '\x7d' :: rest =>
          if least ≤ most then some ((least, some most), rest) else none
      | _ => none
  | _ => none

/-- The input after an optional question mark. -/
def skipLazy (f : Flags) (cs : List Char) : List Char :=
  match f.skip cs with
  | '?' :: rest => rest
  | cs => cs

/-- An expression, and how deep its groups, classes, repetitions, sequences and
alternatives are nested. -/
structure Nested where
  expr : Expr
  depth : Nat

/-- A part of a sequence: an expression, or a setting of flags, which cannot be
repeated. -/
inductive Part where
  | expr (e : Nested)
  | flags

/-- The parts, latest first, with the last one repeated. -/
def repeatLast? (least : Nat) (most : Option Nat) : List Part →
    Option (List Part)
  | .expr e :: rest =>
      some (.expr ⟨.repeated e.expr least most, e.depth + 1⟩ :: rest)
  | _ => none

/-- The depth of a whole whose parts have the given depths. A single part is no
whole. -/
def depthOf : List Nat → Nat
  | [d] => d
  | [] => 0
  | ds => ds.foldl max 0 + 1

def Part.depth : Part → Nat
  | .expr e => e.depth
  | .flags => 0

/-- The parts, latest first, as one expression. -/
def sequenceOf (parts : List Part) : Nested where
  expr := parts.foldl (fun e p => match p with
    | .expr a => match e with
      | .empty => a.expr
      | e => .seq a.expr e
    | .flags => e) .empty
  depth := depthOf (parts.map Part.depth)

/-- The alternatives, latest first, as one expression. -/
def alternativesOf (alternatives : List Nested) : Nested where
  expr := match alternatives with
    | [] => .empty
    | e :: rest => rest.foldl (fun e a => .alt a.expr e) e.expr
  depth := depthOf (alternatives.map (·.depth))

/-- A literal, with its other cases if case is ignored. -/
def literalExpr (f : Flags) (c : Char) : Expr :=
  if f.ignoreCase && (f.unicode || c.toNat < 0x80) then
    .set (f.fold [(c.toNat, c.toNat)])
  else .set [(c.toNat, c.toNat)]

/-- The characters that a dot stands for. -/
def dotExpr? (f : Flags) : Option Expr :=
  if !f.unicode then none
  else if f.dotAll then some (.set allChars)
  else if f.breaks then
    some (.set (CharSet.complement [(0xA, 0xA), (0xD, 0xD)]))
  else some (.set (CharSet.complement [(0xA, 0xA)]))

def startAnchor (f : Flags) : Expr :=
  .assertion (if !f.multiLine then .textStart else if f.breaks then .breakStart
    else .lineStart)

def endAnchor (f : Flags) : Expr :=
  .assertion (if !f.multiLine then .textEnd else if f.breaks then .breakEnd
    else .lineEnd)

/-- A primitive outside of brackets. -/
def primitive? (f : Flags) : List Char → Option (Expr × List Char)
  | [] => none
  | '\\' :: rest => do
    let (p, rest) ← escape? f rest
    match p with
    | .literal c => some (literalExpr f c, rest)
    | .named s => some (.set s, rest)
    | .assertion a => some (.assertion a, rest)
    | .dot => none
  | '.' :: rest => (dotExpr? f).map (·, rest)
  | '^' :: rest => some (startAnchor f, rest)
  | '$' :: rest => some (endAnchor f, rest)
  | c :: rest => some (literalExpr f c, rest)

/-- Flags with the one of a letter switched. -/
def Flags.switch? (f : Flags) (value : Bool) (c : Char) : Option Flags :=
  match c with
  | 'i' => some { f with ignoreCase := value }
  | 'm' => some { f with multiLine := value }
  | 's' => some { f with dotAll := value }
  | 'U' => some { f with swapGreed := value }
  | 'u' => some { f with unicode := value }
  | 'R' => some { f with breaks := value }
  | 'x' => some { f with ignoreBlanks := value }
  | _ => none

/-- The letters of a flag setting up to its end, which is a colon or a
parenthesis. Each letter, and the minus sign, stands at most once, and something
follows the minus sign. -/
def flags? : List Char → List Char → Flags →
    Option (List Char × Flags × List Char)
  | _, [], _ => none
  | seen, c :: rest, f =>
    if c = ':' ∨ c = ')' then
      if seen.head? = some '-' then none else some (seen, f, c :: rest)
    else if seen.contains c then none
    else if c = '-' then flags? (c :: seen) rest f
    else match f.switch? (!seen.contains '-') c with
      | some g => flags? (c :: seen) rest g
      | none => none

/-- Whether a character may stand in the name of a group. -/
def isNameChar (first : Bool) (c : Char) : Bool :=
  c == '_' || Text.alphabeticSet.memChar c ||
    (!first && (c == '.' || c == '[' || c == ']' ||
      (Text.Category.membersOfAny Text.Category.numbers).memChar c))

/-- The name of a group up to its closing angle. -/
def groupName? (taken : List String) (cs : List Char) :
    Option (String × List Char) :=
  let name := cs.takeWhile (· ≠ '>')
  match cs.dropWhile (· ≠ '>'), name with
  | '>' :: rest, c :: more =>
    let text := String.ofList name
    if isNameChar true c && more.all (isNameChar false) &&
        !taken.contains text then
      some (text, rest)
    else none
  | _, _ => none

/-- What an opening parenthesis starts. -/
inductive Opening where
  | group (inside : Flags) (names : List String)
  | setting (after : Flags)

/-- The start of a group, after its parenthesis. -/
def opening? (f : Flags) (names : List String) (cs : List Char) :
    Option (Opening × List Char) :=
  match f.skip cs with
  | '?' :: 'P' :: '<' :: rest =>
    (groupName? names rest).map fun (n, rest) => (.group f (n :: names), rest)
  | '?' :: '=' :: _ => none
  | '?' :: '!' :: _ => none
  | '?' :: '<' :: '=' :: _ => none
  | '?' :: '<' :: '!' :: _ => none
  | '?' :: '<' :: rest =>
    (groupName? names rest).map fun (n, rest) => (.group f (n :: names), rest)
  | '?' :: rest =>
    match flags? [] rest f with
    | some (seen, g, ')' :: rest) =>
        if seen.isEmpty then none else some (.setting g, rest)
    | some (_, g, ':' :: rest) => some (.group g names, rest)
    | _ => none
  | rest => some (.group f names, rest)

/-- The alternatives of a group, up to its closing parenthesis or the end, which
are left in place. The lists hold the alternatives and the parts read so far,
latest first. -/
def alternatives? : Nat → Flags → List String → List Nested →
    List Part → List Char →
    Option (Nested × List String × List Char)
  | 0, _, _, _, _, _ => none
  | fuel + 1, f, names, alts, parts, cs =>
    match f.skip cs with
    | [] => some (alternativesOf (sequenceOf parts :: alts), names, [])
    | ')' :: rest =>
        some (alternativesOf (sequenceOf parts :: alts), names, ')' :: rest)
    | '|' :: rest =>
        alternatives? fuel f names (sequenceOf parts :: alts) [] rest
    | '(' :: rest =>
      match opening? f names rest with
      | none => none
      | some (.setting g, rest) =>
          alternatives? fuel g names alts (.flags :: parts) rest
      | some (.group g names, rest) =>
        match alternatives? fuel g names [] [] rest with
        | some (e, names, ')' :: rest) =>
          alternatives? fuel f names alts
            (.expr ⟨e.expr, e.depth + 1⟩ :: parts) rest
        | _ => none
    | '[' :: rest =>
      match class? (rest.length + 1) f rest with
      | none => none
      | some (s, depth, rest) =>
        alternatives? fuel f names alts (.expr ⟨.set s, depth⟩ :: parts) rest
    | '?' :: rest =>
      match repeatLast? 0 (some 1) parts with
      | none => none
      | some parts => alternatives? fuel f names alts parts (skipLazy f rest)
    | '*' :: rest =>
      match repeatLast? 0 none parts with
      | none => none
      | some parts => alternatives? fuel f names alts parts (skipLazy f rest)
    | '+' :: rest =>
      match repeatLast? 1 none parts with
      | none => none
      | some parts => alternatives? fuel f names alts parts (skipLazy f rest)
    | '\x7b' :: rest =>
      match bounds? f rest with
      | none => none
      | some ((least, most), rest) =>
        match repeatLast? least most parts with
        | none => none
        | some parts => alternatives? fuel f names alts parts (skipLazy f rest)
    | cs =>
      match primitive? f cs with
      | none => none
      | some (e, rest) =>
          alternatives? fuel f names alts (.expr ⟨e, 0⟩ :: parts) rest

/-- The bytes of a character's code in UTF-8. -/
def utf8Bytes (code : Nat) : List Nat :=
  let tail (n : Nat) := 0x80 + n % 64
  if code < 0x80 then [code]
  else if code < 0x800 then [0xC0 + code / 64, tail code]
  else if code < 0x10000 then [0xE0 + code / 4096, tail (code / 64), tail code]
  else [0xF0 + code / 262144, tail (code / 4096), tail (code / 64), tail code]

/-- The last code of the first part of a range whose bytes are no ranges
themselves. -/
def splitPoint? (range : Nat × Nat) : Option Nat :=
  let (first, last) := range
  let between (n : Nat) : Bool := first ≤ n && n < last
  ([0x7F, 0x7FF, 0xD7FF, 0xDFFF, 0xFFFF].find? between).orElse fun _ =>
    if last < 0x80 then none
    else [64, 4096, 262144].findSome? fun unit =>
      if first / unit = last / unit then none
      else if first % unit ≠ 0 then some (first / unit * unit + unit - 1)
      else if last % unit ≠ unit - 1 then some (last / unit * unit - 1)
      else none

/-- The parts of a range whose bytes are ranges; the first argument bounds how
often it is split. -/
def byteParts : Nat → Nat × Nat → List (List (Nat × Nat))
  | 0, _ => []
  | n + 1, range =>
    match splitPoint? range with
    | some point =>
        byteParts n (range.1, point) ++ byteParts n (point + 1, range.2)
    | none =>
      if 0xD800 ≤ range.1 ∧ range.2 ≤ 0xDFFF then []
      else [(utf8Bytes range.1).zip (utf8Bytes range.2)]

/-- How many bytes two sequences have in common at the start. -/
def sharedLength : List (Nat × Nat) → List (Nat × Nat) → Nat
  | r :: rest, r' :: rest' => if r = r' then sharedLength rest rest' + 1 else 0
  | _, _ => 0

/-- The bytes of memory that a state takes. -/
def stateSize : Nat := 32

/-- The bytes that each range of a state takes, if it has several. -/
def transitionSize : Nat := 8

/-- The bytes that each way out of a choice takes. -/
def alternativeSize : Nat := 4

/-- The memory of a set: a state for each byte, with common first bytes once. -/
def setSize (s : CharSet) : Nat :=
  match s with
  | [(first, last)] =>
    if first = last then stateSize * (utf8Bytes first).length else sizeOf s
  | _ => sizeOf s
where
  sizeOf (s : CharSet) : Nat :=
    if s.all (·.2 < 0x80) then 2 * stateSize + transitionSize * s.length
    else
      let parts := s.flatMap (byteParts 64)
      let states := (parts.foldl (fun (count, previous) part =>
        (count + part.length - sharedLength previous part, part)) (0, [])).1
      stateSize * (states + 2) + alternativeSize * parts.length

/-- The memory of an expression's automaton. -/
def Expr.size : Expr → Nat
  | empty => stateSize
  | set s => setSize s
  | assertion _ => stateSize
  | seq a b => a.size + b.size
  | alt a b => a.size + b.size + alternativeSize
  | repeated a least most =>
    let choice := stateSize + 2 * alternativeSize
    match most with
    | none => a.size * max least 1 + choice
    | some most => a.size * most + choice * (most - least) + stateSize

/-- The largest memory that a pattern may take, ten mebibytes. -/
def sizeLimit : Nat := 10485760

/-- How deep the parts of a pattern may be nested. -/
def depthLimit : Nat := 250

/-- The expression of a pattern. -/
def parse? (source : String) : Option Expr :=
  let cs := source.toList
  match alternatives? (cs.length + 1) {} [] [] [] cs with
  | some (e, _, []) =>
    if e.depth ≤ depthLimit ∧ e.expr.size ≤ sizeLimit then some e.expr else none
  | _ => none

end ServiceLoom.Pattern
