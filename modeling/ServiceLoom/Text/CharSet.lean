/-!
# Sets of characters as ranges of code points

A `CharSet` lists disjoint ranges in ascending order. The operations keep that
form, so the complement is a single walk and the other set operations follow
from it.
-/

namespace ServiceLoom

/-- Disjoint ranges of code points, first and last included, in ascending
order. -/
abbrev CharSet := List (Nat × Nat)

namespace CharSet

/-- The largest code point. -/
def lastPoint : Nat := 0x10FFFF

/-- Whether the set holds a code point. -/
def mem (s : CharSet) (c : Nat) : Bool := s.any fun r => r.1 ≤ c && c ≤ r.2

/-- Whether the set holds a character. -/
def memChar (s : CharSet) (c : Char) : Bool := s.mem c.toNat

/-- Adds a range, joining it with those it touches. -/
def insertRange : CharSet → Nat × Nat → CharSet
  | [], r => [r]
  | (a, b) :: rest, (lo, hi) =>
    if hi + 1 < a then (lo, hi) :: (a, b) :: rest
    else if b + 1 < lo then (a, b) :: insertRange rest (lo, hi)
    else insertRange rest (min a lo, max b hi)

/-- The set of the given ranges, which may come in any order and overlap. -/
def ofRanges (ranges : List (Nat × Nat)) : CharSet :=
  ranges.foldr (fun r s => insertRange s r) []

/-- The set of the given characters. -/
def ofChars (cs : List Char) : CharSet :=
  ofRanges (cs.map fun c => (c.toNat, c.toNat))

def union (s t : CharSet) : CharSet := t.foldr (fun r u => insertRange u r) s

/-- The code points from `start` on that lie in none of the ranges. -/
def gapsFrom (start : Nat) : CharSet → CharSet
  | [] => if start ≤ lastPoint then [(start, lastPoint)] else []
  | (a, b) :: rest =>
    if start < a then (start, a - 1) :: gapsFrom (b + 1) rest
    else gapsFrom (max start (b + 1)) rest

def complement (s : CharSet) : CharSet := gapsFrom 0 s

def inter (s t : CharSet) : CharSet :=
  complement (union (complement s) (complement t))

def diff (s t : CharSet) : CharSet := inter s (complement t)

/-- The number that a hexadecimal numeral denotes. -/
def hexValue (digits : List Char) : Nat :=
  digits.foldl (fun n c =>
    n * 16 + (if c.isDigit then c.toNat - 0x30
      else if 'a' ≤ c ∧ c ≤ 'f' then c.toNat - 0x57
      else c.toNat - 0x37)) 0

/-- The range written `first-last`, or `point` for a single one, in
hexadecimal. -/
def rangeOfText (text : String) : Nat × Nat :=
  let cs := text.toList
  let first := hexValue (cs.takeWhile (· ≠ '-'))
  match cs.dropWhile (· ≠ '-') with
  | [] => (first, first)
  | _ :: last => (first, hexValue last)

/-- The set whose ranges are listed on lines, with blanks between them. -/
def ofLines (lines : List String) : CharSet :=
  ofRanges ((lines.flatMap (·.splitOn " ")).map rangeOfText)

end CharSet

end ServiceLoom
