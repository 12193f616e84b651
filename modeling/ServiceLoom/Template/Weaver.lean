import ServiceLoom.Template.Placeholder
import ServiceLoom.Text.Blank

/-!
# Weaving

A skeleton is a text in which marker lines open named hooks. A marker line is
kept, and the fragments that are injected at its hook follow it in the order in
which they were injected; what they contain is never looked at. Methods go to
the hook for methods, or before the last closing brace of a skeleton without
one.
-/

namespace ServiceLoom.Template

/-- Why a skeleton cannot be woven. -/
inductive WeaveError where
  | duplicateHook (name : String) (line : Nat)
  | unnamedHook (line : Nat)
deriving DecidableEq, Repr

def WeaveError.message : WeaveError → String
  | duplicateHook name line =>
    "hook marker '" ++ name ++ "' appears more than once (line " ++
      toString line ++ ")"
  | unnamedHook line =>
      "hook marker on line " ++ toString line ++ " has no name"

/-- The hook that collects methods. -/
def methodsHook : String := "ADDITIONAL_METHODS"

/-- A stretch of a skeleton. -/
inductive Segment where
  | text (s : String)
  | hook (name : String)
  /-- Where methods go if no hook collects them. -/
  | methods
deriving DecidableEq, Repr

/-- A skeleton with the fragments injected so far. -/
structure Weaver where
  segments : List Segment
  /-- The fragments of every hook, in the order of their injection. -/
  slots : Dict (List String)
  methods : List String
  warnings : List String

/-- The lines of a text, each with its line break. -/
def lines : List Char → List (List Char)
  | [] => []
  | c :: rest =>
    if c = '\n' then [c] :: lines rest
    else match lines rest with
      | line :: more => (c :: line) :: more
      | [] => [[c]]

/-- The name after a hook marker, if a line is one. -/
def hookName? (line : List Char) : Option String :=
  let marker := "// @HOOK:".toList
  let line := Text.trimChars line
  if marker.isPrefixOf line then
    some (String.ofList (Text.trimChars (line.drop marker.length)))
  else none

/-- The text with a line break at its end. -/
def withLineBreak (s : String) : String :=
  if s.toList.getLast? = some '\n' then s else s ++ "\n"

/-- The part before the last closing brace and the part from it on. -/
def splitAtLastBrace? (s : String) : Option (String × String) :=
  let back := s.toList.reverse
  match back.dropWhile (· ≠ '\x7d') with
  | [] => none
  | brace :: before =>
    some (String.ofList before.reverse,
      String.ofList (brace :: (back.takeWhile (· ≠ '\x7d')).reverse))

/-- The segments for the text after the last marker. -/
def lastSegments (slots : Dict (List String)) (text : String) : List Segment :=
  if slots.contains methodsHook then [.text text]
  else match splitAtLastBrace? text with
    | some (before, after) => [.text before, .methods, .text after]
    | none => [.text text, .methods]

/-- The segments of the remaining lines, after `text` that no segment holds
yet. -/
def segmentsFrom (number : Nat) (text : String) (slots : Dict (List String)) :
    List (List Char) → Except WeaveError (List Segment × Dict (List String))
  | [] => .ok (lastSegments slots text, slots)
  | line :: rest =>
    let text := text ++ String.ofList line
    match hookName? line with
    | none => segmentsFrom (number + 1) text slots rest
    | some name =>
      if name = "" then .error (.unnamedHook number)
      else if slots.contains name then .error (.duplicateHook name number)
      else do
        let (segments, slots) ← segmentsFrom (number + 1)
            "" (slots.insert name []) rest
        return (.text (withLineBreak text) :: .hook name :: segments, slots)

namespace Weaver

/-- A skeleton without fragments. -/
def parse (skeleton : String) : Except WeaveError Weaver := do
  let (segments, slots) ← segmentsFrom 1 "" [] (lines skeleton.toList)
  return { segments, slots, methods := [], warnings := [] }

/-- The names of the hooks, in order. -/
def hooks (w : Weaver) : List String := w.slots.keys

def hasHook (w : Weaver) (name : String) : Bool := w.slots.contains name

/-- Adds a fragment at a hook. A hook that does not exist leads to a warning. -/
def inject (w : Weaver) (hook fragment : String) : Weaver :=
  match w.slots.get? hook with
  | some fragments =>
      { w with slots := w.slots.insert hook (fragments ++ [fragment]) }
  | none =>
    { w with warnings :=
        w.warnings ++
          ["hook '" ++ hook ++ "' not found in skeleton; fragment skipped"] }

/-- Adds a method. -/
def appendMethod (w : Weaver) (method : String) : Weaver :=
  match w.slots.get? methodsHook with
  | some fragments =>
      { w with slots := w.slots.insert methodsHook (fragments ++ [method]) }
  | none => { w with methods := w.methods ++ [method] }

/-- The pieces of text that a segment stands for. -/
def pieces (w : Weaver) : Segment → List String
  | .text s => [s]
  | .hook name => ((w.slots.get? name).getD []).map withLineBreak
  | .methods => w.methods.map withLineBreak

/-- The skeleton with its fragments, placeholders as they are. -/
def woven (w : Weaver) : String := String.join (w.segments.flatMap w.pieces)

/-- The skeleton with its fragments and the values of its placeholders. -/
def render (w : Weaver) (context : Dict String) : String :=
  substitute context w.woven

end Weaver

end ServiceLoom.Template
