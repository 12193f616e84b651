/-!
# Pattern engines

What a pattern means is for an engine to say: it reads the pattern and then
finds it in texts, or says what is wrong with it.  Everything the program does
with patterns is done with what the engine says, and nothing is assumed of an
engine.
-/

namespace ServiceLoom.Pattern

/-- A pattern engine. -/
class Engine where
  /-- Whether a pattern occurs in a text, or why the pattern cannot be read. -/
  compile : String → Except String (String → Bool)

/-- What is wrong with a pattern that cannot be read. -/
def fault? [Engine] (source : String) : Option String :=
  match Engine.compile source with
  | .error fault => some fault
  | .ok _ => none

/-- Whether a pattern can be read. -/
def isValid [Engine] (source : String) : Bool := (fault? source).isNone

/-- Whether a pattern accepts a text: it occurs in the text, or cannot be
read. -/
def accepts [Engine] (source text : String) : Bool :=
  match Engine.compile source with
  | .error _ => true
  | .ok occursIn => occursIn text

end ServiceLoom.Pattern
