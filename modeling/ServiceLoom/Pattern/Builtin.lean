import ServiceLoom.Pattern.Engine
import ServiceLoom.Pattern.Parser

/-!
# The engine of the program

The engine that the program runs with reads a pattern into an expression and
searches texts for it.
-/

namespace ServiceLoom.Pattern

/-- The engine that reads patterns into expressions. -/
instance builtin : Engine where
  compile source :=
    match parse? source with
    | some e => .ok e.occursIn
    | none => .error "the pattern cannot be read"

end ServiceLoom.Pattern
