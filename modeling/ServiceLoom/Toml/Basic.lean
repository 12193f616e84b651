import ServiceLoom.Dict

/-!
# Settings documents as values

A settings document is a tree of tables. Its statements build the tree one after
the other: a header opens a table or appends one to a list of tables, and an
assignment writes a value under a key of the table opened last. **Nothing is
ever written twice**: a key that is in use, a header that was there before, and
a key that reaches into a finished table are errors.
-/

namespace ServiceLoom

/-- How a table came about, which decides what may be added to it. -/
inductive Toml.Origin where
  /-- By a header of its own, or as the document itself. -/
  | header
  /-- On the way to a header further down. -/
  | implied
  /-- On the way to a key with several parts. -/
  | dotted
  /-- As a value in braces, to which nothing can be added. -/
  | inline
deriving DecidableEq, Repr

/-- A value of a settings document. -/
inductive Toml where
  | string (s : String)
  | integer (n : Int)
  | float (x : Float)
  | bool (b : Bool)
  /-- A date, a time, or both, as written. -/
  | datetime (text : String)
  | array (items : List Toml)
  | table (origin : Toml.Origin) (entries : List (String × Toml))
  /-- A list of tables with a header each, the latest first. -/
  | tables (latestFirst : List (List (String × Toml)))
deriving Inhabited

namespace Toml

/-- The keys of a table with their values. -/
abbrev Entries := Dict Toml

/-- A key: the tables on the way, and the name in the last of them. -/
structure Key where
  path : List String
  name : String
deriving DecidableEq, Repr

/-- Whether a key or header may pass through a table. Parts of a key pass only
through tables that no header has opened. -/
def Origin.admits (dotted : Bool) : Origin → Bool
  | header => !dotted
  | implied => true
  | .dotted => true
  | inline => false

/-- Rewrites the table at a path below a table; tables that are missing on the
way are created. -/
def rewriteAt (dotted : Bool) (rewrite : Origin → Entries → Option Entries) :
    List String → Origin → Entries → Option Entries
  | [], origin, entries => rewrite origin entries
  | part :: path, _, entries =>
    match entries.get? part with
    | none => do
      let origin := if dotted then .dotted else .implied
      return entries.insert part
        (.table origin (← rewriteAt dotted rewrite path origin []))
    | some (.table origin inner) =>
      if origin.admits dotted then do
        return entries.insert part
          (.table origin (← rewriteAt dotted rewrite path origin inner))
      else none
    | some (.tables (latest :: earlier)) => do
      let latest ← rewriteAt dotted rewrite path .header latest
      return entries.insert part (.tables (latest :: earlier))
    | some _ => none

/-- Writes a value under a key of a table, unless the key is in use. A key with
several parts ends in a table that such keys have made. -/
def assign (key : Key) (value : Toml) : Origin → Entries → Option Entries :=
  rewriteAt true
    (fun origin entries =>
      if (origin = .dotted) = key.path.isEmpty then none
      else if entries.contains key.name then none
      else some (entries.insert key.name value))
    key.path

/-- Opens a table by its header. A table that was only implied may still be
opened. -/
def openTable (key : Key) : Entries → Option Entries :=
  rewriteAt false
    (fun _ entries =>
      match entries.get? key.name with
      | none => some (entries.insert key.name (.table .header []))
      | some (.table .implied inner) =>
          some (entries.insert key.name (.table .header inner))
      | some _ => none)
    key.path .header

/-- Appends a table to a list of tables by its header. -/
def appendTable (key : Key) : Entries → Option Entries :=
  rewriteAt false
    (fun _ entries =>
      match entries.get? key.name with
      | none => some (entries.insert key.name (.tables [[]]))
      | some (.tables earlier) =>
          some (entries.insert key.name (.tables ([] :: earlier)))
      | some _ => none)
    key.path .header

/-- A line of a settings document. -/
inductive Statement where
  | assign (key : Key) (value : Toml)
  | openTable (key : Key)
  | appendTable (key : Key)

/-- A document under construction: the path of the table opened last, and all
entries. -/
structure Draft where
  current : List String
  entries : Entries

/-- The document after one more statement. -/
def Draft.add (d : Draft) : Statement → Option Draft
  | .assign key value => do
    return { d with
      entries := ← rewriteAt false (Toml.assign key value) d.current .header
        d.entries }
  | .openTable key => do
      return ⟨key.path ++ [key.name], ← Toml.openTable key d.entries⟩
  | .appendTable key => do
      return ⟨key.path ++ [key.name], ← Toml.appendTable key d.entries⟩

/-- The entries that a list of statements builds. -/
def ofStatements? (statements : List Statement) : Option Entries :=
  (statements.foldlM Draft.add ⟨[], []⟩).map (·.entries)

/-- The entries that assignments within braces build. -/
def ofAssignments? (assignments : List (Key × Toml)) : Option Entries :=
  assignments.foldlM (fun entries (key, value) =>
    assign key value .inline entries) []

end Toml

end ServiceLoom
