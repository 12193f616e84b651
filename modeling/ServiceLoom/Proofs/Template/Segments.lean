import ServiceLoom.Proofs.Template.Calls
import Mathlib.Data.List.DropRight

/-!
# The segments of a skeleton

Reading cuts a skeleton at its markers.  The lines through the last marker come
to segments that end where lines end, with the hooks between them; the lines
below it make up what comes last.

* `segmentsFrom_cons_cases` — what reading one line does;
* `segmentsFrom_readFrom`, `get?_of_segmentsFrom` — what reading all lines
  gives;
* `Weaver.readFrom_of_parse` — the segments of a skeleton that is accepted.
-/

namespace ServiceLoom.Template

/-! ## Lines through the last marker and below it -/

/-- Whether a line is no marker. -/
def isPlain (line : List Char) : Bool := (hookName? line).isNone

/-- The lines through the last marker. -/
def markedLines (ls : List (List Char)) : List (List Char) :=
  ls.rdropWhile isPlain

/-- The lines below the last marker. -/
def plainLines (ls : List (List Char)) : List (List Char) :=
  ls.rtakeWhile isPlain

/-- The text of lines. -/
def textOf (ls : List (List Char)) : String := String.ofList ls.flatten

theorem textOf_nil : textOf [] = "" := rfl

theorem textOf_append (ls more : List (List Char)) :
    textOf (ls ++ more) = textOf ls ++ textOf more := by
  rw [textOf, List.flatten_append, String.ofList_append]
  rfl

theorem textOf_singleton (line : List Char) :
    textOf [line] = String.ofList line := by
  rw [textOf, List.flatten_singleton]

theorem join_map_ofList (ls : List (List Char)) :
    String.join (ls.map String.ofList) = textOf ls := by
  rw [← String.toList_inj, String.toList_join, textOf,
    String.toList_ofList, List.flatMap_map, List.flatMap_def]
  simp

/-- Nothing stands below a line that is no marker. -/
theorem flatMap_expandedLine_plain {ls : List (List Char)}
    (h : ∀ line ∈ ls, hookName? line = none) (content : String → List String) :
    ls.flatMap (expandedLine content) = ls.map String.ofList := by
  rw [List.map_eq_flatMap]
  refine List.flatMap_congr fun line hline => ?_
  rw [expandedLine, h line hline]

theorem isPlain_eq_true_iff {line : List Char} :
    isPlain line = true ↔ hookName? line = none :=
  Option.isNone_iff_eq_none

theorem markedLines_append_plainLines (ls : List (List Char)) :
    markedLines ls ++ plainLines ls = ls := by
  rw [markedLines, plainLines, List.rdropWhile, List.rtakeWhile,
    ← List.reverse_append, List.takeWhile_append_dropWhile, List.reverse_reverse]

/-- No line below the last marker is one. -/
theorem hookName?_of_mem_plainLines {ls : List (List Char)} {line : List Char}
    (h : line ∈ plainLines ls) :
    hookName? line = none := isPlain_eq_true_iff.mp (List.mem_rtakeWhile_imp h)

/-- Without markers all lines are below the last one. -/
theorem plainLines_eq_self {ls : List (List Char)}
    (h : ∀ line ∈ ls, hookName? line = none) :
    markedLines ls = [] ∧ plainLines ls = ls :=
  ⟨List.rdropWhile_eq_nil_iff.mpr fun line hline =>
    isPlain_eq_true_iff.mpr (h line hline),
    List.rtakeWhile_eq_self_iff.mpr fun line hline =>
      isPlain_eq_true_iff.mpr (h line hline)⟩

/-- What stands at or above a marker is not below the last one. -/
theorem plainLines_marker {line : List Char} (h : hookName? line ≠ none)
    (before after : List (List Char)) :
    markedLines (before ++ line :: after) =
      before ++ line :: markedLines after ∧
      plainLines (before ++ line :: after) = plainLines after := by
  have hstop : isPlain line = false := by
    rw [Bool.eq_false_iff]
    exact mt isPlain_eq_true_iff.mp h
  have hplain : plainLines (before ++ line :: after) = plainLines after := by
    rw [plainLines, plainLines, List.rtakeWhile, List.rtakeWhile,
      List.reverse_append, List.reverse_cons, List.append_assoc,
      List.takeWhile_append]
    -- Read from the end, the lines below go on to the marker, or stop at one of
    -- their own.
    split
    next hall =>
      rw [List.singleton_append,
        List.takeWhile_cons_of_neg (ne_true_of_eq_false hstop), List.append_nil,
        (List.takeWhile_prefix isPlain).eq_of_length hall]
    next => rfl
  refine ⟨?_, hplain⟩
  have hboth := markedLines_append_plainLines (before ++ line :: after)
  rw [hplain] at hboth
  refine List.append_cancel_right (hboth.trans ?_)
  rw [List.append_assoc, List.cons_append, markedLines_append_plainLines]

/-! ## Reading -/

section Read

variable {number : Nat} {text : String} {slots found : Dict (List String)}
    {segments : List Segment}
  {line : List Char} {rest pending : List (List Char)}

/-- **Reading one line** adds it to the text, or closes the text with it and
opens a hook. -/
theorem segmentsFrom_cons_cases
    (h : segmentsFrom number text slots (line :: rest) = .ok (segments, found)) :
    (hookName? line = none ∧
      segmentsFrom (number + 1) (text ++ String.ofList line) slots rest =
        .ok (segments, found)) ∨
    ∃ name more, hookName? line = some name ∧
      segmentsFrom (number + 1) "" (slots.insert name []) rest =
        .ok (more, found) ∧
      segments = .text (withLineBreak (text ++ String.ofList line)) ::
        .hook name :: more := by
  rw [segmentsFrom] at h
  dsimp only at h
  cases hhook : hookName? line with
  | none =>
      rw [hhook] at h
      exact .inl ⟨rfl, h⟩
  | some name =>
      rw [hhook] at h
      dsimp only at h
      split at h
      · cases h
      · split at h
        · cases h
        · cases hrest :
              segmentsFrom (number + 1) "" (slots.insert name []) rest with
          | error err =>
              rw [hrest] at h
              cases h
          | ok read =>
              rw [hrest] at h
              cases h
              exact .inr ⟨name, read.1, rfl, hrest, rfl⟩

/-- The hooks of the lines are entered without fragments, besides those that
there were. -/
theorem get?_of_segmentsFrom
    (h : segmentsFrom number text slots rest = .ok (segments, found))
    (name : String) :
    found.get? name = if name ∈ rest.filterMap hookName? then some []
      else slots.get? name := by
  induction rest generalizing number text slots segments with
  | nil =>
      cases h
      rfl
  | cons line rest ih =>
      rcases segmentsFrom_cons_cases h with
          ⟨hhook, hrest⟩ | ⟨other, more, hhook, hrest, -⟩
      · rw [List.filterMap_cons_none hhook]
        exact ih hrest
      · rw [List.filterMap_cons_some hhook, ih hrest]
        by_cases heq : name = other
        · rw [heq, Dict.get?_insert_self, if_pos List.mem_cons_self]
          exact ite_self _
        · simp [Dict.get?_insert_of_ne _ _ heq, heq]

/-- What segments have to do with the lines through the last marker: they stand
for them, their texts end where lines end, and methods find no place in them. -/
structure ReadFrom (ls : List (List Char)) (front : List Segment) : Prop where
  join_parts : ∀ content, String.join (front.flatMap (Segment.parts content)) =
    String.join ((markedLines ls).flatMap (expandedLine content))
  ends : ∀ s, .text s ∈ front → s.toList.getLast? = some '\n'
  hooks : ∀ name, .hook name ∈ front → name ∈ ls.filterMap hookName?
  no_methods : .methods ∉ front

/-- Lines without markers come to no such segments. -/
theorem readFrom_plain (h : ∀ line ∈ pending, hookName? line = none) :
    ReadFrom pending [] where
  join_parts content := by
    rw [(plainLines_eq_self h).1]
    rfl
  ends _ h := absurd h List.not_mem_nil
  hooks _ h := absurd h List.not_mem_nil
  no_methods := List.not_mem_nil

/-- A line break after a text goes after its last part. -/
theorem withLineBreak_append_eq {s t : String} (h : t.toList ≠ []) :
    withLineBreak (s ++ t) = s ++ withLineBreak t := by
  have hends : (s ++ withLineBreak t).toList.getLast? = some '\n' := by
    rw [String.toList_append, List.getLast?_append, getLast?_withLineBreak]
    rfl
  rw [← withLineBreak_append h, withLineBreak_eq hends]

/-- A marker line is not empty. -/
theorem ne_nil_of_hookName? {name : String} (h : hookName? line = some name) :
    line ≠ [] := by
  rintro rfl
  cases h.symm.trans hookName?_nil

/-- A marker closes the lines before it. -/
theorem ReadFrom.marker {name : String}
    {front : List Segment} (hpending : ∀ line ∈ pending, hookName? line = none)
    (hhook : hookName? line = some name) (h : ReadFrom rest front) :
    ReadFrom (pending ++ line :: rest)
      (.text (withLineBreak (textOf pending ++ String.ofList line)) ::
        .hook name :: front) where
  join_parts content := by
    have hline : (String.ofList line).toList ≠ [] := by
      rw [String.toList_ofList]
      exact ne_nil_of_hookName? hhook
    rw [(plainLines_marker (by simp [hhook]) pending rest).1,
      withLineBreak_append_eq hline, List.flatMap_cons,
      List.flatMap_cons, List.flatMap_append, List.flatMap_cons,
      flatMap_expandedLine_plain hpending, expandedLine, hhook]
    simp [Segment.parts, h.join_parts, join_map_ofList, String.append_assoc]
  ends s hs := by
    simp only [List.mem_cons, Segment.text.injEq, reduceCtorEq, false_or] at hs
    rcases hs with rfl | hs
    · exact getLast?_withLineBreak _
    · exact h.ends s hs
  hooks other hother := by
    simp only [List.mem_cons, Segment.hook.injEq, reduceCtorEq,
      false_or] at hother
    rw [List.filterMap_append, List.filterMap_cons_some hhook]
    refine List.mem_append_right _ ?_
    rcases hother with rfl | hother
    · exact List.mem_cons_self
    · exact List.mem_cons_of_mem _ (h.hooks other hother)
  no_methods := by
    simp only [List.mem_cons, reduceCtorEq, false_or]
    exact h.no_methods

/-- **Reading lines** gives segments for those through the last marker, and then
what comes last.  `pending` are the lines whose text no segment holds yet. -/
theorem segmentsFrom_readFrom (hpending : ∀ line ∈ pending, hookName? line = none)
    (h : segmentsFrom number (textOf pending) slots rest =
      .ok (segments, found)) :
    ∃ front, segments = front ++
      lastSegments found (textOf (plainLines (pending ++ rest))) ∧
      ReadFrom (pending ++ rest) front := by
  induction rest generalizing number slots segments pending with
  | nil =>
      cases h
      rw [List.append_nil, (plainLines_eq_self hpending).2]
      exact ⟨[], rfl, readFrom_plain hpending⟩
  | cons line rest ih =>
      -- A line that is no marker joins those that are pending; a marker closes
      -- them, and none are left.
      rcases segmentsFrom_cons_cases h with
          ⟨hhook, hrest⟩ | ⟨name, more, hhook, hrest, rfl⟩
      · have hpending' : ∀ other ∈ pending ++ [line],
            hookName? other = none := by
          simpa [or_imp, forall_and, hhook] using hpending
        rw [← textOf_singleton, ← textOf_append] at hrest
        rw [← List.singleton_append, ← List.append_assoc]
        exact ih hpending' hrest
      · have hempty := List.forall_mem_nil fun line => hookName? line = none
        rw [← textOf_nil] at hrest
        obtain ⟨front, rfl, hfront⟩ := ih hempty hrest
        rw [(plainLines_marker (by simp [hhook]) pending rest).2]
        exact ⟨_, rfl, hfront.marker hpending hhook⟩

end Read

/-- **The segments of a skeleton**: those for the lines through the last marker,
and then what comes last.  Its hooks are there without fragments. -/
theorem Weaver.readFrom_of_parse {skeleton : String} {w : Weaver}
    (h : parse skeleton = .ok w) :
    (∃ front, w.segments = front ++
      lastSegments w.slots (textOf (plainLines (lines skeleton.toList))) ∧
      ReadFrom (lines skeleton.toList) front) ∧
    (∀ name, w.slots.get? name = if name ∈ hookNames skeleton then
      some [] else none) ∧
    w.methods = [] ∧ w.warnings = [] := by
  rw [parse] at h
  cases hread : segmentsFrom 1 "" [] (lines skeleton.toList) with
  | error err =>
      rw [hread] at h
      cases h
  | ok read =>
      obtain ⟨segments, found⟩ := read
      rw [hread] at h
      cases h
      have hempty := List.forall_mem_nil fun line => hookName? line = none
      have hslots := get?_of_segmentsFrom hread
      rw [← textOf_nil] at hread
      have hspec := segmentsFrom_readFrom hempty hread
      rw [List.nil_append] at hspec
      exact ⟨hspec, hslots, rfl, rfl⟩

end ServiceLoom.Template
