import ServiceLoom.Proofs.Template.Substitution
import ServiceLoom.Template.Skeleton
import ServiceLoom.Template.Weaver
import Mathlib.Data.List.Nodup

/-!
# What weaving makes of a skeleton

The woven text consists of the lines of the skeleton, with what was injected at
a hook right below its marker line (`Template.IsSkeleton.woven_eq`).  This needs
every line to end, and hooks with names of their own, one of them for methods;
nothing then is lost and nothing is warned about.
-/

namespace ServiceLoom.Template

/-! ## Lines -/

/-- A text goes on after its first line. -/
theorem lines_append {cs : List Char} (h : '\n' ∉ cs) (rest : List Char) :
    lines (cs ++ '\n' :: rest) = (cs ++ ['\n']) :: lines rest := by
  induction cs with
  | nil => rw [List.nil_append, lines, if_pos rfl, List.nil_append]
  | cons c cs ih =>
      obtain ⟨hc, hcs⟩ := not_or.mp (mt List.mem_cons.mpr h)
      rw [List.cons_append, lines, if_neg (Ne.symm hc), ih hcs]
      rfl

/-- Only the empty text has no lines. -/
theorem eq_nil_of_lines_eq_nil {cs : List Char} (h : lines cs = []) :
    cs = [] := by
  cases cs with
  | nil => rfl
  | cons c rest =>
      rw [lines] at h
      split at h
      · cases h
      · split at h <;> cases h

/-- A text that ends where a line ends is taken apart on its own. -/
theorem EndsLine.lines_append {front : List Char} (h : EndsLine front)
    (back : List Char) : lines (front ++ back) = lines front ++ lines back := by
  induction front with
  | nil => rfl
  | cons c front ih =>
      rw [List.cons_append, lines, lines, ih h.tail]
      split
      next => rfl
      next hc =>
        cases hfront : lines front with
        | cons line more => rfl
        | nil =>
            have hmem := h.mem_of_ne hc
            rw [eq_nil_of_lines_eq_nil hfront] at hmem
            cases hmem

/-- A line with braces in place. -/
def lineChars (line : String) : List Char := line.toList.map braceChar ++ ['\n']

/-- The lines of a text are the lines that it was made of. -/
theorem lines_textOfLines {texts : List String}
    (h : ∀ line ∈ texts, '\n' ∉ line.toList.map braceChar) :
    lines (textOfLines texts).toList = texts.map lineChars := by
  have hchars : (textOfLines texts).toList = texts.flatMap lineChars := by
    rw [textOfLines, String.toList_join, List.flatMap_map]
    refine List.flatMap_congr fun line _ => ?_
    rw [String.toList_append, String.toList_ofList]
    rfl
  rw [hchars]
  clear hchars
  induction texts with
  | nil => rfl
  | cons line rest ih =>
      rw [List.flatMap_cons, lineChars, List.append_assoc,
        List.singleton_append, lines_append (h line List.mem_cons_self),
        ih fun line hline => h line (List.mem_cons_of_mem _ hline)]
      rfl

/-! ## Skeletons -/

/-- The names of the hooks of a skeleton, in order. -/
def hookNames (skeleton : String) : List String :=
  (lines skeleton.toList).filterMap hookName?

/-- A skeleton whose lines all end, with hooks that have names of their own, one
of them for methods. -/
structure IsSkeleton (skeleton : String) : Prop where
  ends : ∀ line ∈ lines skeleton.toList, line.getLast? = some '\n'
  nodup : (hookNames skeleton).Nodup
  named : "" ∉ hookNames skeleton
  methods : methodsHook ∈ hookNames skeleton

/-- A line and what stands below it. -/
def wovenLine (content : String → List String) (line : List Char) :
    List String :=
  String.ofList line :: (hookName? line).elim [] content

/-- What a segment stands for when all methods are at their hook. -/
def Segment.parts (content : String → List String) : Segment → List String
  | .text s => [s]
  | .hook name => content name
  | .methods => []

/-- A text that ends with a line keeps its end. -/
theorem withLineBreak_eq {s : String} (h : s.toList.getLast? = some '\n') :
    withLineBreak s = s := if_pos h

/-- A marker line closes the text before it and opens a hook. -/
theorem segmentsFrom_hook
    {line : List Char} {rest : List (List Char)} {name : String} {number : Nat}
    {text : String} {slots found : Dict (List String)} {segments : List Segment}
    (hhook : hookName? line = some name) (hne : name ≠ "")
    (hslot : slots.contains name = false) (hend : line.getLast? = some '\n')
    (hrest : segmentsFrom (number + 1) "" (slots.insert name []) rest =
      .ok (segments, found)) :
    segmentsFrom number text slots (line :: rest) =
      .ok (.text (text ++ String.ofList line) :: .hook name ::
        segments, found) := by
  have hends : (text ++ String.ofList line).toList.getLast? = some '\n' := by
    rw [String.toList_append, String.toList_ofList, List.getLast?_append, hend]
    rfl
  rw [segmentsFrom, hhook]
  dsimp only
  rw [if_neg hne, hslot, hrest, withLineBreak_eq hends]
  rfl

theorem contains_insert (d : Dict (List String)) (name other : String) :
    Dict.contains (d.insert name []) other = true ↔
    other = name ∨ d.contains other = true := by
  by_cases heq : other = name
  · rw [heq, Dict.contains, Dict.get?_insert_self]
    simp
  · rw [Dict.contains, Dict.get?_insert_of_ne _ _ heq, Dict.contains]
    simp [heq]

/-- What reading lines finds after a text: their hooks, without fragments and
besides those that there were, and segments that stand for the lines. -/
structure FoundIn (text : String) (slots : Dict (List String))
    (rest : List (List Char)) (segments : List Segment)
    (found : Dict (List String)) : Prop where
  get?_found : ∀ name, found.get? name = if name ∈ rest.filterMap hookName? then
    some [] else slots.get? name
  join_parts : ∀ content,
    String.join (segments.flatMap (Segment.parts content)) =
    text ++ String.join (rest.flatMap (wovenLine content))

section Found

variable {line : List Char} {rest : List (List Char)} {name text : String}
    {slots found : Dict (List String)}
  {segments : List Segment}

/-- At the end there is the text that was read last. -/
theorem FoundIn.last (text : String)
    (hmethods : slots.contains methodsHook = true) :
    FoundIn text slots [] (lastSegments slots text) slots where
  get?_found _ := rfl
  join_parts content := by
    rw [lastSegments, if_pos hmethods]
    simp [Segment.parts]

/-- A line without a marker goes to the text. -/
theorem FoundIn.plain (hhook : hookName? line = none)
    (h : FoundIn (text ++ String.ofList line) slots rest segments found) :
    FoundIn text slots (line :: rest) segments found where
  get?_found := by
    rw [List.filterMap_cons_none hhook]
    exact h.get?_found
  join_parts content := by
    rw [h.join_parts, List.flatMap_cons, wovenLine,
      hhook, String.join_append, String.append_assoc]
    simp

/-- A marker line closes the text, and its hook comes below it. -/
theorem FoundIn.marker (hhook : hookName? line = some name)
    (h : FoundIn "" (slots.insert name []) rest segments found) :
    FoundIn text slots (line :: rest)
      (.text (text ++ String.ofList line) :: .hook name :: segments) found where
  get?_found other := by
    rw [h.get?_found, List.filterMap_cons_some hhook]
    by_cases heq : other = name
    · rw [heq, Dict.get?_insert_self, if_pos List.mem_cons_self]
      exact ite_self _
    · simp [Dict.get?_insert_of_ne _ _ heq, heq]
  join_parts content := by
    rw [List.flatMap_cons, List.flatMap_cons, String.join_append,
      String.join_append, h.join_parts, List.flatMap_cons, wovenLine, hhook,
      String.join_append]
    simp [Segment.parts, String.append_assoc]

end Found

/-- **Reading a skeleton** whose marker lines end finds its hooks, and between
them its lines. -/
theorem segmentsFrom_spec {rest : List (List Char)}
    (hends : ∀ line ∈ rest, (hookName? line).isSome → line.getLast? = some '\n')
    (hnodup : (rest.filterMap hookName?).Nodup)
    (hnamed : "" ∉ rest.filterMap hookName?)
    (number : Nat) (text : String) (slots : Dict (List String))
    (hfresh : ∀ name ∈ rest.filterMap hookName?, slots.contains name ≠ true)
    (hmethods : methodsHook ∈ rest.filterMap hookName? ∨
      slots.contains methodsHook = true) :
    ∃ segments found, segmentsFrom number text slots rest =
      .ok (segments, found) ∧
      FoundIn text slots rest segments found := by
  induction rest generalizing number text slots with
  | nil => exact ⟨_, slots, rfl, .last text (hmethods.resolve_left nofun)⟩
  | cons line rest ih =>
      have hrest : ∀ line ∈ rest, (hookName? line).isSome →
          line.getLast? = some '\n' :=
        fun line hline => hends line (List.mem_cons_of_mem _ hline)
      cases hhook : hookName? line with
      | none =>
          rw [List.filterMap_cons_none hhook] at hnodup hnamed hfresh hmethods
          obtain ⟨segments, found, hok, hfound⟩ :=
            ih hrest hnodup hnamed (number + 1) (text ++ String.ofList line)
              slots hfresh hmethods
          rw [segmentsFrom, hhook]
          exact ⟨segments, found, hok, hfound.plain hhook⟩
      | some name =>
          rw [List.filterMap_cons_some hhook] at hnodup hnamed hfresh hmethods
          obtain ⟨hname, hnodup⟩ := List.nodup_cons.mp hnodup
          obtain ⟨hne, hnamed⟩ := not_or.mp (mt List.mem_cons.mpr hnamed)
          have hfresh' : ∀ other ∈ rest.filterMap hookName?,
              Dict.contains (slots.insert name []) other ≠ true := by
            intro other hother hold
            rcases (contains_insert slots name other).mp hold with rfl | hold
            · exact hname hother
            · exact hfresh other (List.mem_cons_of_mem _ hother) hold
          have hmethods' : methodsHook ∈ rest.filterMap hookName? ∨
              Dict.contains (slots.insert name []) methodsHook = true := by
            rw [contains_insert]
            rcases hmethods with hmem | hold
            · exact (List.mem_cons.mp hmem).symm.imp_right Or.inl
            · exact Or.inr (Or.inr hold)
          obtain ⟨segments, found, hok, hfound⟩ :=
            ih hrest hnodup hnamed (number + 1) ""
              (slots.insert name []) hfresh' hmethods'
          have hslot := Bool.eq_false_iff.mpr (hfresh name List.mem_cons_self)
          have hend : line.getLast? = some '\n' :=
            hends line List.mem_cons_self (hhook ▸ rfl)
          exact ⟨_, found, segmentsFrom_hook hhook (Ne.symm hne) hslot hend hok,
            hfound.marker hhook⟩

/-! ## Injecting -/

namespace Weaver

variable {w w' w'' : Weaver}

/-- A weaver with more fragments at its hooks, and otherwise the same. -/
structure Gathers (w w' : Weaver) (content : String → List String) : Prop where
  segments : w'.segments = w.segments
  methods : w'.methods = w.methods
  warnings : w'.warnings = w.warnings
  slots : ∀ name, w'.slots.get? name =
    (w.slots.get? name).map (· ++ content name)

theorem Gathers.refl (w : Weaver) : w.Gathers w fun _ => [] :=
  ⟨rfl, rfl, rfl, fun name => by simp⟩

theorem Gathers.trans {content content' : String → List String}
    (h : w.Gathers w' content) (h' : w'.Gathers w'' content') :
    w.Gathers w'' fun name => content name ++ content' name where
  segments := h'.segments.trans h.segments
  methods := h'.methods.trans h.methods
  warnings := h'.warnings.trans h.warnings
  slots name := by simp [h'.slots, h.slots, Function.comp_def,
    List.append_assoc]

theorem Gathers.hasHook {content : String → List String}
    (h : w.Gathers w' content) (name : String) :
    w'.hasHook name = w.hasHook name := by
  rw [Weaver.hasHook, Weaver.hasHook, Dict.contains,
    Dict.contains, h.slots, Option.isSome_map]

/-- **Injecting at a hook** adds a fragment there. -/
theorem inject_gathers {hook : String} (h : w.hasHook hook = true)
    (fragment : String) :
    w.Gathers (w.inject hook fragment) fun name =>
      if hook = name then [fragment] else [] := by
  obtain ⟨fragments, hfragments⟩ := Option.isSome_iff_exists.mp h
  rw [inject, hfragments]
  refine ⟨rfl, rfl, rfl, fun name => ?_⟩
  by_cases heq : hook = name
  · rw [if_pos heq, ← heq, Dict.get?_insert_self, hfragments]
    rfl
  · simp [Dict.get?_insert_of_ne _ _ (Ne.symm heq), heq]

/-- Appending a method is injecting it at the hook for methods. -/
theorem appendMethod_eq_inject (h : w.hasHook methodsHook = true)
    (method : String) :
    w.appendMethod method = w.inject methodsHook method := by
  obtain ⟨fragments, hfragments⟩ := Option.isSome_iff_exists.mp h
  rw [appendMethod, inject, hfragments]

/-- Injects texts one after the other, each at its hook. -/
def injectAll (w : Weaver) (insertions : List (String × String)) : Weaver :=
  insertions.foldl (fun w i => w.inject i.1 i.2) w

/-- What is injected at a hook, in order. -/
def textsAt (insertions : List (String × String)) (name : String) :
    List String :=
  insertions.flatMap fun i => if i.1 = name then [i.2] else []

/-- **Injecting at hooks** adds all fragments, each at its own. -/
theorem injectAll_gathers {insertions : List (String × String)}
    (h : ∀ i ∈ insertions, w.hasHook i.1 = true) :
    w.Gathers (w.injectAll insertions) (textsAt insertions) := by
  induction insertions generalizing w with
  | nil => exact Gathers.refl w
  | cons i rest ih =>
      have hfirst := inject_gathers (h i List.mem_cons_self) i.2
      exact hfirst.trans (ih fun j hj =>
        (hfirst.hasHook j.1).trans (h j (List.mem_cons_of_mem _ hj)))

end Weaver

/-- Without methods of its own, a weaver writes for a segment what was injected
there. -/
theorem Weaver.pieces_eq_parts {w : Weaver} (h : w.methods = []) :
    w.pieces = Segment.parts fun name =>
      ((w.slots.get? name).getD []).map withLineBreak := by
  funext segment
  cases segment with
  | text s => rfl
  | hook name => rfl
  | methods =>
      rw [Weaver.pieces, h]
      rfl

/-- What a weaver writes whose segments stand for lines: the lines, and at each
marker what has come to its hook. -/
theorem Weaver.woven_of_found {w : Weaver} {ls : List (List Char)}
    {segments : List Segment} {found : Dict (List String)}
    {content : String → List String} (hfound : FoundIn "" [] ls segments found)
    (hsegments : w.segments = segments) (hmethods : w.methods = [])
    (hslots : ∀ name, w.slots.get? name =
      (found.get? name).map (· ++ content name)) :
    w.woven = String.join (ls.flatMap
      (wovenLine fun name => (content name).map withLineBreak)) := by
  rw [Weaver.woven, hsegments, Weaver.pieces_eq_parts hmethods,
    hfound.join_parts, String.empty_append]
  refine congrArg String.join (List.flatMap_congr fun line hline => ?_)
  unfold wovenLine
  cases hhook : hookName? line with
  | none => rfl
  | some name =>
      have hslot : found.get? name = some [] :=
        (hfound.get?_found name).trans
          (if_pos (List.mem_filterMap.mpr ⟨line, hline, hhook⟩))
      simp [hslots, hslot]

/-- **What is woven**: the lines of the skeleton, with what was injected at a
hook below its marker line. -/
theorem IsSkeleton.woven_eq {skeleton : String} (h : IsSkeleton skeleton) :
    ∃ w, Weaver.parse skeleton = .ok w ∧
      (∀ name ∈ hookNames skeleton, w.hasHook name = true) ∧
      ∀ insertions :
        List (String × String), (∀ i ∈ insertions, i.1 ∈ hookNames skeleton) →
        (w.injectAll insertions).warnings = [] ∧
          (w.injectAll insertions).woven =
          String.join ((lines skeleton.toList).flatMap
            (wovenLine fun name =>
              (Weaver.textsAt insertions name).map withLineBreak)) := by
  obtain ⟨segments, found, hok, hfound⟩ :=
    segmentsFrom_spec (fun line hline _ => h.ends line hline) h.nodup h.named 1
      "" [] (fun _ _ => Bool.false_ne_true) (Or.inl h.methods)
  have hslot : ∀ name ∈ hookNames skeleton, found.get? name = some [] :=
    fun name hname => (hfound.get?_found name).trans (if_pos hname)
  refine ⟨⟨segments, found, [], []⟩, ?_, fun name hname =>
    ?_, fun insertions hinsertions => ?_⟩
  · rw [Weaver.parse, hok]
    rfl
  · rw [Weaver.hasHook, Dict.contains, hslot name hname]
    rfl
  · have hgathers : Weaver.Gathers ⟨segments, found, [], []⟩
        (Weaver.injectAll ⟨segments, found, [], []⟩ insertions)
            (Weaver.textsAt insertions) := by
      refine Weaver.injectAll_gathers fun i hi => ?_
      rw [Weaver.hasHook, Dict.contains, hslot _ (hinsertions i hi)]
      rfl
    exact ⟨hgathers.warnings, Weaver.woven_of_found
      hfound hgathers.segments hgathers.methods hgathers.slots⟩

end ServiceLoom.Template
