import ServiceLoom.Proofs.Template.Segments

/-!
# Where methods go without a hook

Methods are to go before the last closing brace of a skeleton that has no hook
for them.  The brace is looked for in the lines below the last marker only.  If
none of these has a brace, the methods go to the end, behind all braces.

* `splitAtLastBrace?_eq_some_iff` — the last brace of a text;
* `Weaver.woven_methods` — what becomes of methods;
* `Weaver.methods_before_last_brace_iff` — when they go before the last brace of
  the skeleton.
-/

namespace ServiceLoom.Template

/-! ## Lines of a text -/

/-- The lines of a text make up the text, and all but the last of them end. -/
theorem lines_spec (cs : List Char) :
    (lines cs).flatten = cs ∧
      ∀ line ∈ (lines cs).dropLast, line.getLast? = some '\n' := by
  induction cs with
  | nil => exact ⟨rfl, List.forall_mem_nil _⟩
  | cons c rest ih =>
      obtain ⟨hflatten, hends⟩ := ih
      rw [lines]
      split
      next hc =>
        subst hc
        refine ⟨by rw [List.flatten_cons, hflatten]; rfl, fun line hline => ?_⟩
        cases hrest : lines rest with
        | nil =>
            rw [hrest] at hline
            cases hline
        | cons first more =>
            rw [hrest,
              List.dropLast_cons_of_ne_nil (List.cons_ne_nil _ _)] at hline
            rcases List.mem_cons.mp hline with rfl | hline
            · rfl
            · exact hends line (hrest ▸ hline)
      next hc =>
        cases hrest : lines rest with
        | nil =>
            rw [eq_nil_of_lines_eq_nil hrest]
            exact ⟨rfl, List.forall_mem_nil _⟩
        | cons first more =>
            rw [hrest] at hflatten hends
            refine ⟨by rw [← hflatten]; rfl, fun line hline => ?_⟩
            cases more with
            | nil => cases hline
            | cons next more =>
                rw [List.dropLast_cons_of_ne_nil (List.cons_ne_nil _ _)]
                  at hline hends
                rcases List.mem_cons.mp hline with rfl | hline
                · have hfirst := hends first List.mem_cons_self
                  cases first with
                  | nil => cases hfirst
                  | cons d first => rwa [List.getLast?_cons_cons]
                · exact hends line (List.mem_cons_of_mem _ hline)

/-- The text of a skeleton, with a line break at its end if its last line is a
marker. -/
def closedText (skeleton : String) : String :=
  if ((lines skeleton.toList).getLast?.bind hookName?).isSome then
    withLineBreak skeleton
  else skeleton

/-- A marker line that has no line break can only be the last line. -/
theorem closedText_eq (skeleton : String) :
    closedText skeleton = String.join
      ((lines skeleton.toList).flatMap (expandedLine fun _ => [])) := by
  obtain ⟨hflatten, hends⟩ := lines_spec skeleton.toList
  have htext : skeleton = textOf (lines skeleton.toList) := by
    rw [textOf, hflatten, String.ofList_toList]
  rw [closedText]
  rcases List.eq_nil_or_concat (lines skeleton.toList) with
      hnil | ⟨front, last, hlines⟩
  · rw [hnil] at htext ⊢
    exact htext
  · rw [List.concat_eq_append] at hlines
    rw [hlines, List.dropLast_concat] at hends
    -- The lines before the last one end, so it is the only one that may be
    -- given a line break.
    have hfront : front.flatMap (expandedLine fun _ => []) =
        front.map String.ofList := by
      rw [List.map_eq_flatMap]
      refine List.flatMap_congr fun line hline => ?_
      rw [expandedLine]
      split
      · rfl
      · rw [withLineBreak_eq (String.toList_ofList ▸ hends line hline)]
    rw [hlines, textOf_append, textOf_singleton] at htext
    rw [hlines, List.getLast?_concat, Option.bind_some, List.flatMap_append,
      List.flatMap_singleton, String.join_append, hfront, join_map_ofList,
      expandedLine]
    cases hhook : hookName? last with
    | none => simpa using htext
    | some name =>
        have hlast : (String.ofList last).toList ≠ [] := by
          rw [String.toList_ofList]
          exact ne_nil_of_hookName? hhook
        refine (if_pos rfl).trans ?_
        rw [htext, withLineBreak_append_eq hlast]
        simp

/-- The text is that of the lines through the last marker, which end, and of
those below it. -/
theorem closedText_eq_append (skeleton : String) : closedText skeleton =
    String.join ((markedLines (lines skeleton.toList)).flatMap
      (expandedLine fun _ => [])) ++
      textOf (plainLines (lines skeleton.toList)) := by
  have hplain :
      (plainLines (lines skeleton.toList)).flatMap (expandedLine fun _ => []) =
      (plainLines (lines skeleton.toList)).map String.ofList :=
    flatMap_expandedLine_plain (fun line hline =>
      hookName?_of_mem_plainLines hline) _
  rw [closedText_eq, ← join_map_ofList, ← hplain, ← String.join_append,
    ← List.flatMap_append, markedLines_append_plainLines]

/-! ## The last brace -/

/-- A text is cut right before its last closing brace. -/
structure LastBrace (text before after : String) : Prop where
  text_eq : text = before ++ after
  last : ∃ rest, after.toList = '\x7d' :: rest ∧ '\x7d' ∉ rest

theorem LastBrace.append_left {text before after : String}
    (h : LastBrace text before after) (front : String) :
    LastBrace (front ++ text) (front ++ before) after where
  text_eq := by rw [h.text_eq, String.append_assoc]
  last := h.last

/-- A text with a brace is cut before its last one. -/
theorem exists_splitAtLastBrace? {s : String} (h : '\x7d' ∈ s.toList) :
    ∃ before after, splitAtLastBrace? s = some (before, after) ∧
      LastBrace s before after := by
  -- Read from the end, the last brace is the first.
  have hsplit :=
    List.takeWhile_append_dropWhile (p := (· ≠ '\x7d')) (l := s.toList.reverse)
  cases hback : s.toList.reverse.dropWhile (· ≠ '\x7d') with
  | nil =>
      have hnone :=
        List.dropWhile_eq_nil_iff.mp hback '\x7d' (List.mem_reverse.mpr h)
      simp at hnone
  | cons brace before =>
      obtain rfl : brace = '\x7d' := by
        have hhead := List.head?_dropWhile_not (· ≠ '\x7d') s.toList.reverse
        rw [hback] at hhead
        simpa using hhead
      rw [hback] at hsplit
      rw [splitAtLastBrace?, hback]
      refine ⟨_, _, rfl, ?_, _, String.toList_ofList, fun hmem => ?_⟩
      · rw [← String.toList_inj, String.toList_append, String.toList_ofList,
          String.toList_ofList, ← List.reverse_inj]
        exact hsplit.symm.trans (by simp)
      · have hnot := List.mem_takeWhile_imp (List.mem_reverse.mp hmem)
        simp at hnot

/-- A text without braces is not cut. -/
theorem splitAtLastBrace?_eq_none {s : String} (h : '\x7d' ∉ s.toList) :
    splitAtLastBrace? s = none := by
  have hall : s.toList.reverse.dropWhile (· ≠ '\x7d') = [] := by
    refine List.dropWhile_eq_nil_iff.mpr fun c hc => ?_
    simpa using fun heq : c = '\x7d' => h (heq ▸ List.mem_reverse.mp hc)
  rw [splitAtLastBrace?, hall]

/-- A closing brace stands below the last marker. -/
def BraceBelow (skeleton : String) : Prop :=
  '\x7d' ∈ (textOf (plainLines (lines skeleton.toList))).toList

instance (skeleton : String) : Decidable (BraceBelow skeleton) :=
  inferInstanceAs
    (Decidable ('\x7d' ∈ (textOf (plainLines (lines skeleton.toList))).toList))

/-! ## Methods -/

namespace Weaver

variable {skeleton : String} {w : Weaver}

/-- Without a hook for them methods are kept apart. -/
theorem call_appendMethod (h : w.slots.get? methodsHook = none)
    (methods : List String) :
    w.call (methods.map .appendMethod) =
      { w with methods := w.methods ++ methods } := by
  induction methods generalizing w with
  | nil => simp [call]
  | cons method rest ih =>
      have hfirst : w.appendMethod method =
          { w with methods := w.methods ++ [method] } := by
        rw [appendMethod, h]
      have hrest := ih (w := w.appendMethod method) (by rw [hfirst]; exact h)
      rw [List.map_cons, call, List.foldl_cons, ← call, Call.run, hrest, hfirst]
      simp

/-- **What becomes of methods**: they go before the last brace below the last
marker, or to the end. -/
theorem woven_methods (h : parse skeleton = .ok w)
    (hnone : methodsHook ∉ hookNames skeleton) (methods : List String) :
    (w.call (methods.map .appendMethod)).woven =
      String.join ((markedLines (lines skeleton.toList)).flatMap
        (expandedLine fun _ => [])) ++
        match splitAtLastBrace? (textOf (plainLines (lines skeleton.toList))) with
        | some (before, after) =>
            before ++ String.join (methods.map withLineBreak) ++ after
        | none =>
            textOf (plainLines (lines skeleton.toList)) ++
              String.join (methods.map withLineBreak) := by
  obtain ⟨⟨front, hsegments, hfront⟩, hslots, hmethods, -⟩ :=
    readFrom_of_parse h
  have hslot : w.slots.get? methodsHook = none :=
    (hslots methodsHook).trans (if_neg hnone)
  have hcall := call_appendMethod hslot methods
  generalize w.call (methods.map .appendMethod) = full at hcall ⊢
  obtain ⟨hsame, hslots', hmethods'⟩ : full.segments = w.segments ∧
      full.slots = w.slots ∧ full.methods = methods := by
    rw [hcall, hmethods]
    exact ⟨rfl, rfl, rfl⟩
  have hfull : ∀ segment ∈ front, full.pieces segment =
      segment.parts fun _ => [] := by
    intro segment hsegment
    cases segment with
    | text s => rfl
    | methods => exact absurd hsegment hfront.no_methods
    | hook name =>
        rw [pieces, hslots', hslots, Segment.parts]
        split <;> rfl
  have hcontains : w.slots.contains methodsHook = false := by
    rw [Dict.contains, hslot]
    rfl
  rw [woven, hsame, hsegments, List.flatMap_append, List.flatMap_congr hfull,
    String.join_append, hfront.join_parts, lastSegments, hcontains,
    if_neg Bool.false_ne_true]
  refine congrArg _ ?_
  cases splitAtLastBrace? (textOf (plainLines (lines skeleton.toList))) with
  | none => simp [pieces, hmethods']
  | some cut => simp [pieces, hmethods', String.append_assoc]

/-- **When methods go before the last brace.** Without a hook for methods, a
skeleton with a brace is cut before its last one.  If a brace stands below the
last marker, the methods go there, in the order of the calls and each with a
line break at its end; if not, they go behind everything.  So that they always
go before the last brace is true of the skeletons with a brace below the last
marker, and of no others. -/
theorem methods_before_last_brace_iff
    (h : parse skeleton = .ok w) (hnone : methodsHook ∉ hookNames skeleton)
    (hbrace : '\x7d' ∈ skeleton.toList) :
    ∃ before after, LastBrace (closedText skeleton) before after ∧
      (∀ methods : List String, (w.call (methods.map .appendMethod)).woven =
        if BraceBelow skeleton then
          before ++ String.join (methods.map withLineBreak) ++ after
        else before ++ after ++ String.join (methods.map withLineBreak)) ∧
      ((∀ methods : List String, (w.call (methods.map .appendMethod)).woven =
        before ++ String.join (methods.map withLineBreak) ++ after) ↔
          BraceBelow skeleton) := by
  have hwoven := woven_methods h hnone
  have hclosed := closedText_eq_append skeleton
  by_cases hbelow : BraceBelow skeleton
  · obtain ⟨before, after, hcut, hlast⟩ := exists_splitAtLastBrace? hbelow
    have hplaced : ∀ methods :
        List String, (w.call (methods.map .appendMethod)).woven =
        String.join ((markedLines (lines skeleton.toList)).flatMap
          (expandedLine fun _ => [])) ++ before ++
          String.join (methods.map withLineBreak) ++ after := by
      intro methods
      rw [hwoven, hcut]
      simp only [String.append_assoc]
    refine ⟨_, after, hclosed ▸ hlast.append_left _,
      fun methods => ?_, iff_of_true hplaced hbelow⟩
    rw [if_pos hbelow, hplaced]
  · -- The last brace stands above the last marker, and the text below has none
    -- to stop at.
    have hin : '\x7d' ∈ (closedText skeleton).toList := by
      unfold closedText withLineBreak
      split
      · split
        · exact hbrace
        · exact String.toList_append ▸ List.mem_append_left _ hbrace
      · exact hbrace
    obtain ⟨before, after, -, hlast⟩ := exists_splitAtLastBrace? hin
    have hend : ∀ methods :
        List String, (w.call (methods.map .appendMethod)).woven =
        before ++ after ++ String.join (methods.map withLineBreak) := by
      intro methods
      rw [hwoven, splitAtLastBrace?_eq_none hbelow,
        ← String.append_assoc, ← hclosed, hlast.text_eq]
    refine ⟨before, after, hlast, fun methods => ?_,
      iff_of_false (fun hall => ?_) hbelow⟩
    · rw [if_neg hbelow, hend]
    · -- An empty method shows where it went: the line break is behind the
      -- brace.
      obtain ⟨rest, hrest, -⟩ := hlast.last
      have hempty := (hend [""]).symm.trans (hall [""])
      rw [String.append_assoc, String.append_assoc, String.append_right_inj,
        ← String.toList_inj, String.toList_append, String.toList_append,
        hrest] at hempty
      cases hempty

end Weaver

/-- A block with a marker in it. -/
def blockSkeleton : String := "impl Shelf \x7b\n    // @HOOK: BEFORE\n\x7d\n"

/-- Methods go to the end of the block, in the order of the calls. -/
theorem blockSkeleton_extended : ∃ w, Weaver.parse blockSkeleton = .ok w ∧
      methodsHook ∉ hookNames blockSkeleton ∧
    '\x7d' ∈ blockSkeleton.toList ∧ BraceBelow blockSkeleton ∧
    ∃ before after, LastBrace (closedText blockSkeleton) before after ∧
      (w.call [.appendMethod "    fn one() \x7b\x7d",
        .appendMethod "    fn two() \x7b\x7d\n"]).woven =
        before ++ "    fn one() \x7b\x7d\n    fn two() \x7b\x7d\n" ++ after := by
  obtain ⟨w, hw⟩ : ∃ w, Weaver.parse blockSkeleton = .ok w := ⟨_, rfl⟩
  have hnone : methodsHook ∉ hookNames blockSkeleton := by decide +kernel
  have hbrace : '\x7d' ∈ blockSkeleton.toList := by decide +kernel
  have hbelow : BraceBelow blockSkeleton := by decide +kernel
  obtain ⟨before, after, hlast, -, hplaced⟩ :=
    Weaver.methods_before_last_brace_iff hw hnone hbrace
  refine ⟨w, hw, hnone, hbrace, hbelow, before, after, hlast, ?_⟩
  exact hplaced.mpr hbelow ["    fn one() \x7b\x7d", "    fn two() \x7b\x7d\n"]

/-- A block with a marker below it. -/
def footedSkeleton : String := "impl Shelf \x7b\n\x7d\n// @HOOK: AFTER\n"

/-- A method does not go before the last brace of the skeleton, but out of the
block and behind the marker. -/
theorem footedSkeleton_outside : ∃ w, Weaver.parse footedSkeleton = .ok w ∧
    methodsHook ∉ hookNames footedSkeleton ∧ '\x7d' ∈ footedSkeleton.toList ∧
    LastBrace (closedText footedSkeleton) "impl Shelf \x7b\n"
      "\x7d\n// @HOOK: AFTER\n" ∧
    (w.call [.appendMethod "    fn one() \x7b\x7d"]).woven =
      "impl Shelf \x7b\n\x7d\n// @HOOK: AFTER\n    fn one() \x7b\x7d\n" ∧
    (w.call [.appendMethod "    fn one() \x7b\x7d"]).woven ≠
      "impl Shelf \x7b\n" ++ "    fn one() \x7b\x7d\n" ++
        "\x7d\n// @HOOK: AFTER\n" := by
  obtain ⟨w, hw⟩ : ∃ w, Weaver.parse footedSkeleton = .ok w := ⟨_, rfl⟩
  have hnone : methodsHook ∉ hookNames footedSkeleton := by decide +kernel
  have hwoven : (w.call [.appendMethod "    fn one() \x7b\x7d"]).woven =
      "impl Shelf \x7b\n\x7d\n// @HOOK: AFTER\n    fn one() \x7b\x7d\n" :=
    (Weaver.woven_methods hw hnone ["    fn one() \x7b\x7d"]).trans
      (by decide +kernel)
  refine ⟨w, hw, hnone, by
    decide +kernel, ⟨by decide +kernel, _, rfl, by decide +kernel⟩, hwoven, ?_⟩
  rw [hwoven]
  decide +kernel

end ServiceLoom.Template
