import ServiceLoom.Proofs.Template.Segments

/-!
# Rendering piece by piece

Rendering substitutes in the woven text as a whole, but nothing passes from one
piece of it to another: no placeholder reaches over a line break, and what is
put in for one is not read again.  So with a hook for methods, where all pieces
but the last end where lines end, each piece is rendered as if it stood alone.

* `substitutesLocally` — what substitution is for any values;
* `Weaver.render_pieces` — what it makes of a woven text.
-/

namespace ServiceLoom.Template

/-- Substitution looks at one place at a time.  The three laws say what becomes
of any text: it is cut at its placeholders with values, and what lies between
them is left alone. -/
structure SubstitutesLocally (context : Dict String) : Prop where
  /-- Lines are substituted one by one. -/
  lineBreak : ∀ a b, substitute context (a ++ "\n" ++ b) =
    substitute context a ++ "\n" ++ substitute context b
  /-- A value stands for its placeholder as it is, whatever it looks like, alone
  or with what is beside it. -/
  value : ∀ word value, word ≠ [] → (∀ c ∈ word, Text.isWordChar c = true) →
    context.get? (String.ofList word) = some value → ∀ front back,
      substitute context (front ++ String.ofList (written word) ++ back) =
        substitute context front ++ value ++ substitute context back
  /-- A text without placeholders that have values stays as it is. -/
  unchanged : ∀ text, ¬ HasPlaceholder context text.toList →
    substitute context text = text

theorem substitutesLocally (context : Dict String) :
    SubstitutesLocally context where
  lineBreak a b := by
    have hbreak := substituteChars_lineBreak context a.toList b.toList
    simp only [← String.toList_inj, toList_substitute,
      String.toList_append, List.append_assoc]
    exact hbreak
  value word value hne hword hvalue front back := by
    have hput :=
      substituteChars_written context hne hword front.toList back.toList
    rw [replacement, hvalue] at hput
    simp only [← String.toList_inj, toList_substitute,
      String.toList_append, String.toList_ofList, List.append_assoc]
    exact hput
  unchanged text hnone := by
    rw [← String.toList_inj, toList_substitute, substituteChars_eq_self hnone]

namespace Weaver

/-- The pieces of what is woven after calls: the segments of the skeleton, and
at each hook the texts that were registered there, each with a line break at its
end. -/
def piecesAfter (w : Weaver) (calls : List Call) : List String :=
  w.segments.flatMap (Segment.parts fun name =>
    (registered calls name).map withLineBreak)

variable {skeleton : String} {w : Weaver}

/-- What is woven consists of the pieces. -/
theorem woven_eq_join_piecesAfter (h : parse skeleton = .ok w)
    (hmethods : methodsHook ∈ hookNames skeleton) (calls : List Call) :
    (w.call calls).woven = String.join (w.piecesAfter calls) := by
  obtain ⟨⟨front, hsegments, hfront⟩, hslots, hnone, -⟩ := readFrom_of_parse h
  have hcontains : w.slots.contains methodsHook = true :=
    (hasHook_iff_of_parse h hmethods _).mpr hmethods
  have htakes := call_takes hcontains calls
  rw [woven, htakes.segments, pieces_eq_parts (htakes.methods.trans hnone),
    piecesAfter]
  refine congrArg String.join (List.flatMap_congr fun segment hsegment => ?_)
  cases segment with
  | text s => rfl
  | methods => rfl
  | hook name =>
      have hname : name ∈ hookNames skeleton := by
        rw [hsegments, lastSegments, if_pos hcontains] at hsegment
        rcases List.mem_append.mp hsegment with hmem | hmem
        · exact hfront.hooks name hmem
        · cases List.mem_singleton.mp hmem
      rw [Segment.parts, Segment.parts, htakes.slots, hslots, if_pos hname]
      rfl

/-- All pieces but the last end where lines end. -/
theorem exists_piecesAfter_eq (h : parse skeleton = .ok w)
    (hmethods : methodsHook ∈ hookNames skeleton) (calls : List Call) :
    ∃ texts last, w.piecesAfter calls = texts ++ [last] ∧
      ∀ text ∈ texts, EndsLine text.toList := by
  obtain ⟨⟨front, hsegments, hfront⟩, -, -, -⟩ := readFrom_of_parse h
  have hcontains : w.slots.contains methodsHook = true :=
    (hasHook_iff_of_parse h hmethods _).mpr hmethods
  have hends : ∀ s : String, s.toList.getLast? = some '\n' →
      EndsLine s.toList :=
    fun s hs c hc => Option.some.inj (hc.symm.trans hs)
  rw [lastSegments, if_pos hcontains] at hsegments
  refine ⟨front.flatMap (Segment.parts fun name =>
    (registered calls name).map withLineBreak),
    textOf (plainLines (lines skeleton.toList)), ?_, fun text htext => ?_⟩
  · rw [piecesAfter, hsegments, List.flatMap_append, List.flatMap_singleton]
    rfl
  · obtain ⟨segment, hsegment, hmem⟩ := List.mem_flatMap.mp htext
    cases segment with
    | text s =>
        rw [List.mem_singleton.mp hmem]
        exact hends s (hfront.ends s hsegment)
    | methods => cases hmem
    | hook name =>
        obtain ⟨fragment, -, rfl⟩ := List.mem_map.mp hmem
        exact hends _ (getLast?_withLineBreak fragment)

/-- **Substitution is local, and so is rendering.** For any values, substitution
looks at one place at a time.  So for any skeleton with a hook for methods and
any calls, what is rendered are the pieces of what is woven, in order, each
substituted on its own. -/
theorem render_pieces (context : Dict String) :
    SubstitutesLocally context ∧ ∀ skeleton w, parse skeleton = .ok w →
      methodsHook ∈ hookNames skeleton → ∀ calls,
      (w.call calls).woven = String.join (w.piecesAfter calls) ∧
      (w.call calls).render context =
        String.join ((w.piecesAfter calls).map (substitute context)) := by
  refine ⟨substitutesLocally context, fun skeleton w h hmethods calls => ?_⟩
  have hwoven := woven_eq_join_piecesAfter h hmethods calls
  obtain ⟨texts, last, hpieces, hends⟩ := exists_piecesAfter_eq h hmethods calls
  refine ⟨hwoven, ?_⟩
  calc
    (w.call calls).render context =
        substitute context (String.join texts ++ last) := by
      rw [render, hwoven, hpieces, String.join_append,
        String.join_cons, String.join_nil, String.append_empty]
    _ = String.join (texts.map (substitute context)) ++
        substitute context last :=
      substitute_join_append context hends last
    _ = String.join ((w.piecesAfter calls).map (substitute context)) := by
      rw [hpieces, List.map_append, String.join_append, List.map_singleton,
        String.join_cons, String.join_nil, String.append_empty]

end Weaver

/-- A skeleton with braces that are open at the ends of its pieces, and without
a last line break. -/
def openSkeleton : String :=
  "\x7b\x7bName\n\x7d\x7d \x7b\x7b\x7bName\x7d\x7d\n// @HOOK: ADDITIONAL_METHODS\n\x7d\x7d \x7b\x7bother\x7d\x7d"

/-- A value that looks like a placeholder of its own, and closes what is open
before it. -/
def openContext : Dict String :=
  Dict.ofEntries [("Name", "Name\x7d\x7d \x7b\x7bName\x7d\x7d")]

/-- What is rendered of the skeleton: nothing is closed by what comes later, and
no value is read again. -/
theorem openSkeleton_rendered : ∃ w, Weaver.parse openSkeleton = .ok w ∧
      methodsHook ∈ hookNames openSkeleton ∧
    (w.call [.appendMethod "\x7b\x7bName",
      .inject "OTHER" "lost", .appendMethod "\x7b\x7bName\x7d\x7d"]).render
      openContext =
        "\x7b\x7bName\n\x7d\x7d \x7bName\x7d\x7d \x7b\x7bName\x7d\x7d\n// @HOOK: ADDITIONAL_METHODS\n" ++
        "\x7b\x7bName\nName\x7d\x7d \x7b\x7bName\x7d\x7d\n\x7d\x7d \x7b\x7bother\x7d\x7d" := by
  have hmethods : methodsHook ∈ hookNames openSkeleton := by decide +kernel
  obtain ⟨w, hw, hsegments⟩ : ∃ w, Weaver.parse openSkeleton = .ok w ∧
      w.segments =
      [.text "\x7b\x7bName\n\x7d\x7d \x7b\x7b\x7bName\x7d\x7d\n// @HOOK: ADDITIONAL_METHODS\n",
        .hook "ADDITIONAL_METHODS", .text "\x7d\x7d \x7b\x7bother\x7d\x7d"] := by
    refine ⟨_, rfl, ?_⟩
    decide +kernel
  obtain ⟨-, hrender⟩ :=
    (Weaver.render_pieces openContext).2 openSkeleton w hw hmethods
      [.appendMethod "\x7b\x7bName", .inject "OTHER" "lost",
        .appendMethod "\x7b\x7bName\x7d\x7d"]
  refine ⟨w, hw, hmethods, hrender.trans ?_⟩
  rw [Weaver.piecesAfter, hsegments]
  decide +kernel

end ServiceLoom.Template
