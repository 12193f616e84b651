import ServiceLoom.Proofs.Generation.ServiceText
import ServiceLoom.Proofs.Template.LegalNames
import ServiceLoom.Proofs.Text.Literal

/-!
# Where a slug stands in generated code

A slug may hold any characters, and it is put into generated code in six forms:
as two names, as three literals, and once as it is, in the comment above the
type of the service.  The names and the literals stay within their line,
whatever the slug.  So every line of the skeletons is one line of the generated
module, but for the comment: what follows a line break in the slug stands below
the comment, as code.

* `substituteChars_eq_flatMap` — a text is filled in part by part;
* `contextOf_isSealed` — names and literals;
* `slug_confined` — the lines of a generated module.
-/

namespace ServiceLoom.Template

/-! ## Parts of a text -/

/-- A part of a text: a character that stands for itself, or the word of a
placeholder. -/
inductive Part where
  | char (c : Char)
  | placeholder (word : List Char)
deriving DecidableEq

/-- The parts of a text. -/
def parts : List Char → List Part
  | [] => []
  | '\x7b' :: '\x7b' :: cs =>
    match h : placeholder? cs with
    | some (word, rest) =>
      have := length_lt_of_placeholder? h
      .placeholder word :: parts rest
    | none => .char '\x7b' :: parts ('\x7b' :: cs)
  | c :: cs => .char c :: parts cs
termination_by cs => cs.length
decreasing_by all_goals simp_wf; try omega

/-- What is put in for a part. -/
def Part.fill (context : Dict String) : Part → List Char
  | char c => [c]
  | placeholder word => replacement context word

/-- What stands for a part in the text. -/
def Part.source : Part → List Char
  | char c => [c]
  | placeholder word => written word

/-- **A text is filled in part by part.** -/
theorem substituteChars_eq_flatMap (context : Dict String) (cs : List Char) :
    substituteChars context cs = (parts cs).flatMap (Part.fill context) ∧
    cs = (parts cs).flatMap Part.source := by
  induction cs using parts.induct with
  | case1 => simp [substituteChars, parts]
  | case2 cs word rest hsome _ ih =>
      obtain ⟨-, -, hcs⟩ := eq_of_placeholder?_eq_some hsome
      have hparts : parts ('\x7b' :: '\x7b' :: cs) =
          .placeholder word :: parts rest := by
        rw [parts]
        split
        next heq =>
          rw [hsome] at heq
          cases heq
          rfl
        next heq =>
          rw [hsome] at heq
          cases heq
      rw [hparts, substituteChars_of_some context hsome,
        List.flatMap_cons, List.flatMap_cons, ← ih.1, ← ih.2]
      refine ⟨rfl, ?_⟩
      rw [hcs, Part.source, written]
      simp
  | case3 cs hnone ih =>
      have hparts : parts ('\x7b' :: '\x7b' :: cs) =
          .char '\x7b' :: parts ('\x7b' :: cs) := by
        rw [parts]
        split
        next heq =>
          rw [hnone] at heq
          cases heq
        · rfl
      rw [hparts, substituteChars_of_none context hnone,
        List.flatMap_cons, List.flatMap_cons, ← ih.1, ← ih.2]
      exact ⟨rfl, rfl⟩
  | case4 c cs hne ih =>
      have hparts : parts (c :: cs) = .char c :: parts cs := by
        rw [parts]
        exact hne
      rw [hparts, substituteChars_of_ne context hne,
        List.flatMap_cons, List.flatMap_cons, ← ih.1, ← ih.2]
      exact ⟨rfl, rfl⟩

/-! ## Literals and names -/

/-- A text that stays where it is put: a literal, which is read back up to its
closing quote, or a name. -/
def IsSealed (value : String) : Prop :=
  (∃ t, value = Text.Literal.encode t ∧
    ∀ rest, Text.Literal.read? (value.toList ++ rest) = some (t, rest)) ∨
    IsIdentifier value

/-- A written character breaks no line. -/
theorem lineBreak_notMem_escapeChar (c : Char) :
    '\n' ∉ Text.Literal.escapeChar c := by
  have hdigits : ∀ d < 16, Nat.digitChar d ≠ '\n' := by decide
  unfold Text.Literal.escapeChar
  split
  case h_7 hne _ =>
    split
    · simp only [List.mem_append, not_or]
      refine ⟨⟨by decide, fun hmem => ?_⟩, by decide⟩
      obtain ⟨d, hd, heq⟩ := Text.exists_digitChar_of_mem_hexDigits hmem
      exact hdigits d hd heq.symm
    · rw [List.mem_singleton]
      exact fun heq => hne heq.symm
  all_goals decide

/-- **What is sealed breaks no line.** -/
theorem IsSealed.lineBreak_notMem {value : String} (h : IsSealed value) :
    '\n' ∉ value.toList := by
  rcases h with ⟨t, rfl, -⟩ | hname
  · intro hmem
    rw [Text.Literal.encode, String.toList_ofList] at hmem
    rcases List.mem_cons.mp hmem with heq | hmem
    · cases heq
    · rcases List.mem_append.mp hmem with hmem | hmem
      · obtain ⟨c, -, hc⟩ := List.mem_flatMap.mp hmem
        exact lineBreak_notMem_escapeChar c hc
      · revert hmem
        decide
  · intro hmem
    have hchar := hname.chars _ hmem
    revert hchar
    decide

/-- A literal stays where it is put. -/
theorem isSealed_encode (t : String) : IsSealed (Text.Literal.encode t) :=
  .inl ⟨t, rfl, Text.Literal.read?_encode t⟩

/-- Letters and digits that start with a letter are a name. -/
theorem IsTypePrefix.isIdentifier {name : String} (h : IsTypePrefix name) :
    IsIdentifier name where
  ne_empty := h.ne_empty
  chars := fun c hc => .inl (h.chars c hc)
  starts := by
    intro c hc
    refine Bool.eq_false_iff.mpr fun hdigit => ?_
    have hlast : c.val ≤ '9'.val :=
      of_decide_eq_true (Bool.and_eq_true_iff.mp hdigit).2
    have hfirst : 'A'.val ≤ c.val := by
      rcases Bool.or_eq_true_iff.mp (h.starts c hc) with hupper | hlower
      · exact (of_decide_eq_true hupper).1
      · have hsmall : 'a'.val ≤ c.val :=
          of_decide_eq_true (Bool.and_eq_true_iff.mp hlower).1
        exact UInt32.le_trans (by decide) hsmall
    exact absurd (UInt32.le_trans hfirst hlast) (by decide)

/-- The words of the placeholders for names and literals. -/
def sealedWords : List String :=
  ["EntityName", "slug_literal", "module", "route", "item_route"]

/-- The values of a slug, by their words. -/
theorem contextOf_eq (slug : String) :
    contextOf slug = [("EntityName", typeName slug),
    ("item_route", Text.Literal.encode ("/api/" ++ slug ++ "/\x7bid\x7d")),
      ("module", moduleName slug),
    ("route", Text.Literal.encode ("/api/" ++ slug)),
      ("slug", slug), ("slug_literal", Text.Literal.encode slug)] := by
  simp only [contextOf, Dict.ofEntries, Dict.merge, Dict.insert, List.foldl_cons,
    List.foldl_nil, String.reduceLT, String.reduceEq, if_true, if_false]

/-- **All placeholders but one stand for a name or a literal**, whatever the
slug. -/
theorem contextOf_isSealed (slug : String) {word : String}
    (h : word ∈ sealedWords) :
    ∃ value, (contextOf slug).get? word = some value ∧ IsSealed value := by
  rw [contextOf_eq]
  simp only [sealedWords, List.mem_cons, List.not_mem_nil, or_false] at h
  rcases h with rfl | rfl | rfl | rfl | rfl
  · exact ⟨typeName slug, rfl, .inr (typeName_isTypePrefix slug).isIdentifier⟩
  · exact ⟨_, rfl, isSealed_encode slug⟩
  · exact ⟨moduleName slug, rfl, .inr (moduleName_identifier slug)⟩
  · exact ⟨_, rfl, isSealed_encode _⟩
  · exact ⟨_, rfl, isSealed_encode _⟩

/-! ## Lines of a skeleton -/

/-- The characters of a line of a skeleton, without its line break. -/
def lineText (line : String) : List Char := line.toList.map braceChar

/-- What becomes of a line of a skeleton. -/
def filledLine (slug line : String) : List Char :=
  substituteChars (contextOf slug) (lineChars line)

/-- Whether a part is a character, or stands for a name or a literal. -/
def Part.isSealed : Part → Bool
  | char _ => true
  | placeholder word => sealedWords.contains (String.ofList word)

/-- A line of a skeleton in which a slug stands as names and literals only. -/
def IsSealedLine (cs : List Char) : Prop :=
  '\n' ∉ cs ∧ (parts cs).all Part.isSealed = true

instance : DecidablePred IsSealedLine := fun cs => by
  unfold IsSealedLine
  infer_instance

/-- What becomes of a line that confines a slug. -/
structure Confines (slug line : String) : Prop where
  /-- The characters of the line stay where they are, and the values of its
  placeholders stand between them. -/
  filled : filledLine slug line =
    (parts (lineText line)).flatMap (Part.fill (contextOf slug)) ++ ['\n']
  sealed : ∀ word, .placeholder word ∈ parts (lineText line) →
    ∃ value, (contextOf slug).get? (String.ofList word) = some value ∧
      IsSealed value
  unbroken : '\n' ∉ (parts (lineText line)).flatMap (Part.fill (contextOf slug))

/-- **Names and literals are confined to their line.** -/
theorem IsSealedLine.confines {line : String} (h : IsSealedLine (lineText line))
    (slug : String) : Confines slug line := by
  obtain ⟨hbreak, hparts⟩ := h
  obtain ⟨hfill, hsource⟩ :=
    substituteChars_eq_flatMap (contextOf slug) (lineText line)
  have hsealed : ∀ word, .placeholder word ∈ parts (lineText line) →
      ∃ value, (contextOf slug).get? (String.ofList word) = some value ∧
          IsSealed value := by
    intro word hword
    exact contextOf_isSealed slug
      (List.contains_iff_mem.mp (List.all_eq_true.mp hparts _ hword))
  refine ⟨?_, hsealed, fun hmem => ?_⟩
  · rw [← hfill, filledLine, lineChars, substituteChars_lineBreak,
      substituteChars]
    rfl
  · obtain ⟨part, hpart, hin⟩ := List.mem_flatMap.mp hmem
    cases part with
    | char c =>
        obtain rfl : '\n' = c := List.mem_singleton.mp hin
        rw [hsource] at hbreak
        exact hbreak (List.mem_flatMap.mpr ⟨_, hpart, List.mem_singleton_self _⟩)
    | placeholder word =>
        obtain ⟨value, hvalue, hsealed⟩ := hsealed word hpart
        rw [Part.fill, replacement, hvalue] at hin
        exact hsealed.lineBreak_notMem hin

/-- A line that confines a slug is one line of the generated module. -/
theorem Confines.lines_eq {slug line : String} (h : Confines slug line) :
    lines (filledLine slug line) = [filledLine slug line] := by
  rw [h.filled]
  exact lines_append h.unbroken []

/-! ## The skeletons -/

/-- The line of a service that has the slug as it is. -/
def slugLine : String := "/// CRUD service for `‹‹slug››` rows."

/-- The comment above the type of a service. -/
def slugComment (slug : String) : String :=
  "/// CRUD service for `" ++ slug ++ "` rows.\n"

/-- The lines of the skeletons by their characters. -/
theorem sealedLines_spelled :
    (∃ chars : List (List Char), serviceLines = chars.map String.ofList ∧
      ∀ cs ∈ chars.take 11 ++ chars.drop 12, IsSealedLine (cs.map braceChar)) ∧
    ∃ chars : List (List Char), routesLines = chars.map String.ofList ∧
      ∀ cs ∈ chars, IsSealedLine (cs.map braceChar) := by
  unfold serviceLines routesLines
  dsimp only
  constructor
  · repeat refine exists_spelled_cons rfl ?_
    refine ⟨[], rfl, ?_⟩
    decide +kernel
  · repeat refine exists_spelled_cons rfl ?_
    refine ⟨[], rfl, ?_⟩
    decide +kernel

/-- The lines of a service but that of the slug, which confine it. -/
theorem serviceLines_confine :
    ∃ before after, serviceLines = before ++ slugLine :: after ∧
    ∀ line ∈ before ++ after, ∀ slug, Confines slug line := by
  obtain ⟨⟨chars, hspelled, hsealed⟩, -⟩ := sealedLines_spelled
  refine ⟨serviceLines.take 11, serviceLines.drop 12,
    rfl, fun line hline slug => ?_⟩
  rw [hspelled, ← List.map_take, ← List.map_drop, ← List.map_append] at hline
  obtain ⟨cs, hcs, rfl⟩ := List.mem_map.mp hline
  refine IsSealedLine.confines ?_ slug
  rw [lineText, String.toList_ofList]
  exact hsealed cs hcs

/-- All lines of the routes confine the slug. -/
theorem routesLines_confine {line : String} (h : line ∈ routesLines)
    (slug : String) : Confines slug line := by
  obtain ⟨-, chars, hspelled, hsealed⟩ := sealedLines_spelled
  rw [hspelled] at h
  obtain ⟨cs, hcs, rfl⟩ := List.mem_map.mp h
  refine IsSealedLine.confines ?_ slug
  rw [lineText, String.toList_ofList]
  exact hsealed cs hcs

/-- A text without braces is left alone. -/
theorem substituteChars_of_brace_notMem (context : Dict String) {cs : List Char}
    (h : '\x7b' ∉ cs) : substituteChars context cs = cs := by
  refine substituteChars_eq_self ?_
  rintro ⟨front, word, back, rfl, -⟩
  refine h (List.mem_append_right _ (List.mem_append_left _ ?_))
  exact List.mem_cons_self

theorem toList_slugComment (slug : String) :
    (slugComment slug).toList = "/// CRUD service for `".toList ++
      (slug.toList ++ "` rows.\n".toList) := by
  have hthree : ∀ a b c :
      String, (a ++ b ++ c).toList = a.toList ++ (b.toList ++ c.toList) := by
    intro a b c
    rw [String.toList_append, String.toList_append, List.append_assoc]
  exact hthree _ _ _

/-- The slug stands in the comment as it is. -/
theorem filledLine_slugLine (slug : String) :
    filledLine slug slugLine = (slugComment slug).toList := by
  have hline : lineChars slugLine =
      "/// CRUD service for `".toList ++
        (written "slug".toList ++ "` rows.\n".toList) := by decide +kernel
  have hword : "slug".toList.all Text.isWordChar = true := by decide +kernel
  have hvalue : replacement (contextOf slug) "slug".toList = slug.toList := by
    rw [contextOf_eq]
    rfl
  rw [filledLine, hline, substituteChars_written (contextOf slug) (by decide)
      (List.all_eq_true.mp hword),
    hvalue, substituteChars_of_brace_notMem _ (by decide +kernel),
    substituteChars_of_brace_notMem _ (by decide +kernel), toList_slugComment]

/-! ## Lines of a module -/

/-- A text has one line for each of its line breaks. -/
theorem EndsLine.length_lines {cs : List Char} (h : EndsLine cs) :
    (lines cs).length = cs.count '\n' := by
  induction cs with
  | nil => rfl
  | cons c cs ih =>
      have hrest := ih h.tail
      rw [lines]
      split
      next hc =>
        rw [hc, List.count_cons_self, List.length_cons, hrest]
      next hc =>
        rw [List.count_cons_of_ne hc, ← hrest]
        cases hlines : lines cs with
        | cons line more => rfl
        | nil =>
            have hmem := h.mem_of_ne hc
            rw [eq_nil_of_lines_eq_nil hlines] at hmem
            cases hmem

/-- Texts that each end where a line ends have their lines one after the
other. -/
theorem lines_flatMap {α : Type} {f : α → List Char} {xs : List α}
    (h : ∀ x ∈ xs, EndsLine (f x)) :
    lines (xs.flatMap f) = xs.flatMap fun x => lines (f x) := by
  induction xs with
  | nil => rfl
  | cons x rest ih =>
      rw [List.flatMap_cons, List.flatMap_cons,
        (h x List.mem_cons_self).lines_append,
        ih fun y hy => h y (List.mem_cons_of_mem _ hy)]

/-- A skeleton is filled in line by line. -/
theorem toList_substitute_textOfLines (slug : String) (texts : List String) :
    (substitute (contextOf slug) (textOfLines texts)).toList =
      texts.flatMap (filledLine slug) := by
  have hends : ∀ text ∈ texts.map fun line =>
      String.ofList (line.toList.map braceChar) ++ "\n",
      EndsLine text.toList := by
    refine List.forall_mem_map.mpr fun line _ => ?_
    rw [String.toList_append, String.toList_ofList]
    exact endsLine_concat _
  rw [textOfLines, substitute_join _ hends, String.toList_join,
    List.flatMap_map, List.flatMap_map]
  refine List.flatMap_congr fun line _ => ?_
  rw [toList_substitute, String.toList_append, String.toList_ofList]
  rfl

/-- The end of a line stays where it is. -/
theorem endsLine_filledLine (slug line : String) :
    EndsLine (filledLine slug line) := by
  rw [filledLine, lineChars, substituteChars_lineBreak, substituteChars]
  exact endsLine_concat _

/-- **The lines of a module** are those of the lines of its skeleton. -/
theorem lines_substitute (slug : String) (texts : List String) :
    lines (substitute (contextOf slug) (textOfLines texts)).toList =
      texts.flatMap fun line => lines (filledLine slug line) := by
  rw [toList_substitute_textOfLines,
    lines_flatMap fun line _ => endsLine_filledLine slug line]

/-- Lines that confine a slug are as many as before. -/
theorem flatMap_lines_filledLine {slug : String} {texts : List String}
    (h : ∀ line ∈ texts, Confines slug line) :
    (texts.flatMap fun line => lines (filledLine slug line)) =
      texts.map (filledLine slug) := by
  rw [List.map_eq_flatMap]
  exact List.flatMap_congr fun line hline => (h line hline).lines_eq

/-- The comment has a line more for every line break in the slug. -/
theorem length_lines_slugComment (slug : String) :
    (lines (slugComment slug).toList).length = slug.toList.count '\n' + 1 := by
  have hends : EndsLine (slugComment slug).toList :=
    filledLine_slugLine slug ▸ endsLine_filledLine slug slugLine
  have hfront : ("/// CRUD service for `".toList).count '\n' = 0 := by
    decide +kernel
  have hback : ("` rows.\n".toList).count '\n' = 1 := by decide +kernel
  rw [hends.length_lines, toList_slugComment, List.count_append,
    List.count_append, hfront, hback, Nat.zero_add]

theorem length_lines_routesSkeleton :
    (lines routesSkeleton.toList).length = routesLines.length := by
  obtain ⟨-, chars, hspelled, hsealed⟩ := sealedLines_spelled
  have hunbroken : ∀ line ∈ routesLines, '\n' ∉ line.toList.map braceChar := by
    intro line hline
    rw [hspelled] at hline
    obtain ⟨cs, hcs, rfl⟩ := List.mem_map.mp hline
    rw [String.toList_ofList]
    exact (hsealed cs hcs).1
  rw [routesSkeleton, lines_textOfLines hunbroken, List.length_map]

theorem length_lines_serviceSkeleton :
    (lines serviceSkeleton.toList).length = serviceLines.length := by
  rw [hookNames_serviceSkeleton.1, List.length_map]

/-- The lines of a service: those of the skeleton, and between them the
comment. -/
theorem exists_lines_service (slug : String) :
    ∃ before after, serviceLines = before ++ slugLine :: after ∧
    (∀ line ∈ before ++ after, Confines slug line) ∧
      lines (substitute (contextOf slug) serviceSkeleton).toList =
        before.map (filledLine slug) ++
          (lines (slugComment slug).toList ++ after.map (filledLine slug)) := by
  obtain ⟨before, after, hlines, hconfine⟩ := serviceLines_confine
  refine ⟨before, after, hlines, fun line hline => hconfine line hline slug, ?_⟩
  rw [serviceSkeleton, lines_substitute, hlines, List.flatMap_append,
    List.flatMap_cons, filledLine_slugLine, flatMap_lines_filledLine
      fun line hline => hconfine line (List.mem_append_left _ hline) slug,
    flatMap_lines_filledLine fun line hline =>
      hconfine line (List.mem_append_right _ hline) slug]

/-- A service has a line more than its skeleton for every line break in the
slug. -/
theorem length_lines_service (slug : String) :
    (lines (substitute (contextOf slug) serviceSkeleton).toList).length =
    (lines serviceSkeleton.toList).length + slug.toList.count '\n' := by
  obtain ⟨before, after, hlines, -, hmodule⟩ := exists_lines_service slug
  rw [hmodule, length_lines_serviceSkeleton, hlines]
  simp only [List.length_append, List.length_map, List.length_cons,
    length_lines_slugComment]
  omega

/-- **Where a slug stands in the modules that are generated for it.** Every line
of the routes is one line, in which the slug stands as names and literals, and
so is every line of a service but one.  There the slug stands as it is, at the
end of a comment, and brings a line of its own for every line break in it; the
service has as many lines as its skeleton exactly when there is none. -/
theorem slug_confined (slug : String) :
    ((∀ line ∈ routesLines, Confines slug line) ∧
      lines (substitute (contextOf slug) routesSkeleton).toList =
        routesLines.map (filledLine slug) ∧
      (lines (substitute (contextOf slug) routesSkeleton).toList).length =
        (lines routesSkeleton.toList).length) ∧
    (∃ before after, serviceLines = before ++ slugLine :: after ∧
      (∀ line ∈ before ++ after, Confines slug line) ∧
      lines (substitute (contextOf slug) serviceSkeleton).toList =
        before.map (filledLine slug) ++
          (lines (slugComment slug).toList ++ after.map (filledLine slug))) ∧
    (lines (slugComment slug).toList).length = slug.toList.count '\n' + 1 ∧
    ((lines (substitute (contextOf slug) serviceSkeleton).toList).length =
      (lines serviceSkeleton.toList).length ↔
      '\n' ∉ slug.toList) := by
  have hconfine : ∀ line ∈ routesLines, Confines slug line :=
    fun line hline => routesLines_confine hline slug
  have hroutes : lines (substitute (contextOf slug) routesSkeleton).toList =
      routesLines.map (filledLine slug) := by
    rw [routesSkeleton, lines_substitute, flatMap_lines_filledLine hconfine]
  refine ⟨⟨hconfine, hroutes, ?_⟩, exists_lines_service slug,
    length_lines_slugComment slug, ?_⟩
  · rw [hroutes, length_lines_routesSkeleton, List.length_map]
  · rw [length_lines_service, Nat.add_eq_left, List.count_eq_zero]

/-- A slug of three lines. -/
def wildSlug : String := "notes\npub fn injected() \x7b\x7d\n//"

/-- An entity of that slug. -/
def wildEntity : Entity := { slug := wildSlug, module := some defaultModule }

/-- A document that has it. -/
def wildDocument : Document where
  projectName := "notes"
  modules := []
  entities := [{ slug := wildSlug }]

/-- The graph of the document. -/
def wildGraph : SchemaGraph where
  projectName := "notes"
  modules := ModuleConfig.ofSettings []
  entities := [wildEntity]
  edges := []
  children := []
  warnings := []

/-- **An accepted document puts a function into its service**: there are two
lines more than in the skeleton, and the second line of the slug is one of
them. -/
theorem wildDocument_unconfined :
    wildDocument.validate = .ok wildGraph ∧
    wildEntity ∈ wildGraph.servedEntities ∧
      (lines (substitute (contextOf wildEntity.slug)
        serviceSkeleton).toList).length =
        (lines serviceSkeleton.toList).length + 2 ∧
      "pub fn injected() \x7b\x7d\n".toList ∈
        lines (substitute (contextOf wildEntity.slug) serviceSkeleton).toList := by
  have hcount : wildSlug.toList.count '\n' = 2 := by decide +kernel
  have hinjected : "pub fn injected() \x7b\x7d\n".toList ∈
      lines (slugComment wildSlug).toList := by decide +kernel
  refine ⟨rfl, List.mem_cons_self, ?_, ?_⟩
  · rw [← hcount]
    exact length_lines_service wildSlug
  · obtain ⟨before, after, -, -, hlines⟩ := exists_lines_service wildSlug
    show _ ∈ lines (substitute (contextOf wildSlug) serviceSkeleton).toList
    rw [hlines]
    exact List.mem_append_right _ (List.mem_append_left _ hinjected)

end ServiceLoom.Template
