import Mathlib.Data.List.Chain
import ServiceLoom.Generation.Files
import ServiceLoom.Pattern.Builtin
import ServiceLoom.Proofs.Template.Weaving
import ServiceLoom.Schema.Validation

/-!
# The text of a service

The text of a service is the skeleton with the renderings of the plan below the
marker lines, and placeholders are replaced in every piece on its own.  So a
rendering stands in the text as it is, unless a placeholder with a value stands
in it.
-/

namespace ServiceLoom

open Template

/-! ## Renderings -/

/-- The last line of a text ends it. -/
theorem getLast?_append_lineBreak {s t : String}
    (h : t.toList.getLast? = some '\n') :
    (s ++ t).toList.getLast? = some '\n' := by
  rw [String.toList_append, List.getLast?_append, h]
  rfl

/-- The code of a fragment is a line. -/
theorem Code.fragment_ends (h : Hook) (f : Fragment) :
    (Code.fragment h f).toList.getLast? = some '\n' :=
  getLast?_append_lineBreak (by decide)

/-- The code of a method ends with a line. -/
theorem Code.method_ends (m : Method) :
    (Code.method m).toList.getLast? = some '\n' := by
  have hfunction : ∀ signature body,
      (Code.function signature body).toList.getLast? = some '\n' :=
    fun _ _ => getLast?_append_lineBreak (by decide)
  cases m with
  | _ => exact hfunction _ _

/-- What a set injects, in order: its fragments at their hooks, and then its
methods. -/
def FragmentSet.insertions (s : FragmentSet) : List (String × String) :=
  s.hooks.map (fun (h, f) => (h.marker, Code.fragment h f)) ++
    s.methods.map fun m => (methodsHook, Code.method m)

/-- What a plan injects, in weaving order. -/
def EntityPlan.insertions (p : EntityPlan) : List (String × String) :=
  p.fragmentSets.flatMap (·.insertions)

/-- The renderings of a plan, in weaving order. -/
def EntityPlan.renderings (p : EntityPlan) : List String :=
  p.insertions.map (·.2)

/-- Every rendering ends with a line. -/
theorem EntityPlan.ends_of_mem_insertions {p : EntityPlan} {i : String × String}
    (h : i ∈ p.insertions) : i.2.toList.getLast? = some '\n' := by
  obtain ⟨set, -, hmem⟩ := List.mem_flatMap.mp h
  rcases List.mem_append.mp hmem with hmem | hmem
  · obtain ⟨⟨hook, f⟩, -, rfl⟩ := List.mem_map.mp hmem
    exact Code.fragment_ends hook f
  · obtain ⟨m, -, rfl⟩ := List.mem_map.mp hmem
    exact Code.method_ends m

/-! ## The skeleton of a service -/

/-- A text before others, by its characters. -/
theorem exists_spelled_cons {s : String} {texts : List String}
    {cs : List Char} {P : List (List Char) → Prop} (hs : s = String.ofList cs)
    (h : ∃ chars : List (List Char), texts = chars.map String.ofList ∧
      P (cs :: chars)) :
    ∃ chars : List (List Char), s :: texts = chars.map String.ofList ∧
      P chars := by
  obtain ⟨chars, rfl, hP⟩ := h
  exact ⟨cs :: chars, by rw [hs]; rfl, hP⟩

/-- The lines of a service by their characters: each is one line, and the
markers name the hooks in order. -/
theorem serviceLines_spelled : ∃ chars :
      List (List Char), serviceLines = chars.map String.ofList ∧
    (∀ cs ∈ chars, '\n' ∉ cs.map braceChar) ∧
      chars.filterMap (fun cs => hookName? (cs.map braceChar ++ ['\n'])) =
        Hook.all.map Hook.marker ++ [methodsHook] := by
  -- To evaluate the characters of a text is slow, to read them off a literal is
  -- not.
  unfold serviceLines
  dsimp only
  repeat refine exists_spelled_cons rfl ?_
  refine ⟨[], rfl, ?_, ?_⟩
  · decide
  · decide

/-- The hooks of a service: those of its fragments, and the one for methods. -/
theorem hookNames_serviceSkeleton :
    lines serviceSkeleton.toList = serviceLines.map lineChars ∧
      hookNames serviceSkeleton = Hook.all.map Hook.marker ++
        [methodsHook] := by
  obtain ⟨chars, hspelled, hbreaks, hnames⟩ := serviceLines_spelled
  have hlines : lines serviceSkeleton.toList = serviceLines.map lineChars := by
    refine lines_textOfLines fun line hline => ?_
    rw [hspelled] at hline
    obtain ⟨cs, hcs, rfl⟩ := List.mem_map.mp hline
    rw [String.toList_ofList]
    exact hbreaks cs hcs
  refine ⟨hlines, ?_⟩
  have hchars : serviceLines.map lineChars = chars.map fun cs =>
      cs.map braceChar ++ ['\n'] := by
    rw [hspelled, List.map_map]
    refine List.map_congr_left fun cs _ => ?_
    rw [Function.comp_apply, lineChars, String.toList_ofList]
  rw [hookNames, hlines, hchars, List.filterMap_map]
  exact hnames

/-- The text of a service is a skeleton. -/
theorem serviceSkeleton_isSkeleton : IsSkeleton serviceSkeleton where
  ends := by
    rw [hookNames_serviceSkeleton.1]
    intro line hline
    obtain ⟨text, -, rfl⟩ := List.mem_map.mp hline
    exact List.getLast?_concat
  nodup := by
    rw [hookNames_serviceSkeleton.2]
    decide
  named := by
    rw [hookNames_serviceSkeleton.2]
    decide
  methods := by
    rw [hookNames_serviceSkeleton.2]
    exact List.mem_append_right _ (List.mem_singleton_self _)

/-- Whatever is injected into a service has its hook there. -/
theorem FragmentSet.mem_hookNames {s : FragmentSet} {i : String × String}
    (h : i ∈ s.insertions) : i.1 ∈ hookNames serviceSkeleton := by
  have hall : ∀ h : Hook, h ∈ Hook.all := by
    intro h
    cases h <;> decide
  rw [hookNames_serviceSkeleton.2]
  rcases List.mem_append.mp h with h | h
  · obtain ⟨⟨hook, f⟩, -, rfl⟩ := List.mem_map.mp h
    exact List.mem_append_left _ (List.mem_map_of_mem (hall hook))
  · obtain ⟨m, -, rfl⟩ := List.mem_map.mp h
    exact List.mem_append_right _ (List.mem_singleton_self _)

/-! ## Weaving a plan -/

section Weave

variable {w : Weaver}

/-- Methods are injected at their hook. -/
theorem foldl_appendMethod_eq (h : w.hasHook methodsHook = true)
    (methods : List Method) :
    methods.foldl (fun w m => w.appendMethod (Code.method m)) w =
      w.injectAll (methods.map fun m => (methodsHook, Code.method m)) := by
  induction methods generalizing w with
  | nil => rfl
  | cons m rest ih =>
      rw [List.foldl_cons, Weaver.appendMethod_eq_inject h,
        ih (((Weaver.inject_gathers h _).hasHook _).trans h)]
      rfl

/-- A set injects its fragments and methods. -/
theorem FragmentSet.weave_eq
    (hw : ∀ name ∈ hookNames serviceSkeleton, w.hasHook name = true)
    (s : FragmentSet) : s.weave w = w.injectAll s.insertions := by
  have hmethods : w.hasHook methodsHook = true :=
    hw _ serviceSkeleton_isSkeleton.methods
  have hgathers :=
    Weaver.injectAll_gathers (w := w) fun i (hi : i ∈ s.hooks.map fun (h, f) =>
      (h.marker, Code.fragment h f)) =>
        hw i.1 (FragmentSet.mem_hookNames (List.mem_append_left _ hi))
  rw [insertions, Weaver.injectAll, List.foldl_append,
    ← Weaver.injectAll, ← Weaver.injectAll, ← foldl_appendMethod_eq
      ((hgathers.hasHook _).trans hmethods), Weaver.injectAll, List.foldl_map]
  rfl

/-- A plan injects what its sets do, one after the other. -/
theorem EntityPlan.foldl_weave_eq
    (hw : ∀ name ∈ hookNames serviceSkeleton, w.hasHook name = true)
    (p : EntityPlan) :
    p.fragmentSets.foldl FragmentSet.weave w = w.injectAll p.insertions := by
  unfold insertions
  generalize p.fragmentSets = sets
  induction sets generalizing w with
  | nil => rfl
  | cons s rest ih =>
      have hgathers := Weaver.injectAll_gathers fun i (hi : i ∈ s.insertions) =>
        hw i.1 (FragmentSet.mem_hookNames hi)
      rw [List.foldl_cons, FragmentSet.weave_eq hw, ih fun name hname =>
          (hgathers.hasHook name).trans (hw name hname), List.flatMap_cons,
        Weaver.injectAll, Weaver.injectAll, Weaver.injectAll, List.foldl_append]

end Weave

/-- The pieces of which the text of a service is made: the lines of the
skeleton, each with the renderings that stand below it. -/
def EntityPlan.pieces (p : EntityPlan) : List String :=
  serviceLines.flatMap fun line =>
    wovenLine (Weaver.textsAt p.insertions) (lineChars line)

namespace EntityPlan

variable {p : EntityPlan}

theorem mem_hookNames {i : String × String} (h : i ∈ p.insertions) :
    i.1 ∈ hookNames serviceSkeleton := by
  obtain ⟨set, -, hmem⟩ := List.mem_flatMap.mp h
  exact FragmentSet.mem_hookNames hmem

/-- What stands below a line is a rendering. -/
theorem mem_insertions_of_mem_textsAt {name text : String}
    (h : text ∈ Weaver.textsAt p.insertions name) :
    (name, text) ∈ p.insertions := by
  obtain ⟨⟨hook, rendering⟩, hi, hmem⟩ := List.mem_flatMap.mp h
  dsimp only at hmem
  split at hmem
  next heq =>
    rw [List.mem_singleton.mp hmem, ← heq]
    exact hi
  · cases hmem

/-- A piece is a line of the skeleton or a rendering. -/
theorem of_mem_pieces {piece : String} (h : piece ∈ p.pieces) :
    (∃ line ∈ serviceLines, piece = String.ofList (lineChars line)) ∨
      piece ∈ p.renderings := by
  obtain ⟨line, hline, hmem⟩ := List.mem_flatMap.mp h
  rcases List.mem_cons.mp hmem with rfl | hmem
  · exact .inl ⟨line, hline, rfl⟩
  · cases hhook : hookName? (lineChars line) with
    | none =>
        rw [hhook] at hmem
        cases hmem
    | some name =>
        rw [hhook] at hmem
        exact .inr (List.mem_map_of_mem (mem_insertions_of_mem_textsAt hmem))

/-- Every piece ends where a line ends. -/
theorem endsLine_of_mem_pieces {piece : String} (h : piece ∈ p.pieces) :
    EndsLine piece.toList := by
  rcases of_mem_pieces h with ⟨line, -, rfl⟩ | hmem
  · rw [String.toList_ofList]
    exact endsLine_concat _
  · obtain ⟨i, hi, rfl⟩ := List.mem_map.mp hmem
    intro c hc
    exact Option.some.inj (hc.symm.trans (ends_of_mem_insertions hi))

/-- **Every rendering is a piece of the text.** -/
theorem mem_pieces {r : String} (h : r ∈ p.renderings) : r ∈ p.pieces := by
  obtain ⟨⟨name, r⟩, hi, rfl⟩ := List.mem_map.mp h
  have hname := mem_hookNames hi
  rw [hookNames, hookNames_serviceSkeleton.1, List.filterMap_map] at hname
  obtain ⟨line, hline, hhook⟩ := List.mem_filterMap.mp hname
  refine List.mem_flatMap.mpr ⟨line, hline, List.mem_cons_of_mem _ ?_⟩
  rw [Function.comp_apply] at hhook
  rw [hhook]
  exact List.mem_flatMap.mpr ⟨(name, r), hi, by simp⟩

end EntityPlan

/-- **The text of a service** is made of the pieces of its plan, with
placeholders replaced in each on its own. Nothing is lost, and nothing is warned
about but what the plan warns about. -/
theorem SchemaGraph.service_eq [Pattern.Engine] (l : BundleLibrary)
    (g : SchemaGraph) (e : Entity) :
    g.service l e = .ok (String.join
      ((EntityPlan.ofEntity l g e).pieces.map (substitute (contextOf e.slug))),
      (EntityPlan.ofEntity l g e).warnings) := by
  obtain ⟨w, hparse, hhooks, hwoven⟩ := serviceSkeleton_isSkeleton.woven_eq
  generalize hp : EntityPlan.ofEntity l g e = p
  obtain ⟨hwarnings, htext⟩ :=
    hwoven p.insertions fun i hi => EntityPlan.mem_hookNames hi
  have hlines : (w.injectAll p.insertions).woven = String.join p.pieces := by
    rw [htext, hookNames_serviceSkeleton.1, List.flatMap_map]
    refine congrArg String.join (List.flatMap_congr fun line _ => ?_)
    unfold wovenLine
    cases hookName? (lineChars line) with
    | none => rfl
    | some name =>
        refine congrArg _
          ((List.map_congr_left fun text htext => ?_).trans (List.map_id _))
        exact withLineBreak_eq
          (EntityPlan.ends_of_mem_insertions
            (EntityPlan.mem_insertions_of_mem_textsAt htext))
  rw [SchemaGraph.service, hp, hparse]
  show Except.ok _ = _
  rw [EntityPlan.foldl_weave_eq hhooks, hwarnings, List.append_nil,
    Weaver.render, hlines, substitute_join _ fun piece hpiece =>
      EntityPlan.endsLine_of_mem_pieces hpiece]

/-- **Renderings in the text of a service.** Each stands there with its
placeholders replaced, and just as it is when no placeholder with a value stands
in it. -/
theorem SchemaGraph.service_renders [Pattern.Engine] (l : BundleLibrary)
    (g : SchemaGraph) (e : Entity) :
    ∃ text, g.service l e = .ok (text, (EntityPlan.ofEntity l g e).warnings) ∧
      ∀ r ∈ (EntityPlan.ofEntity l g e).renderings,
        (substitute (contextOf e.slug) r).toList <:+: text.toList ∧
          (¬ HasPlaceholder (contextOf e.slug) r.toList →
            r.toList <:+: text.toList) := by
  refine ⟨_, g.service_eq l e, fun r hr => ?_⟩
  have hin : (substitute (contextOf e.slug) r).toList <:+:
      (String.join ((EntityPlan.ofEntity l g e).pieces.map
          (substitute (contextOf e.slug)))).toList := by
    rw [String.toList_join, List.flatMap_def]
    exact List.infix_of_mem_flatten
      (List.mem_map_of_mem (List.mem_map_of_mem (EntityPlan.mem_pieces hr)))
  refine ⟨hin, fun hnone => ?_⟩
  rwa [substitute, substituteChars_eq_self hnone, String.ofList_toList] at hin

/-! ## A text that is altered -/

/-- No two opening braces stand next to each other. -/
def NoBraces (cs : List Char) : Prop :=
  cs.IsChain fun a b => ¬(a = '\x7b' ∧ b = '\x7b')

instance : DecidablePred NoBraces := fun cs => by
  unfold NoBraces
  infer_instance

theorem NoBraces.of_isInfix {cs text : List Char} (h : NoBraces text)
    (hcs : cs <:+: text) : NoBraces cs := by
  obtain ⟨before, after, rfl⟩ := hcs
  exact (List.isChain_append.mp (List.isChain_append.mp h).1).2.1

/-- Lines without opening braces next to each other make a text without. -/
theorem noBraces_flatten {parts : List (List Char)}
    (h : ∀ part ∈ parts, NoBraces part ∧ part.getLast? = some '\n') :
    NoBraces parts.flatten := by
  induction parts with
  | nil => exact List.IsChain.nil
  | cons part rest ih =>
      obtain ⟨hpart, hlast⟩ := h part List.mem_cons_self
      refine List.isChain_append.mpr
        ⟨hpart, ih fun p hp => h p (List.mem_cons_of_mem _ hp), ?_⟩
      rintro c hc d - ⟨rfl, -⟩
      rw [hlast] at hc
      exact absurd (Option.some.inj hc) (by decide)

/-- A title that is labelled by a placeholder. -/
def noteDocument : Document where
  projectName := "notes"
  modules := []
  entities := [{ slug := "notes", fields := [{
    name := "title", label := some "\x7b\x7bslug_literal\x7d\x7d" }] }]

/-- The notes as they are served. -/
def notes : Entity :=
  { slug := "notes", module := some defaultModule
    fields :=
      [{ name := "title", label := some "\x7b\x7bslug_literal\x7d\x7d" }] }

/-- The graph of the notes. -/
def noteGraph : SchemaGraph where
  projectName := "notes"
  modules := ModuleConfig.ofSettings []
  entities := [notes]
  edges := []
  children := []
  warnings := []

/-- Every line of the skeleton comes out without opening braces next to each
other. -/
theorem serviceLines_notes : ∃ chars :
      List (List Char), serviceLines = chars.map String.ofList ∧
    ∀ cs ∈ chars, NoBraces
      (substituteChars (contextOf "notes") (cs.map braceChar ++ ['\n'])) ∧
      (substituteChars (contextOf "notes")
        (cs.map braceChar ++ ['\n'])).getLast? = some '\n' := by
  unfold serviceLines
  dsimp only
  repeat refine exists_spelled_cons rfl ?_
  refine ⟨[], rfl, ?_⟩
  decide +kernel

/-- The rendering of the rules of the notes. -/
def noteRules : String := "
    fn field_rules() -> &'static RuleSet \x7b
        static RULES: LazyLock<RuleSet> = LazyLock::new(|| RuleSet::new(vec![
            FieldRule::new(\"title\", \"\x7b\x7bslug_literal\x7d\x7d\", FieldKind::Text),
        ]));
        &RULES
    \x7d
"

/-- What the plan of the notes injects. -/
theorem renderings_notes :
    (EntityPlan.ofEntity .builtin noteGraph notes).renderings = [
    "        Self::field_rules().validate(repo, Self::SLUG, &data, WriteMode::Create)?;\n",
    "        Self::field_rules().validate(repo, Self::SLUG, &merged(&existing, &data), WriteMode::Update(id))?;\n",
    noteRules] := by
  decide +kernel

set_option maxRecDepth 2000 in
/-- The rules of the notes are the text of these characters. -/
theorem noteRules_spelled : ∃ cs : List Char, noteRules = String.ofList cs ∧
    NoBraces (substituteChars (contextOf "notes") cs) ∧
      (substituteChars (contextOf "notes") cs).getLast? = some '\n' ∧
        ¬ NoBraces cs := by
  unfold noteRules
  refine ⟨_, rfl, ?_⟩
  decide +kernel

/-- Every rendering comes out without opening braces next to each other. -/
theorem renderings_notes_spelled : ∃ chars : List (List Char),
    (EntityPlan.ofEntity .builtin noteGraph notes).renderings =
      chars.map String.ofList ∧
      ∀ cs ∈ chars, NoBraces (substituteChars (contextOf "notes") cs) ∧
        (substituteChars (contextOf "notes") cs).getLast? = some '\n' := by
  obtain ⟨cs, hcs, hnone, hlast, -⟩ := noteRules_spelled
  rw [renderings_notes]
  refine exists_spelled_cons rfl
    (exists_spelled_cons rfl (exists_spelled_cons hcs ⟨[], rfl, ?_⟩))
  rw [List.forall_mem_cons, List.forall_mem_cons, List.forall_mem_singleton]
  refine ⟨?_, ?_, hnone, hlast⟩
  · decide +kernel
  · decide +kernel

/-- Every piece of the service of the notes comes out without opening braces
next to each other. -/
theorem pieces_notes :
    ∀ piece ∈ (EntityPlan.ofEntity .builtin noteGraph notes).pieces,
    NoBraces (substituteChars (contextOf "notes") piece.toList) ∧
      (substituteChars (contextOf "notes") piece.toList).getLast? =
        some '\n' := by
  intro piece hpiece
  rcases EntityPlan.of_mem_pieces hpiece with ⟨line, hline, rfl⟩ | hmem
  · obtain ⟨chars, hspelled, hcalm⟩ := serviceLines_notes
    rw [hspelled] at hline
    obtain ⟨cs, hcs, rfl⟩ := List.mem_map.mp hline
    rw [String.toList_ofList, lineChars, String.toList_ofList]
    exact hcalm cs hcs
  · obtain ⟨chars, hspelled, hcalm⟩ := renderings_notes_spelled
    rw [hspelled] at hmem
    obtain ⟨cs, hcs, rfl⟩ := List.mem_map.mp hmem
    rw [String.toList_ofList]
    exact hcalm cs hcs

/-- An accepted document has an entity whose service lacks a rendering: the
label of its title is read as a placeholder, inside the literal that holds it,
and what is put in brings quotes of its own. -/
theorem noteDocument_altered : noteDocument.validate = .ok noteGraph ∧
    notes ∈ noteGraph.servedEntities ∧
    ∃ text warnings r, noteGraph.service .builtin notes = .ok (text, warnings) ∧
      r ∈ (EntityPlan.ofEntity .builtin noteGraph notes).renderings ∧
        ¬ r.toList <:+: text.toList := by
  refine ⟨rfl, List.mem_singleton_self _, _, _, noteRules,
    noteGraph.service_eq .builtin notes, ?_, ?_⟩
  · rw [renderings_notes]
    exact List.mem_cons_of_mem _
      (List.mem_cons_of_mem _ (List.mem_singleton_self _))
  · obtain ⟨cs, hcs, -, -, hbraces⟩ := noteRules_spelled
    rw [hcs, String.toList_ofList, String.toList_join,
      List.flatMap_def, List.map_map]
    refine fun hin => hbraces (NoBraces.of_isInfix (noBraces_flatten ?_) hin)
    refine List.forall_mem_map.mpr fun piece hpiece => ?_
    rw [Function.comp_apply, substitute, String.toList_ofList]
    exact pieces_notes piece hpiece

end ServiceLoom
