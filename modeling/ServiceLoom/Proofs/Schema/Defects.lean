import ServiceLoom.Proofs.Schema.Validation

/-!
# The first defect

The check of a document stops at the first defect.  Here all defects are listed,
without stopping: those of the slugs, and then, for each entity of a module that
is switched on, those of its fields and those of its child relations.  What an
entity is checked against is found here by going through all entities with a
slug; the check looks up the first one.  The two agree because slugs are checked
before everything else, so that where the second half is reached there is one
entity for each slug (`entitiesAt_eq`).

* `defectOf?_bind`, `defectOf?_collect` — where checks in sequence stop;
* `defectOf?_checkSlugs`, `defectOf?_checkField`, `defectOf?_checkChild` — one
  item of each kind;
* `validateWith_first_defect` — a document is accepted when its list is empty,
  and refused for its head.
-/

namespace ServiceLoom

/-- The defect at which a check stops. -/
def defectOf? {α : Type} : Except Defect α → Option Defect
  | .ok _ => none
  | .error defect => some defect

/-- A defect that is there on a condition. -/
def Defect.when (p : Prop) [Decidable p] (defect : Defect) : List Defect :=
  if p then [defect] else []

@[simp] theorem Defect.when_pos {p : Prop} [Decidable p] (h : p)
    (defect : Defect) : defect.when p = [defect] := if_pos h

@[simp] theorem Defect.when_neg {p : Prop} [Decidable p] (h : ¬ p)
    (defect : Defect) : defect.when p = [] := if_neg h

section Sequences

variable {α β : Type}

theorem defectOf?_eq_none_iff {x : Except Defect α} :
    defectOf? x = none ↔ ∃ a, x = .ok a := by
  cases x <;> simp [defectOf?]

theorem defectOf?_eq_some_iff {x : Except Defect α} {defect : Defect} :
    defectOf? x = some defect ↔ x = .error defect := by
  cases x <;> simp [defectOf?]

/-- A check that refuses on a condition stops there, or else where it goes
on. -/
theorem defectOf?_ite {p q : Prop} [Decidable p] [Decidable q] (h : p ↔ q)
    (defect : Defect) (x : Except Defect α) :
    defectOf? (if p then .error defect else x) =
      (defect.when q).head?.or (defectOf? x) := by
  by_cases hp : p
  · rw [if_pos hp, Defect.when_pos (h.mp hp)]
    rfl
  · rw [if_neg hp, Defect.when_neg (hp ∘ h.mpr)]
    rfl

/-- **Two checks stop at the first one, or else at the second**, which may rely
on the first. -/
theorem defectOf?_bind {x : Except Defect α} {f : α → Except Defect β}
    {second : Option Defect} (h : ∀ a, x = .ok a → defectOf? (f a) = second) :
    defectOf? (x >>= f) = (defectOf? x).or second := by
  cases x with
  | error defect => rfl
  | ok a => exact h a rfl

/-- What is made of the result of a check does not stop it. -/
theorem defectOf?_bind_pure (x : Except Defect α) (g : α → β) :
    defectOf? (x >>= fun a => pure (g a)) = defectOf? x := by
  cases x <;> rfl

/-- The checks of a list stop at the first defect of its items. -/
theorem defectOf?_collect {check : α → Except Defect (Option β)}
    {defects : α → List Defect} {xs : List α}
    (h : ∀ x ∈ xs, defectOf? (check x) = (defects x).head?) :
    defectOf? (Surroundings.collect check xs) = (xs.flatMap defects).head? := by
  induction xs with
  | nil => rfl
  | cons x rest ih =>
      have hrest := ih fun y hy => h y (List.mem_cons_of_mem _ hy)
      rw [List.flatMap_cons, List.head?_append,
        ← h x List.mem_cons_self, ← hrest]
      exact defectOf?_bind fun found _ => defectOf?_bind_pure _ _

end Sequences

/-! ## All defects -/

/-- Whether the modules of two entities let the first use the second. -/
def ModuleConfig.Connects (c : ModuleConfig) (a b : Entity) : Prop :=
  c.moduleOf a = c.moduleOf b ∨
    (c.moduleOf b = sharedModule ∧ c.moduleOf a ≠ sharedModule)

instance (c : ModuleConfig) (a b : Entity) : Decidable (c.Connects a b) :=
  inferInstanceAs (Decidable (_ ∨ _))

/-- The foreign key of a child relation, unless it is blank. -/
def ChildRelation.key? (c : ChildRelation) : Option String :=
  (c.foreignKey.map Text.trim).filter (· ≠ "")

/-- The defects of the slug of an entity at a place: it is blank, or the slug of
an earlier entity. -/
def slugDefectsAt (entities : List Entity) (index : Nat) (e : Entity) :
    List Defect :=
  (Defect.missingSlug index).when (Text.isBlank e.slug = true) ++
    (Defect.duplicateSlug e.slug).when
      (e.slug ∈ (entities.take index).map (·.slug))

/-- The defects of the slugs of a list of entities. -/
def slugDefects (entities : List Entity) : List Defect :=
  entities.zipIdx.flatMap fun (e, index) => slugDefectsAt entities index e

namespace Document

variable (d : Document) (config : ModuleConfig)

/-- The entities with a slug. -/
def entitiesAt (slug : String) : List Entity :=
  d.entities.filter (·.slug = slug)

/-- The defects of a field of an entity. -/
def fieldDefects (e : Entity) (f : Field) : List Defect :=
  match f.resolve (d.entities.map (·.slug)) with
  | .notReference => []
  | .ambiguous _ found => [.ambiguousReference e.slug f.name found]
  | .unresolved base =>
      (Defect.unresolvedReference e.slug f.name base).when
        (f.requiresTarget = true)
  | .target slug _ => (d.entitiesAt slug).flatMap fun target =>
      let module := config.moduleOf target
      (Defect.disabledModuleReference e.slug f.name slug module).when
        (config.isEnabled module = false) ++
        (Defect.moduleBoundary e.slug ("field '" ++ f.name ++ "'")
          slug (config.moduleOf e) module).when
          (¬ config.Connects e target)

/-- The defects of a child relation of an entity. One without a slug has
none. -/
def childDefects (e : Entity) (c : ChildRelation) : List Defect :=
  let slug := Text.trim c.entity
  if slug = "" then []
  else (Defect.unknownChild e.slug slug).when (d.entitiesAt slug = []) ++
    (d.entitiesAt slug).flatMap fun child =>
      let module := config.moduleOf child
      (Defect.disabledChildModule e.slug slug module).when
        (config.isEnabled module = false) ++
        ((Defect.missingForeignKey e.slug slug c.key?).when
            (∀ key ∈ c.key?, key ∉ child.fields.map (·.name)) ++
          (Defect.moduleBoundary e.slug "child relation"
            slug (config.moduleOf e) module).when
            (¬ config.Connects e child))

/-- The defects of an entity: those of its fields, then those of its child
relations. -/
def entityDefects (e : Entity) : List Defect :=
  e.fields.flatMap (d.fieldDefects config e) ++
    e.children.flatMap (d.childDefects config e)

/-- All defects of a document, in the order in which they are looked for. -/
def defects : List Defect :=
  slugDefects d.entities ++
    (d.entities.filter fun e => config.isEnabled (config.moduleOf e)).flatMap
      (d.entityDefects config)

end Document

/-! ## Where the check stops -/

/-- The check of slugs stops at an entity for the defects of its slug, or else
goes on. -/
theorem defectOf?_checkSlugs_cons (before : List Entity) (e : Entity)
    (rest : List Entity) :
    defectOf?
      (checkSlugs before.length (before.map (·.slug)).reverse (e :: rest)) =
      (slugDefectsAt (before ++ e :: rest) before.length e).head?.or
        (defectOf? (checkSlugs (before ++ [e]).length
          ((before ++ [e]).map (·.slug)).reverse rest)) := by
  have hearlier : (before.map (·.slug)).reverse.contains e.slug = true ↔
      e.slug ∈ ((before ++ e :: rest).take before.length).map (·.slug) := by
    simp
  have hnext : checkSlugs (before ++ [e]).length
      ((before ++ [e]).map (·.slug)).reverse rest =
      checkSlugs (before.length + 1) (e.slug :: (before.map (·.slug)).reverse)
        rest := by simp
  rw [hnext, checkSlugs, defectOf?_ite Iff.rfl, defectOf?_ite hearlier,
    slugDefectsAt, List.head?_append, Option.or_assoc]

/-- The same for all entities after some that have passed. -/
theorem defectOf?_checkSlugs_append (before rest : List Entity) :
    defectOf? (checkSlugs before.length (before.map (·.slug)).reverse rest) =
      ((rest.zipIdx before.length).flatMap fun (e, index) =>
        slugDefectsAt (before ++ rest) index e).head? := by
  induction rest generalizing before with
  | nil => rfl
  | cons e rest ih =>
      have hnext := ih (before ++ [e])
      rw [List.append_assoc, List.singleton_append] at hnext
      rw [defectOf?_checkSlugs_cons, hnext, List.zipIdx_cons, List.flatMap_cons,
        List.head?_append, List.length_append, List.length_singleton]

/-- The check of slugs stops at the first of their defects. -/
theorem defectOf?_checkSlugs (entities : List Entity) :
    defectOf? (checkSlugs 0 [] entities) = (slugDefects entities).head? :=
  defectOf?_checkSlugs_append [] entities

namespace Document

variable {d : Document} {config : ModuleConfig}

/-- Among distinct slugs there is one entity for each. -/
theorem entitiesAt_eq (hnodup : (d.entities.map (·.slug)).Nodup) {e : Entity}
    (he : e ∈ d.entities) : d.entitiesAt e.slug = [e] := by
  have hpart : (d.entities.flatMap fun a => [a]).filter
      (fun a => a.slug = e.slug) = [e] :=
    filter_flatMap_of_nodup (fun a _ b hb =>
      congrArg Entity.slug (List.mem_singleton.mp hb)) hnodup he
  rwa [List.flatMap_singleton'] at hpart

/-- The module of a slug is that of its entity. -/
theorem moduleOf_eq (hnodup : (d.entities.map (·.slug)).Nodup) {e : Entity}
    (he : e ∈ d.entities) :
    (d.surroundings config).moduleOf e.slug = config.moduleOf e :=
  Surroundings.moduleOf_of_mem (s := d.surroundings config) hnodup he

/-- A boundary stops the check when it separates the modules of the two
entities. -/
theorem defectOf?_checkBoundary (a b : Entity) (source target via : String) :
    defectOf? (checkBoundary source (config.moduleOf a)
      target (config.moduleOf b) via) =
      ((Defect.moduleBoundary source via target (config.moduleOf a)
        (config.moduleOf b)).when
        (¬ config.Connects a b)).head? := by
  have hreach : ¬ mayReach (config.moduleOf a) (config.moduleOf b) = true ↔
      ¬ config.Connects a b := by
    simp [mayReach, ModuleConfig.Connects]
  rw [checkBoundary, ← ite_not, defectOf?_ite hreach]
  exact Option.or_none

/-- A module that is switched off stops the check. -/
theorem defectOf?_disabled {α : Type} (module : String) (defect : Defect)
    (x : Except Defect α) :
    defectOf? (if !config.isEnabled module then .error defect else x) =
      (defect.when (config.isEnabled module = false)).head?.or (defectOf? x) :=
  defectOf?_ite (by simp) defect x

/-- The check of a field stops at the first of its defects. -/
theorem defectOf?_checkField (hnodup : (d.entities.map (·.slug)).Nodup)
    {e : Entity} (he : e ∈ d.entities) (f : Field) :
    defectOf? ((d.surroundings config).checkField e.slug f) =
      (d.fieldDefects config e f).head? := by
  have hslugs : (d.surroundings config).slugs = d.entities.map (·.slug) := rfl
  have hconfig : (d.surroundings config).config = config := rfl
  unfold Surroundings.checkField fieldDefects
  rw [hslugs]
  cases hr : f.resolve (d.entities.map (·.slug)) with
  | notReference => rfl
  | ambiguous base found => rfl
  | unresolved base => exact (defectOf?_ite Iff.rfl _ _).trans Option.or_none
  | target slug explicit =>
      obtain ⟨target, htarget, rfl⟩ :=
        List.mem_map.mp (Field.resolve_target_mem hr)
      dsimp only
      rw [moduleOf_eq hnodup htarget, moduleOf_eq hnodup he, entitiesAt_eq
          hnodup htarget, List.flatMap_singleton, List.head?_append, hconfig,
        defectOf?_disabled, defectOf?_bind_pure, defectOf?_checkBoundary]

/-- A foreign key that is absent, or not a field of the child, stops the
check. -/
theorem defectOf?_foreignKey
    {β : Type} (source slug : String) (child : Entity) (key : Option String)
    (next : String → Except Defect (Option β)) (second : Option Defect)
    (hnext : ∀ k, key = some k → defectOf? (next k) = second) :
    defectOf? (match key with
      | none => .error (.missingForeignKey source slug none)
      | some k =>
        if !child.hasField k then
          .error (.missingForeignKey source slug (some k))
        else next k) =
      ((Defect.missingForeignKey source slug key).when
        (∀ k ∈ key, k ∉ child.fields.map (·.name))).head?.or second := by
  cases key with
  | none =>
      rw [Defect.when_pos (by simp)]
      rfl
  | some k =>
      have hfield : (!child.hasField k) = true ↔
          ∀ name ∈ some k, name ∉ child.fields.map (·.name) := by
        simp [Entity.hasField, Entity.field?]
      rw [← hnext k rfl]
      exact defectOf?_ite hfield _ _

/-- The check of a child relation stops at the first of its defects. -/
theorem defectOf?_checkChild (hnodup : (d.entities.map (·.slug)).Nodup)
    {e : Entity} (he : e ∈ d.entities) (c : ChildRelation) :
    defectOf? ((d.surroundings config).checkChild e.slug c) =
      (d.childDefects config e c).head? := by
  unfold Surroundings.checkChild childDefects
  dsimp only
  by_cases hslug : Text.trim c.entity = ""
  · rw [if_pos hslug, if_pos hslug]
    rfl
  · rw [if_neg hslug, if_neg hslug]
    cases hfind : (d.surroundings config).entity? (Text.trim c.entity) with
    | none =>
        have hnone : d.entitiesAt (Text.trim c.entity) = [] :=
          List.filter_eq_nil_iff.mpr (List.find?_eq_none.mp hfind)
        rw [hnone, Defect.when_pos rfl]
        rfl
    | some child =>
        have hchild : child ∈ d.entities := List.mem_of_find?_eq_some hfind
        have hat : child.slug = Text.trim c.entity := by
          simpa using List.find?_some hfind
        have hactive : (d.surroundings config).isActive child.slug =
            config.isEnabled (config.moduleOf child) := by
          rw [Surroundings.isActive, moduleOf_eq hnodup hchild]
          rfl
        dsimp only
        rw [← hat, entitiesAt_eq hnodup hchild,
          Defect.when_neg (List.cons_ne_nil _ _), List.nil_append,
          List.flatMap_singleton, List.head?_append, List.head?_append,
          moduleOf_eq hnodup hchild, hactive, defectOf?_disabled]
        refine congrArg (Option.or _)
          (defectOf?_foreignKey _ _ _ _ _ _ fun key _ => ?_)
        rw [defectOf?_bind_pure, moduleOf_eq hnodup he, defectOf?_checkBoundary]

/-- The check of an entity stops at the first of its defects. -/
theorem defectOf?_checkEntity (hnodup : (d.entities.map (·.slug)).Nodup)
    {e : Entity} (he : e ∈ d.entities) :
    defectOf? ((d.surroundings config).checkEntity e) =
      (d.entityDefects config e).head? := by
  have hfields : defectOf? (Surroundings.collect
      ((d.surroundings config).checkField e.slug) e.fields) =
      (e.fields.flatMap (d.fieldDefects config e)).head? :=
    defectOf?_collect fun f _ => defectOf?_checkField hnodup he f
  have hchildren : defectOf? (Surroundings.collect
      ((d.surroundings config).checkChild e.slug) e.children) =
      (e.children.flatMap (d.childDefects config e)).head? :=
    defectOf?_collect fun c _ => defectOf?_checkChild hnodup he c
  rw [entityDefects, List.head?_append, ← hfields, ← hchildren]
  exact defectOf?_bind fun _ _ => defectOf?_bind_pure _ _

/-- The check of entities stops at the first of their defects. -/
theorem defectOf?_checkEntities (hnodup : (d.entities.map (·.slug)).Nodup)
    {entities : List Entity} (hmem : ∀ e ∈ entities, e ∈ d.entities) :
    defectOf? ((d.surroundings config).checkEntities
        (entities.map fun e => { e with module := some (config.moduleOf e) })) =
      (entities.flatMap (d.entityDefects config)).head? := by
  induction entities with
  | nil => rfl
  | cons e rest ih =>
      have hrest := ih fun a ha => hmem a (List.mem_cons_of_mem _ ha)
      rw [List.flatMap_cons, List.head?_append, ← hrest,
        ← defectOf?_checkEntity hnodup (hmem e List.mem_cons_self)]
      exact defectOf?_bind fun _ _ => defectOf?_bind_pure _ _

/-- The check of a document stops at the first of its defects. -/
theorem defectOf?_validateWith (d : Document) (config : ModuleConfig) :
    defectOf? (d.validateWith config) = (d.defects config).head? := by
  rw [defects, List.head?_append, ← defectOf?_checkSlugs]
  refine defectOf?_bind fun _ hslugs => ?_
  have hnodup : (d.entities.map (·.slug)).Nodup := (checkSlugs_ok hslugs).1
  rw [← defectOf?_checkEntities hnodup fun e he => List.mem_of_mem_filter he]
  exact defectOf?_bind_pure _ _

/-- **The check reports the first defect, and fails only then.** A document is
accepted exactly when its list of defects is empty, and otherwise refused with
the head of that list. -/
theorem validateWith_first_defect (d : Document) (config : ModuleConfig) :
    ((∃ g, d.validateWith config = .ok g) ↔ d.defects config = []) ∧
      ∀ defect, d.validateWith config = .error defect ↔
        (d.defects config).head? = some defect := by
  have hstop := defectOf?_validateWith d config
  constructor
  · rw [← defectOf?_eq_none_iff, hstop, List.head?_eq_none_iff]
  · intro defect
    rw [← defectOf?_eq_some_iff, hstop]

/-- A document with a defect of every kind but those of modules, in the order of
the list. -/
example :
    defects ⟨"", [], [
      { slug := "orders",
        children := [⟨"lines", none, none⟩, ⟨"items", some "order_id", none⟩]
        fields := [{ name := "box_id" },
          { name := "owner", type := .reference }] },
      { slug := "box" }, { slug := "boxes" }, { slug := " " },
        { slug := "items" }, { slug := "box" }]⟩
      (.ofSettings []) =
    [.missingSlug 3, .duplicateSlug "box", .ambiguousReference "orders" "box_id"
        ["box", "boxes"], .unresolvedReference "orders" "owner" "owner",
      .unknownChild "orders" "lines",
      .missingForeignKey "orders" "items" (some "order_id")] := by
  decide +kernel

end Document

end ServiceLoom
