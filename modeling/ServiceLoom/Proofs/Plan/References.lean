import Mathlib.Data.List.Forall2
import ServiceLoom.Pattern.Builtin
import ServiceLoom.Plan.Compiler
import ServiceLoom.Proofs.Schema.Validation

/-!
# Where rules point

The check of a document resolves each field for itself and makes an edge of it.
The rule of a field is compiled later, and it looks for the edge again, by the
names of entity and field.  Nothing keeps two fields of an entity from having
one name.  So a rule points where the first field of its name points that points
anywhere, and the rules of an entity agree with its check exactly when fields
with one name point to one place.

* `Document.edge?_target` — what is found under the name of a field;
* `Document.fieldRule_follows_iff` — when the rule of one field agrees with the
  field;
* `Document.fieldRules_follow_iff` — all rules of an entity, at every place of
  its list.
-/

namespace ServiceLoom

/-- The slug to which a field has been resolved. -/
def Resolution.target? : Resolution → Option String
  | .target slug _ => some slug
  | _ => none

theorem Resolution.target?_eq_some_iff {r : Resolution} {slug : String} :
    r.target? = some slug ↔ ∃ explicit, r = .target slug explicit := by
  cases r <;> simp [target?]

/-- An edge ends where its field points. -/
theorem Field.edge?_target (f : Field) (slugs : List String) (source : String) :
    (f.edge? slugs source).map (·.target) = (f.resolve slugs).target? := by
  unfold Field.edge?
  cases f.resolve slugs <;> rfl

/-- The slug to which the first field with a name points that points
anywhere. -/
def Entity.targetOf? (e : Entity) (slugs : List String) (name : String) :
    Option String :=
  (e.fields.filter (·.name = name)).findSome? fun f => (f.resolve slugs).target?

/-- Whether fields of an entity with one name point to one place, or none of
them to any. -/
def Entity.HomonymsAgree (e : Entity) (slugs : List String) : Prop :=
  ∀ f ∈ SchemaGraph.ruledFields e, ∀ other ∈ SchemaGraph.ruledFields e,
    other.name = f.name →
    (other.resolve slugs).target? = (f.resolve slugs).target?

instance (e : Entity) (slugs : List String) :
    Decidable (e.HomonymsAgree slugs) :=
  inferInstanceAs (Decidable (∀ f ∈ SchemaGraph.ruledFields e,
    ∀ other ∈ SchemaGraph.ruledFields e, _ → _))

/-- What a rule of a field must say of where the field points. -/
structure FieldRule.Follows (r : FieldRule) (f : Field)
    (slugs : List String) : Prop where
  field_eq : r.field = f.name
  multiple_eq : r.multiple = f.isMultiple
  reference_iff : ∀ slug, r.reference = some slug ↔
    ∃ explicit, f.resolve slugs = .target slug explicit

/-- The first of the edges of some fields with a name ends where the first of
these fields points. -/
theorem find?_edges_target (fields : List Field) (slugs : List String)
    (source name : String) :
    ((fields.filterMap (·.edge? slugs source)).find? (·.field = name)).map
      (·.target) =
      (fields.filter (·.name = name)).findSome? fun f =>
        (f.resolve slugs).target? := by
  induction fields with
  | nil => rfl
  | cons f rest ih =>
      have htarget := f.edge?_target slugs source
      cases hf : f.edge? slugs source with
      | none =>
          rw [hf] at htarget
          simp only [List.filterMap_cons, hf]
          rw [ih, List.filter_cons]
          split
          · rw [List.findSome?_cons, ← htarget]
            rfl
          · rfl
      | some r =>
          rw [hf] at htarget
          have hfield : r.field = f.name := (Field.edge?_ends hf).2.1
          simp only [List.filterMap_cons, hf]
          by_cases hname : f.name = name
          · rw [List.find?_cons_of_pos (by simpa [hfield] using hname),
              List.filter_cons_of_pos (by simpa using hname),
              List.findSome?_cons, ← htarget]
            rfl
          · rw [List.find?_cons_of_neg (by simpa [hfield] using hname),
              List.filter_cons_of_neg (by simpa using hname), ih]

namespace Document

variable {d : Document} {config : ModuleConfig} {g : SchemaGraph} {e : Entity}

/-- What is found under the name of a field of a kept entity. -/
theorem edge?_target (h : d.validateWith config = .ok g)
    (he : e ∈ d.kept config) (name : String) :
    (g.edge? e.slug name).map (·.target) =
      e.targetOf? (d.entities.map (·.slug)) name := by
  have hfrom : g.edge? e.slug name =
      (g.edgesFrom e.slug).find? (·.field = name) := by
    simp [SchemaGraph.edge?, SchemaGraph.edgesFrom, List.find?_filter]
  rw [hfrom, edgesFrom_eq h he]
  exact find?_edges_target e.fields _ e.slug name

/-- A rule agrees with its field when the field points where the first of its
name does. -/
theorem fieldRule_follows_iff [Pattern.Engine]
    (h : d.validateWith config = .ok g) (he : e ∈ d.kept config) (f : Field) :
    (g.fieldRule e.slug f).Follows f (d.entities.map (·.slug)) ↔
      (f.resolve (d.entities.map (·.slug))).target? =
        e.targetOf? (d.entities.map (·.slug)) f.name := by
  have hreference : (g.fieldRule e.slug f).reference =
      e.targetOf? (d.entities.map (·.slug)) f.name :=
    edge?_target h he f.name
  rw [← hreference]
  constructor
  · intro hfollows
    refine Option.ext fun slug => ?_
    rw [Resolution.target?_eq_some_iff, hfollows.reference_iff]
  · intro hsame
    exact {
      field_eq := rfl
      multiple_eq := rfl
      reference_iff := fun slug => by
        rw [← hsame, Resolution.target?_eq_some_iff] }

/-- Fields that agree with their homonyms point where the first of them does. -/
theorem targetOf?_eq {slugs : List String} (hagree : e.HomonymsAgree slugs)
    {f : Field} (hf : f ∈ SchemaGraph.ruledFields e) :
    e.targetOf? slugs f.name = (f.resolve slugs).target? := by
  have hruled : ∀ other ∈ e.fields.filter (·.name = f.name),
      (other.resolve slugs).target? = (f.resolve slugs).target? := by
    intro other hother
    obtain ⟨hmem, hname⟩ := List.mem_filter.mp hother
    have hname : other.name = f.name := by simpa using hname
    have huser : f.name ∉ Record.systemFields := by
      simpa using (List.mem_filter.mp hf).2
    exact hagree f hf other
      (List.mem_filter.mpr ⟨hmem, by simpa [hname] using huser⟩) hname
  have hmem : f ∈ e.fields.filter (·.name = f.name) :=
    List.mem_filter.mpr ⟨List.mem_of_mem_filter hf, by simp⟩
  rw [Entity.targetOf?]
  cases htarget : (f.resolve slugs).target? with
  | none =>
      refine List.findSome?_eq_none_iff.mpr fun other hother => ?_
      rw [hruled other hother, htarget]
  | some slug =>
      obtain ⟨first, rest, hsplit⟩ :=
        List.exists_cons_of_ne_nil (List.ne_nil_of_mem hmem)
      rw [hsplit, List.findSome?_cons,
        hruled first (hsplit ▸ List.mem_cons_self), htarget]

/-- **When the rules of an entity agree with the check.** Every rule has the
name and multiplicity of its field, and the target of the first field of that
name that has one.  So the rules stand beside the fields, each pointing where
its field does, exactly when fields with one name point to one place. -/
theorem fieldRules_follow_iff [Pattern.Engine]
    (h : d.validateWith config = .ok g) (he : e ∈ d.kept config) :
    ((g.fieldRules e).rules.map fun r => (r.field, r.multiple, r.reference)) =
        ((SchemaGraph.ruledFields e).map fun f =>
          (f.name, f.isMultiple, e.targetOf? (d.entities.map (·.slug)) f.name)) ∧
      (List.Forall₂ (fun f r => r.Follows f (d.entities.map (·.slug)))
          (SchemaGraph.ruledFields e)
          (g.fieldRules e).rules ↔
        e.HomonymsAgree (d.entities.map (·.slug))) := by
  constructor
  · rw [SchemaGraph.fieldRules, List.map_map]
    refine List.map_congr_left fun f _ => ?_
    rw [← edge?_target h he f.name]
    rfl
  · rw [SchemaGraph.fieldRules, List.forall₂_map_right_iff, List.forall₂_same]
    constructor
    · intro hfollow f hf other hother hname
      rw [(fieldRule_follows_iff h he other).mp (hfollow other hother),
        (fieldRule_follows_iff h he f).mp (hfollow f hf), hname]
    · intro hagree f hf
      exact (fieldRule_follows_iff h he f).mpr (targetOf?_eq hagree hf).symm

end Document

/-- A clinic.  The two fields of a round have one name and different targets. -/
def clinicDocument : Document where
  projectName := "clinic"
  modules := []
  entities := [
    { slug := "doctors" }, { slug := "rooms" },
    { slug := "visits", fields := [{ name := "id" },
      { name := "doctor_id" }, { name := "room_ids" },
      { name := "note" }, { name := "note", label := some "Remark" }] },
    { slug := "rounds",
      fields := [{ name := "place", referenceEntity := some "doctors" },
      { name := "place", referenceEntity := some "rooms" }] }]

/-- The rules of visits agree with the check, although two fields have one
name. -/
theorem clinicDocument_visits_follow :
    ∃ g, clinicDocument.validate = .ok g ∧
      ∃ e ∈ clinicDocument.kept (.ofSettings []), e.slug = "visits" ∧
        ((g.fieldRules e).rules.map fun r => (r.field, r.multiple, r.reference)) =
          [("doctor_id", false, some "doctors"), ("room_ids", true, some "rooms"),
            ("note", false, none), ("note", false, none)] ∧
        List.Forall₂
          (fun f r => r.Follows f (clinicDocument.entities.map (·.slug)))
          (SchemaGraph.ruledFields e) (g.fieldRules e).rules := by
  have haccepted : clinicDocument.validateWith (.ofSettings []) = .ok _ := rfl
  have hvisits : _ ∈ clinicDocument.kept (.ofSettings []) :=
    List.mem_of_getElem? (i := 2) rfl
  obtain ⟨hrules, hfollow⟩ := Document.fieldRules_follow_iff haccepted hvisits
  exact ⟨_, haccepted, _, hvisits, rfl, hrules.trans (by decide +kernel),
    hfollow.mpr (by decide +kernel)⟩

/-- **The rule of a round's room points to doctors**: its field comes second
among two of one name. -/
theorem clinicDocument_rounds_astray :
    ∃ g, clinicDocument.validate = .ok g ∧
      ∃ e ∈ clinicDocument.kept (.ofSettings []), ∃ f r,
        (SchemaGraph.ruledFields e)[1]? = some f ∧
        (g.fieldRules e).rules[1]? = some r ∧
        f.resolve (clinicDocument.entities.map (·.slug)) =
          .target "rooms" true ∧
        r.reference = some "doctors" :=
  ⟨_, rfl, _, List.mem_of_getElem? (i := 3) rfl, _, _, rfl, rfl, rfl, rfl⟩

end ServiceLoom
