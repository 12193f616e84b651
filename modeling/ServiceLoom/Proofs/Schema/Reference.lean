import ServiceLoom.Schema.Reference
import ServiceLoom.Schema.Graph

/-!
# Targets of references

A reference that is resolved points at one of the slugs that it was resolved
against, whether the slug is a plural form of the base or only starts with it.
So whoever resolves against the slugs of a document obtains entities of that
document.
-/

namespace ServiceLoom

/-- The slug that is preferred to all others is one of them. -/
theorem preferred?_mem {slugs : List String} {slug : String}
    (h : preferred? slugs = some slug) : slug ∈ slugs := by
  induction slugs generalizing slug with
  | nil => simp [preferred?] at h
  | cons first rest ih =>
      cases hbest : preferred? rest with
      | none =>
          simp only [preferred?, hbest, Option.some.injEq] at h
          exact h ▸ List.mem_cons_self
      | some best =>
          simp only [preferred?, hbest] at h
          split at h
          · obtain rfl := Option.some.inj h
            exact List.mem_cons_of_mem _ (ih hbest)
          · obtain rfl := Option.some.inj h
            exact List.mem_cons_self

/-- **A target is one of the slugs.** This holds for both ways of finding it. -/
theorem Field.resolve_target_mem {f : Field}
    {slugs : List String} {slug : String} {explicit : Bool}
    (h : f.resolve slugs = .target slug explicit) : slug ∈ slugs := by
  unfold Field.resolve at h
  split at h
  · cases h
  · dsimp only at h
    split at h
    · cases h
    · split at h
      next first rest hforms =>
        have hfirst :
            first ∈ (pluralForms f.referenceBase).filter slugs.contains := by
          rw [hforms]
          exact List.mem_cons_self
        split at h
        · cases h
        · cases h
          simpa using (List.mem_filter.mp hfirst).2
      next hforms =>
        split at h
        next best hbest =>
          cases h
          exact (List.mem_filter.mp (preferred?_mem hbest)).1
        · cases h

/-- The reference of a field of an entity, when the field resolves to a
target. -/
def Field.edge? (f : Field) (slugs : List String) (source : String) :
    Option ReferenceEdge :=
  match f.resolve slugs with
  | .target slug explicit => some ⟨source, f.name, slug, explicit, f.isMultiple⟩
  | _ => none

/-- An edge starts where its field stands and ends at one of the slugs. -/
theorem Field.edge?_ends {f : Field} {slugs : List String} {source : String}
    {e : ReferenceEdge} (h : f.edge? slugs source = some e) :
    e.source = source ∧ e.field = f.name ∧ e.target ∈ slugs ∧
    e.multiple = f.isMultiple := by
  unfold Field.edge? at h
  split at h
  next slug explicit hr =>
    obtain rfl := Option.some.inj h
    exact ⟨rfl, rfl, Field.resolve_target_mem hr, rfl⟩
  · cases h

end ServiceLoom
