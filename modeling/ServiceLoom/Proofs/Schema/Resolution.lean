import ServiceLoom.Proofs.Schema.Reference
import Mathlib.Data.Prod.Lex
import Mathlib.Data.String.Basic

/-!
# Resolution among other slugs

Where a field points depends on which slugs there are, and on nothing else about
the list of them.  Preference is a linear order on slugs, so the preferred one
of a list is its least member, wherever it stands (`preferred?_eq_some_iff`).

* `Field.resolve_congr` — lists with the same members lead to the same place;
* `Field.resolve_insert` — a slug that cannot be chosen makes no difference;
* `Field.resolve_of_subset` — with fewer slugs a field points where it did, when
  its target is still there.  An ambiguity may disappear with a slug, and an
  unresolved field stays unresolved.
-/

namespace ServiceLoom

/-- The place of a slug in the order of preference: by its length in bytes, then
by its characters. -/
def rank (slug : String) : Nat ×ₗ String := toLex (slug.utf8ByteSize, slug)

theorem rank_injective : Function.Injective rank :=
  fun _ _ h => congrArg (fun r => (ofLex r).2) h

theorem isPreferred_iff {a b : String} : isPreferred a b = true ↔
    rank a < rank b := by
  simp [isPreferred, rank, Prod.Lex.toLex_lt_toLex]

/-- There is a preferred slug unless the list is empty. -/
theorem preferred?_eq_none_iff {slugs : List String} :
    preferred? slugs = none ↔ slugs = [] := by
  cases slugs with
  | nil => simp [preferred?]
  | cons first rest =>
      rw [preferred?]
      split
      · split <;> simp
      · simp

/-- The preferred slug of a list is the least one. -/
theorem preferred?_le {slugs : List String} {best : String}
    (h : preferred? slugs = some best) : ∀ s ∈ slugs, rank best ≤ rank s := by
  induction slugs generalizing best with
  | nil => simp
  | cons first rest ih =>
      rw [preferred?] at h
      split at h
      next found hfound =>
        have hrest := ih hfound
        split at h
        next hlt =>
          obtain rfl := Option.some.inj h
          exact List.forall_mem_cons.mpr ⟨(isPreferred_iff.mp hlt).le, hrest⟩
        next hge =>
          obtain rfl := Option.some.inj h
          have hle : rank first ≤ rank found :=
            not_lt.mp (hge ∘ isPreferred_iff.mpr)
          exact List.forall_mem_cons.mpr
            ⟨le_rfl, fun s hs => hle.trans (hrest s hs)⟩
      next hnone =>
        obtain rfl := Option.some.inj h
        rw [preferred?_eq_none_iff.mp hnone]
        exact List.forall_mem_singleton.mpr le_rfl

/-- **The preferred slug is the least member of the list.** -/
theorem preferred?_eq_some_iff {slugs : List String} {best : String} :
    preferred? slugs = some best ↔ best ∈ slugs ∧
      ∀ s ∈ slugs, rank best ≤ rank s := by
  refine ⟨fun h => ⟨preferred?_mem h, preferred?_le h⟩, ?_⟩
  rintro ⟨hmem, hle⟩
  cases hfound : preferred? slugs with
  | none =>
      rw [preferred?_eq_none_iff.mp hfound] at hmem
      cases hmem
  | some found =>
      have heq : rank found = rank best :=
        le_antisymm (preferred?_le hfound best hmem)
          (hle found (preferred?_mem hfound))
      rw [rank_injective heq]

/-- Lists with the same members have the same preferred slug. -/
theorem preferred?_congr {slugs others : List String}
    (h : ∀ s, s ∈ slugs ↔ s ∈ others) :
    preferred? slugs = preferred? others := by
  cases hbest : preferred? slugs with
  | none =>
      rw [preferred?_eq_none_iff] at hbest
      subst hbest
      have hothers : others = [] := List.eq_nil_iff_forall_not_mem.mpr
          fun s hs => by simpa using (h s).mpr hs
      rw [hothers]
      rfl
  | some best =>
      obtain ⟨hmem, hle⟩ := preferred?_eq_some_iff.mp hbest
      exact (preferred?_eq_some_iff.mpr
        ⟨(h best).mp hmem, fun s hs => hle s ((h s).mpr hs)⟩).symm

/-- The preferred slug of a list is preferred among fewer, when it is one of
them. -/
theorem preferred?_of_subset {slugs others : List String}
    (hsub : ∀ s ∈ others, s ∈ slugs) {best : String}
    (hbest : preferred? slugs = some best) (hmem : best ∈ others) :
    preferred? others = some best :=
  preferred?_eq_some_iff.mpr ⟨hmem, fun s hs => preferred?_le hbest s (hsub s hs)⟩

namespace Field

variable {f : Field} {slugs others : List String}

/-- The plural forms of the base that are slugs, in order of preference. -/
def formsIn (f : Field) (slugs : List String) : List String :=
  (pluralForms f.referenceBase).filter slugs.contains

/-- The slugs that start with the base. -/
def startingIn (f : Field) (slugs : List String) : List String :=
  slugs.filter fun s => f.referenceBase.toList.isPrefixOf s.toList

/-- What is chosen among plural forms that are slugs, or else is the preferred
slug that starts with the base. -/
def choose (f : Field) (forms : List String) (best : Option String) :
    Resolution :=
  match forms with
  | first :: rest =>
    if !f.explicitTarget.isSome && !rest.isEmpty then
      .ambiguous f.referenceBase (first :: rest)
    else .target first f.explicitTarget.isSome
  | [] =>
    match best with
    | some slug => .target slug f.explicitTarget.isSome
    | none => .unresolved f.referenceBase

theorem resolve_eq (f : Field) (slugs : List String) : f.resolve slugs =
    if !f.isReferenceLike then .notReference
    else if f.referenceBase = "" then .unresolved f.referenceBase
    else f.choose (f.formsIn slugs) (preferred? (f.startingIn slugs)) := rfl

/-- **The order of the slugs does not matter**, nor how often each of them is
listed. -/
theorem resolve_congr (h : ∀ s, s ∈ slugs ↔ s ∈ others) :
    f.resolve slugs = f.resolve others := by
  have hforms : f.formsIn slugs = f.formsIn others := by
    refine List.filter_congr fun s _ => ?_
    rw [Bool.eq_iff_iff, List.contains_iff_mem, List.contains_iff_mem]
    exact h s
  have hstarting : preferred? (f.startingIn slugs) =
      preferred? (f.startingIn others) := by
    refine preferred?_congr fun s => ?_
    rw [startingIn, startingIn, List.mem_filter, List.mem_filter, h s]
  rw [resolve_eq, resolve_eq, hforms, hstarting]

/-- **A slug that a field cannot choose makes no difference to it**: neither a
plural form of its base, nor one that starts with it. -/
theorem resolve_insert {slug : String}
    (hform : f.isReferenceLike = true → slug ∉ pluralForms f.referenceBase)
    (hstart : f.isReferenceLike = true →
      ¬ f.referenceBase.toList <+: slug.toList) (before after : List String) :
    f.resolve (before ++ slug :: after) = f.resolve (before ++ after) := by
  rw [resolve_eq, resolve_eq]
  split
  · rfl
  next hlike =>
    have hlike : f.isReferenceLike = true := by simpa using hlike
    have hforms : f.formsIn (before ++ slug :: after) =
        f.formsIn (before ++ after) := by
      refine List.filter_congr fun s hs => ?_
      have hne : s ≠ slug := fun heq => hform hlike (heq ▸ hs)
      simp [hne]
    have hstarting : f.startingIn (before ++ slug :: after) =
        f.startingIn (before ++ after) := by
      have hnot : f.referenceBase.toList.isPrefixOf slug.toList = false := by
        simpa [← List.isPrefixOf_iff_prefix] using hstart hlike
      simp [startingIn, hnot]
    rw [hforms, hstarting]

/-- A choice stands when what is chosen is kept and was the only one, or the
first of those that a declared target allows. -/
theorem choose_filter {keep : String → Bool}
    {forms : List String} {best other : Option String}
    (hbest : ∀ slug, best = some slug → keep slug = true → other = some slug)
    (hnone : best = none → other = none)
    (htarget : ∀ slug explicit, f.choose forms best = .target slug explicit →
      keep slug = true)
    (hclear : ∀ base found, f.choose forms best ≠ .ambiguous base found) :
    f.choose (forms.filter keep) other = f.choose forms best := by
  cases forms with
  | nil =>
      cases best with
      | none =>
          rw [hnone rfl]
          rfl
      | some slug =>
          rw [hbest slug rfl (htarget slug _ rfl)]
          rfl
  | cons first rest =>
      by_cases hseveral : (!f.explicitTarget.isSome && !rest.isEmpty) = true
      · exact absurd (if_pos hseveral) (hclear f.referenceBase (first :: rest))
      · have hchosen : f.choose (first :: rest) best =
            .target first f.explicitTarget.isSome :=
          if_neg hseveral
        have hrest : ¬ (!f.explicitTarget.isSome &&
            !(rest.filter keep).isEmpty) = true := by
          cases rest with
          | nil => simp
          | cons second more =>
              have hdeclared : f.explicitTarget ≠ none := by
                simpa using hseveral
              simp [hdeclared]
        rw [List.filter_cons_of_pos (htarget first _ hchosen), hchosen]
        exact if_neg hrest

/-- **With fewer slugs a field points where it did**, when its target is still
among them and was not one of several: fewer plural forms are slugs, and the
least slug with a beginning stays the least. -/
theorem resolve_of_subset (hsub : ∀ s ∈ others, s ∈ slugs)
    (htarget : ∀ slug explicit, f.resolve slugs = .target slug explicit → slug ∈
      others) (hclear : ∀ base found, f.resolve slugs ≠ .ambiguous base found) :
    f.resolve others = f.resolve slugs := by
  have hforms : f.formsIn others =
      (f.formsIn slugs).filter others.contains := by
    rw [formsIn, formsIn, List.filter_filter]
    refine List.filter_congr fun s _ => ?_
    by_cases hs : s ∈ others
    · simp [hs, hsub s hs]
    · simp [hs]
  have hstarting : ∀ s ∈ f.startingIn others, s ∈ f.startingIn slugs := by
    intro s hs
    obtain ⟨hmem, hstarts⟩ := List.mem_filter.mp hs
    exact List.mem_filter.mpr ⟨hsub s hmem, hstarts⟩
  rw [resolve_eq] at htarget hclear
  rw [resolve_eq, resolve_eq]
  split
  · rfl
  next hlike =>
    rw [if_neg hlike] at htarget hclear
    split
    · rfl
    next hbase =>
      rw [if_neg hbase] at htarget hclear
      rw [hforms]
      refine choose_filter ?_ ?_ (fun slug explicit h =>
        by simpa using htarget slug explicit h) hclear
      · intro slug hslug hkept
        refine preferred?_of_subset hstarting hslug
          (List.mem_filter.mpr ⟨by simpa using hkept, ?_⟩)
        exact (List.mem_filter.mp (preferred?_mem hslug)).2
      · intro hnone
        rw [preferred?_eq_none_iff] at hnone ⊢
        exact List.eq_nil_iff_forall_not_mem.mpr fun s hs => by
          simpa [hnone] using hstarting s hs

end Field

end ServiceLoom
