import ServiceLoom.Proofs.Schema.Resolution
import Mathlib.Data.Finset.Card
import Mathlib.Tactic.Tauto

/-!
# The laws of resolution

What a reference with a base points at, said without the search for it.  Of the
plural forms of the base that are slugs a declared target takes the first, and
an inferred one the only one; when there are none, it is the least of the slugs
that start with the base.  So only the forms and those slugs matter
(`Field.MayPointTo`).

The plural forms of a base differ from one another (`nodup_pluralForms`), so
that several forms that are slugs are several slugs.
-/

namespace ServiceLoom

/-! ## Plural forms -/

/-- A text is what is left without an ending, and the ending. -/
theorem toList_eq_of_withoutEnding? {ending text stem : String}
    (h : withoutEnding? ending text = some stem) :
    text.toList = stem.toList ++ ending.toList := by
  unfold withoutEnding? at h
  split at h
  next hends =>
    obtain rfl := Option.some.inj h
    obtain ⟨front, hfront⟩ := List.isSuffixOf_iff_suffix.mp hends
    rw [String.toList_ofList, ← hfront, List.length_append,
      Nat.add_sub_cancel, List.take_left]
  · cases h

/-- **The plural forms of a base differ from one another.** -/
theorem nodup_pluralForms (base : String) : (pluralForms base).Nodup := by
  have hlength : ∀ {a b : String}, a.toList.length ≠ b.toList.length → a ≠ b :=
    fun hne heq => hne (heq ▸ rfl)
  have hs : base ≠ base ++ "s" := hlength (by simp)
  have hes : base ≠ base ++ "es" := hlength (by simp)
  have hses : base ++ "s" ≠ base ++ "es" := hlength (by simp)
  unfold pluralForms
  cases hstem : withoutEnding? "y" base with
  | none => simp [hs, hes, hses]
  | some stem =>
      have hbase := toList_eq_of_withoutEnding? hstem
      have hies : base ≠ stem ++ "ies" := hlength (by simp [hbase])
      have hsies : base ++ "s" ≠ stem ++ "ies" := hlength (by simp [hbase])
      have hesies : base ++ "es" ≠ stem ++ "ies" := by
        intro heq
        -- Both are as long, and differ where the base ends.
        have hchars := congrArg String.toList heq
        rw [String.toList_append, String.toList_append,
          hbase, List.append_assoc, List.append_cancel_left_eq] at hchars
        cases hchars
      simp [hs, hes, hses, hies, hsies, hesies]

namespace Field

variable {f : Field} {slugs others : List String} {slug : String}

/-! ## What is chosen -/

theorem formsIn_eq (f : Field) (slugs : List String) :
    f.formsIn slugs = (pluralForms f.referenceBase).filter (· ∈ slugs) :=
  List.filter_congr fun _ _ => by simp

theorem mem_formsIn_iff : slug ∈ f.formsIn slugs ↔
    slug ∈ pluralForms f.referenceBase ∧ slug ∈ slugs := by
  rw [formsIn_eq, List.mem_filter, decide_eq_true_iff]

theorem mem_startingIn_iff :
    slug ∈ f.startingIn slugs ↔ slug ∈ slugs ∧
      f.referenceBase.toList <+: slug.toList := by
  rw [startingIn, List.mem_filter, List.isPrefixOf_iff_prefix]

theorem formsIn_eq_nil_iff : f.formsIn slugs = [] ↔
    ∀ form ∈ pluralForms f.referenceBase, form ∉ slugs := by
  rw [List.eq_nil_iff_forall_not_mem]
  constructor
  · intro hnone form hform hslug
    exact hnone form (mem_formsIn_iff.mpr ⟨hform, hslug⟩)
  · intro hnone form hform
    obtain ⟨hmem, hslug⟩ := mem_formsIn_iff.mp hform
    exact hnone form hmem hslug

/-- There are several plural forms among the slugs when two different ones
are. -/
theorem one_lt_length_formsIn_iff : 1 < (f.formsIn slugs).length ↔
    ∃ a b, a ≠ b ∧ (a ∈ pluralForms f.referenceBase ∧ a ∈ slugs) ∧
      (b ∈ pluralForms f.referenceBase ∧ b ∈ slugs) := by
  have hnodup : (f.formsIn slugs).Nodup := (nodup_pluralForms _).filter _
  rw [← List.toFinset_card_of_nodup hnodup, Finset.one_lt_card]
  simp only [List.mem_toFinset, mem_formsIn_iff]
  constructor
  · rintro ⟨a, ha, b, hb, hne⟩
    exact ⟨a, b, hne, ha, hb⟩
  · rintro ⟨a, b, hne, ha, hb⟩
    exact ⟨a, ha, b, hb, hne⟩

/-- **A choice is ambiguous** when the target is not declared and there are
several forms. -/
theorem choose_eq_ambiguous_iff {forms found : List String}
    {best : Option String} {base : String} :
    f.choose forms best = .ambiguous base found ↔
      (f.explicitTarget = none ∧ 1 < forms.length) ∧
        base = f.referenceBase ∧ found = forms := by
  unfold choose
  cases forms with
  | nil => cases best <;> simp
  | cons first rest =>
      dsimp only
      cases rest with
      | nil => simp
      | cons second more =>
          cases f.explicitTarget with
          | none => simp [eq_comm]
          | some declared => simp

/-- What is chosen among forms is the first of them. -/
theorem head?_of_choose {forms : List String} {best : Option String}
    {explicit : Bool} (h : f.choose forms best = .target slug explicit)
    (hforms : forms ≠ []) : forms.head? = some slug := by
  cases forms with
  | nil => exact absurd rfl hforms
  | cons first rest =>
      unfold choose at h
      dsimp only at h
      split at h
      · cases h
      · cases h
        rfl

/-- Without forms the preferred slug is chosen. -/
theorem choose_nil_eq_target_iff {best : Option String} :
    f.choose [] best = .target slug f.explicitTarget.isSome ↔
    best = some slug := by
  cases best with
  | none => exact iff_of_false nofun nofun
  | some other => simp [choose]

theorem choose_nil_eq_unresolved_iff {best : Option String} :
    f.choose [] best = .unresolved f.referenceBase ↔ best = none := by
  cases best with
  | none => exact iff_of_true rfl rfl
  | some other => exact iff_of_false nofun nofun

/-- A target is marked as declared or as inferred. -/
theorem explicit_of_choose {forms : List String} {best : Option String}
    {explicit : Bool} (h : f.choose forms best = .target slug explicit) :
    explicit = f.explicitTarget.isSome := by
  unfold choose at h
  split at h
  · split at h
    · cases h
    · cases h
      rfl
  · split at h
    · cases h
      rfl
    · cases h

/-! ## The laws -/

/-- A slug that a reference may point to: a plural form of its base, or one that
starts with the base. -/
def MayPointTo (f : Field) (slug : String) : Prop :=
  slug ∈ pluralForms f.referenceBase ∨ f.referenceBase.toList <+: slug.toList

/-- Where a reference with a base points among slugs. -/
structure ResolvesIn (f : Field) (slugs : List String) : Prop where
  target_mem : ∀ slug explicit, f.resolve slugs = .target slug explicit →
    slug ∈ slugs
  target_explicit : ∀ slug explicit, f.resolve slugs = .target slug explicit →
    explicit = f.explicitTarget.isSome
  /-- A declared target is never ambiguous. -/
  declared_clear : f.explicitTarget ≠ none →
    ∀ base found, f.resolve slugs ≠ .ambiguous base found
  /-- An inferred one is when two plural forms are slugs. -/
  inferred_ambiguous_iff : f.explicitTarget = none →
    ((∃ base found, f.resolve slugs = .ambiguous base found) ↔
      ∃ a b, a ≠ b ∧ (a ∈ pluralForms f.referenceBase ∧ a ∈ slugs) ∧
        (b ∈ pluralForms f.referenceBase ∧ b ∈ slugs))
  /-- Then all of those forms are listed, in order of preference. -/
  found_eq : ∀ base found, f.resolve slugs = .ambiguous base found →
    base = f.referenceBase ∧
      found = (pluralForms f.referenceBase).filter (· ∈ slugs)
  /-- Among plural forms the first that is a slug is the target. -/
  target_first : (∃ form ∈ pluralForms f.referenceBase, form ∈ slugs) →
    ∀ slug explicit, f.resolve slugs = .target slug explicit →
      (pluralForms f.referenceBase).find? (· ∈ slugs) = some slug
  /-- Without any, it is the least of the slugs that start with the base. -/
  target_least_iff :
    (∀ form ∈ pluralForms f.referenceBase, form ∉ slugs) → ∀ slug,
    (f.resolve slugs = .target slug f.explicitTarget.isSome ↔
      (slug ∈ slugs ∧ f.referenceBase.toList <+: slug.toList) ∧
        ∀ other ∈ slugs, f.referenceBase.toList <+: other.toList →
          slug.utf8ByteSize < other.utf8ByteSize ∨
            slug.utf8ByteSize = other.utf8ByteSize ∧ slug ≤ other)
  unresolved_iff : (∀ form ∈ pluralForms f.referenceBase, form ∉ slugs) →
    (f.resolve slugs = .unresolved f.referenceBase ↔
      ∀ other ∈ slugs, ¬ f.referenceBase.toList <+: other.toList)
  /-- Other slugs make no difference, whether they come or go, in whatever
  order. -/
  congr :
    ∀ others, (∀ slug, f.MayPointTo slug → (slug ∈ slugs ↔ slug ∈ others)) →
    f.resolve others = f.resolve slugs

/-- The order of preference is by length, and then by the characters. -/
theorem rank_le_iff {a b : String} : rank a ≤ rank b ↔
    a.utf8ByteSize < b.utf8ByteSize ∨ a.utf8ByteSize = b.utf8ByteSize ∧ a ≤ b :=
  Prod.Lex.toLex_le_toLex

/-- A reference with a base is resolved by choosing. -/
theorem resolve_eq_choose (hlike : f.isReferenceLike = true)
    (hbase : f.referenceBase ≠ "") (slugs : List String) :
    f.resolve slugs =
      f.choose (f.formsIn slugs) (preferred? (f.startingIn slugs)) := by
  rw [resolve_eq, hlike, if_neg hbase]
  rfl

/-- **A reference is ambiguous** when it is inferred and several forms of its
base are slugs. -/
theorem resolve_eq_ambiguous_iff (hlike : f.isReferenceLike = true)
    (hbase : f.referenceBase ≠ "") {base : String} {found : List String} :
    f.resolve slugs = .ambiguous base found ↔
      (f.explicitTarget = none ∧ 1 < (f.formsIn slugs).length) ∧
        base = f.referenceBase ∧ found = f.formsIn slugs := by
  rw [resolve_eq_choose hlike hbase]
  exact choose_eq_ambiguous_iff

/-- Without forms it is the slugs that start with the base among which is
chosen. -/
theorem resolve_eq_choose_nil (hlike : f.isReferenceLike = true)
    (hbase : f.referenceBase ≠ "")
    (hnone : ∀ form ∈ pluralForms f.referenceBase, form ∉ slugs) :
    f.resolve slugs = f.choose [] (preferred? (f.startingIn slugs)) := by
  rw [resolve_eq_choose hlike hbase, formsIn_eq_nil_iff.mpr hnone]

/-- The least slug that starts with the base is the preferred one. -/
theorem preferred?_startingIn_iff :
    preferred? (f.startingIn slugs) = some slug ↔
    (slug ∈ slugs ∧ f.referenceBase.toList <+: slug.toList) ∧
      ∀ other ∈ slugs, f.referenceBase.toList <+: other.toList →
        slug.utf8ByteSize < other.utf8ByteSize ∨
          slug.utf8ByteSize = other.utf8ByteSize ∧ slug ≤ other := by
  rw [preferred?_eq_some_iff, mem_startingIn_iff]
  refine and_congr_right fun _ => ?_
  constructor
  · intro hleast other hother hstarts
    exact rank_le_iff.mp (hleast other (mem_startingIn_iff.mpr ⟨hother, hstarts⟩))
  · intro hleast other hmem
    obtain ⟨hother, hstarts⟩ := mem_startingIn_iff.mp hmem
    exact rank_le_iff.mpr (hleast other hother hstarts)

/-- Lists that agree on the slugs that a field may point to lead to the same
place. -/
theorem resolve_congr_of_mayPointTo
    (h : ∀ slug, f.MayPointTo slug → (slug ∈ slugs ↔ slug ∈ others)) :
    f.resolve others = f.resolve slugs := by
  have hforms : f.formsIn others = f.formsIn slugs := by
    refine List.filter_congr fun form hform => ?_
    rw [Bool.eq_iff_iff, List.contains_iff_mem, List.contains_iff_mem,
      h form (Or.inl hform)]
  have hstarting : preferred? (f.startingIn others) =
      preferred? (f.startingIn slugs) := by
    refine preferred?_congr fun slug => ?_
    rw [mem_startingIn_iff, mem_startingIn_iff]
    exact and_congr_left fun hstarts => (h slug (Or.inr hstarts)).symm
  rw [resolve_eq, resolve_eq, hforms, hstarting]

/-- A reference with a base points where its laws say. -/
theorem resolvesIn (hlike : f.isReferenceLike = true)
    (hbase : f.referenceBase ≠ "") (slugs : List String) :
    f.ResolvesIn slugs where
  target_mem slug explicit h := resolve_target_mem h
  target_explicit slug explicit h :=
    explicit_of_choose (resolve_eq_choose hlike hbase slugs ▸ h)
  declared_clear hdeclared base found h :=
    hdeclared ((resolve_eq_ambiguous_iff hlike hbase).mp h).1.1
  inferred_ambiguous_iff hinferred := by
    rw [← one_lt_length_formsIn_iff]
    constructor
    · rintro ⟨base, found, h⟩
      exact ((resolve_eq_ambiguous_iff hlike hbase).mp h).1.2
    · intro hseveral
      exact ⟨_, _, (resolve_eq_ambiguous_iff hlike hbase).mpr
        ⟨⟨hinferred, hseveral⟩, rfl, rfl⟩⟩
  found_eq base found h := by
    obtain ⟨-, hbase, hfound⟩ := (resolve_eq_ambiguous_iff hlike hbase).mp h
    exact ⟨hbase, hfound.trans (f.formsIn_eq slugs)⟩
  target_first := by
    rintro ⟨form, hform, hslug⟩ slug explicit h
    have hforms : f.formsIn slugs ≠ [] :=
      List.ne_nil_of_mem (mem_formsIn_iff.mpr ⟨hform, hslug⟩)
    rw [← List.head?_filter, ← formsIn_eq]
    exact head?_of_choose (resolve_eq_choose hlike hbase slugs ▸ h) hforms
  target_least_iff hnone slug := by
    rw [resolve_eq_choose_nil hlike hbase hnone, choose_nil_eq_target_iff,
      preferred?_startingIn_iff]
  unresolved_iff hnone := by
    rw [resolve_eq_choose_nil hlike hbase hnone, choose_nil_eq_unresolved_iff,
      preferred?_eq_none_iff, List.eq_nil_iff_forall_not_mem]
    simp only [mem_startingIn_iff, not_and]
  congr others h := resolve_congr_of_mayPointTo h

/-- **The laws of resolution**, for every field and any slugs. -/
theorem resolve_lawful (f : Field) (slugs : List String) :
    (f.isReferenceLike = false → f.resolve slugs = .notReference) ∧
      (f.isReferenceLike = true → f.referenceBase = "" →
        f.resolve slugs = .unresolved "") ∧
      (f.isReferenceLike = true → f.referenceBase ≠ "" →
        f.ResolvesIn slugs) := by
  refine ⟨fun hlike => ?_, fun hlike hbase => ?_, fun hlike hbase =>
    resolvesIn hlike hbase slugs⟩
  · rw [resolve_eq, hlike]
    rfl
  · rw [resolve_eq, hlike, hbase]
    rfl

/-- A field for a category, by its name. -/
def categoryField : Field := { name := "category_id" }

/-- A category may be looked for in several places: with both forms among the
slugs it is ambiguous, with one it is that, and with none the shortest slug that
starts like it is taken, however the slugs are listed. -/
theorem categoryField_lawful :
    categoryField.isReferenceLike = true ∧ categoryField.referenceBase ≠ "" ∧
      categoryField.ResolvesIn ["categories", "orders", "category"] ∧
      categoryField.resolve ["categories", "orders", "category"] =
        .ambiguous "category" ["category", "categories"] ∧
      categoryField.resolve ["category_trees", "category_maps",
        "orders"] = .target "category_maps" false ∧
      categoryField.resolve ["orders", "category_maps",
        "category_trees", "shops"] =
        .target "category_maps" false := by
  have hlike : categoryField.isReferenceLike = true := by decide +kernel
  have hbase : categoryField.referenceBase ≠ "" := by decide +kernel
  have hlawful := (resolve_lawful categoryField ["category_trees",
      "category_maps", "orders"]).2.2 hlike hbase
  have hmaps : categoryField.resolve ["category_trees",
      "category_maps", "orders"] =
      .target "category_maps" false := by decide +kernel
  refine ⟨hlike, hbase, (resolve_lawful _ _).2.2 hlike hbase,
    by decide +kernel, hmaps, ?_⟩
  rw [← hmaps]
  refine hlawful.congr _ fun slug hmay => ?_
  have hshops : ¬ categoryField.MayPointTo "shops" := by
    unfold MayPointTo
    decide +kernel
  have hne : slug ≠ "shops" := fun heq => hshops (heq ▸ hmay)
  simp only [List.mem_cons, List.not_mem_nil, or_false, hne]
  tauto

end Field

end ServiceLoom
