import ServiceLoom.Template.Identifier

/-!
# Slugs with one module name

The module name of a slug is the slug in the characters of a name, with
something added where that could not name a module.  Both steps lose something:
`order-items` and `order_items` are written with the same characters, and
`type_` is what `type` becomes.

* `protect_eq_iff` — when two texts become one by what is added to them;
* `moduleName_eq_iff` — when two slugs have one module name;
* `moduleName_eq_self_iff` — which slugs are their own module names.
-/

namespace ServiceLoom.Template

/-- A slug in the characters of a module name. -/
def folded (slug : String) : String :=
  String.ofList (slug.toList.map moduleChar)

/-- A text with what is added to it so that it can name a module. -/
def protect (s : String) : String :=
  if needsLetter s.toList then "e_" ++ s
  else if s ∈ keywords then s ++ "_" else s

/-- Whether something is added to a text, and what it becomes by that. -/
def Becomes (a b : String) : Prop :=
  (needsLetter a.toList = true ∧ b = "e_" ++ a) ∨ (a ∈ keywords ∧ b = a ++ "_")

/-- Whether two slugs are the same once they are folded, or one of them is then
the other with what is added to that. -/
def SharesName (a b : String) : Prop :=
  folded a = folded b ∨ Becomes (folded a) (folded b) ∨
    Becomes (folded b) (folded a)

instance (a b : String) : Decidable (Becomes a b) := by
  unfold Becomes
  infer_instance

instance (a b : String) : Decidable (SharesName a b) := by
  unfold SharesName
  infer_instance

/-! ## What is added to a name -/

/-- What is added to a keyword makes no other keyword of it, and it is nothing
that is added to other texts. -/
theorem keywords_spelled : ∀ k ∈ keywords, k ++ "_" ∉ keywords ∧
      needsLetter k.toList = false ∧
    needsLetter (k ++ "_").toList = false ∧
    ¬ "e_".toList <+: (k ++ "_").toList := by
  decide +kernel

theorem needsLetter_letter (s : String) :
    needsLetter ("e_" ++ s).toList = false := by
  rw [String.toList_append]
  rfl

theorem letter_not_mem_keywords (s : String) : "e_" ++ s ∉ keywords := by
  intro hmem
  refine (keywords_spelled _ hmem).2.2.2 ?_
  rw [String.toList_append, String.toList_append, List.append_assoc]
  exact List.prefix_append _ _

/-- Something is added to a text, or nothing. -/
theorem protect_cases (s : String) : Becomes s (protect s) ∨ protect s = s := by
  unfold protect
  split
  next hletter => exact .inl (.inl ⟨hletter, rfl⟩)
  next =>
    split
    next hkeyword => exact .inl (.inr ⟨hkeyword, rfl⟩)
    next => exact .inr rfl

namespace Becomes

variable {a b c : String}

/-- What a text becomes stays as it is. -/
theorem protect_eq (h : Becomes a b) : protect a = b ∧ protect b = b := by
  rcases h with ⟨hletter, rfl⟩ | ⟨hkeyword, rfl⟩
  · rw [protect, if_pos hletter, protect, needsLetter_letter,
      if_neg Bool.false_ne_true, if_neg (letter_not_mem_keywords a)]
    exact ⟨rfl, rfl⟩
  · obtain ⟨hother, hkept, hkept', -⟩ := keywords_spelled a hkeyword
    rw [protect, hkept, if_neg Bool.false_ne_true, if_pos hkeyword, protect,
      hkept', if_neg Bool.false_ne_true, if_neg hother]
    exact ⟨rfl, rfl⟩

/-- No two texts become one by what is added to them. -/
theorem unique (ha : Becomes a c) (hb : Becomes b c) : a = b := by
  have hclash : ∀ s k, k ∈ keywords → "e_" ++ s ≠ k ++ "_" := by
    intro s k hk heq
    refine (keywords_spelled k hk).2.2.2 ?_
    rw [← heq, String.toList_append]
    exact List.prefix_append _ _
  rcases ha with ⟨-, rfl⟩ | ⟨hkeyword, rfl⟩ <;> rcases hb with
      ⟨-, hb⟩ | ⟨hkeyword', hb⟩
  · exact (String.append_right_inj _).mp hb
  · exact absurd hb (hclash a b hkeyword')
  · exact absurd hb.symm (hclash b a hkeyword)
  · exact (String.append_left_inj _).mp hb

end Becomes

/-- **When two texts become one**: they are the same, or one of them is the
other with what is added to that. -/
theorem protect_eq_iff {a b : String} : protect a = protect b ↔
    a = b ∨ Becomes a b ∨ Becomes b a := by
  constructor
  · intro heq
    rcases protect_cases a with hbecomes | hself <;> rcases protect_cases b with
        hbecomes' | hself'
    · exact .inl (hbecomes.unique (heq ▸ hbecomes'))
    · exact .inr (.inl (by rwa [heq, hself'] at hbecomes))
    · exact .inr (.inr (by rwa [← heq, hself] at hbecomes'))
    · exact .inl (hself.symm.trans (heq.trans hself'))
  · rintro (rfl | hbecomes | hbecomes)
    · rfl
    · exact hbecomes.protect_eq.1.trans hbecomes.protect_eq.2.symm
    · exact hbecomes.protect_eq.2.trans hbecomes.protect_eq.1.symm

/-- What a text becomes is no keyword. -/
theorem protect_not_mem_keywords (s : String) : protect s ∉ keywords := by
  unfold protect
  split
  next => exact letter_not_mem_keywords s
  next =>
    split
    next hkeyword => exact (keywords_spelled s hkeyword).1
    next hother => exact hother

/-- Nothing is added to a text that can name a module as it is. -/
theorem protect_eq_self_iff {s : String} : protect s = s ↔
    needsLetter s.toList = false ∧ s ∉ keywords := by
  constructor
  · intro hself
    refine ⟨Bool.eq_false_iff.mpr fun hletter => ?_, ?_⟩
    · rw [protect, if_pos hletter] at hself
      rw [← hself, needsLetter_letter] at hletter
      cases hletter
    · rw [← hself]
      exact protect_not_mem_keywords s
  · rintro ⟨hstarts, hother⟩
    rw [protect, hstarts, if_neg Bool.false_ne_true, if_neg hother]

/-! ## Module names -/

/-- The module name of a slug in two steps. -/
theorem moduleName_eq_protect (slug : String) :
    moduleName slug = protect (folded slug) := by
  unfold moduleName
  dsimp only
  rw [protect, folded, String.toList_ofList]
  split
  next =>
    have hadded : String.ofList ('e' :: '_' :: slug.toList.map moduleChar) =
        "e_" ++ String.ofList (slug.toList.map moduleChar) := by
      rw [← String.toList_inj, String.toList_append, String.toList_ofList,
        String.toList_ofList, String.toList_ofList]
      rfl
    rw [hadded, if_neg]
    rw [List.contains_iff_mem]
    exact letter_not_mem_keywords _
  next => simp only [List.contains_iff_mem]

/-- **When two slugs have one module name.** -/
theorem moduleName_eq_iff {a b : String} : moduleName a = moduleName b ↔
    SharesName a b := by
  rw [moduleName_eq_protect, moduleName_eq_protect, protect_eq_iff]
  rfl

/-- No module has the name of an index. -/
theorem moduleName_ne_mod (slug : String) : moduleName slug ≠ "mod" := by
  intro heq
  refine protect_not_mem_keywords (folded slug) ?_
  rw [← moduleName_eq_protect, heq]
  decide

/-- Letters and digits are among the first characters. -/
theorem toNat_lt_of_isAlphanum {c : Char} (h : c.isAlphanum = true) :
    c.toNat < 128 := by
  have hbound : ∀ last : UInt32, last.toNat < 128 →
      c.val ≤ last → c.toNat < 128 :=
    fun last hlast hle =>
      Nat.lt_of_le_of_lt (UInt32.le_iff_toNat_le.mp hle) hlast
  rcases Bool.or_eq_true_iff.mp h with halpha | hdigit
  · rcases Bool.or_eq_true_iff.mp halpha with hupper | hlower
    · exact hbound 'Z'.val (by decide) (of_decide_eq_true hupper).2
    · exact hbound 'z'.val (by decide)
        (of_decide_eq_true (Bool.and_eq_true_iff.mp hlower).2)
  · exact hbound '9'.val (by decide)
      (of_decide_eq_true (Bool.and_eq_true_iff.mp hdigit).2)

/-- What holds of the first characters once they are folded holds of all: the
others become underscores. -/
theorem forall_moduleChar {P : Char → Prop}
    (h : ∀ n < 128, P (moduleChar (Char.ofNat n))) (c : Char) :
    P (moduleChar c) := by
  by_cases halnum : c.isAlphanum = true
  · have hsmall := h c.toNat (toNat_lt_of_isAlphanum halnum)
    rwa [Char.ofNat_toNat] at hsmall
  · have hfirst : moduleChar c = moduleChar (Char.ofNat '_'.toNat) := by
      rw [moduleChar, Bool.eq_false_iff.mpr halnum, Bool.false_or]
      split
      next hunderscore =>
        rw [eq_of_beq hunderscore]
        rfl
      next => rfl
    rw [hfirst]
    exact h _ (by decide)

/-- Folding changes no character twice. -/
theorem moduleChar_moduleChar (c : Char) :
    moduleChar (moduleChar c) = moduleChar c :=
  forall_moduleChar (P := fun c => moduleChar c = c) (by decide +kernel) c

/-- A module name has no characters that folding changes. -/
theorem moduleChar_of_mem {slug : String} {c : Char}
    (h : c ∈ (moduleName slug).toList) : moduleChar c = c := by
  have hfolded : ∀ c ∈ (folded slug).toList, moduleChar c = c := by
    rw [folded, String.toList_ofList]
    exact List.forall_mem_map.mpr fun c _ => moduleChar_moduleChar c
  rw [moduleName_eq_protect] at h
  rcases protect_cases (folded slug) with (⟨-, hadded⟩ | ⟨-, hadded⟩) | hself
  · rw [hadded, String.toList_append, List.mem_append] at h
    rcases h with hadd | hmem
    · obtain rfl | rfl : c = 'e' ∨ c = '_' := by simpa using hadd
      · decide
      · decide
    · exact hfolded c hmem
  · rw [hadded, String.toList_append, List.mem_append] at h
    rcases h with hmem | hadd
    · exact hfolded c hmem
    · obtain rfl : c = '_' := by simpa using hadd
      decide
  · rw [hself] at h
    exact hfolded c h

/-- **Which slugs are their own module names**: those that folding leaves alone
and that can name a module as they are. -/
theorem moduleName_eq_self_iff {slug : String} :
    moduleName slug = slug ↔ folded slug = slug ∧
      needsLetter slug.toList = false ∧ slug ∉ keywords := by
  constructor
  · intro hself
    have hfolded : folded slug = slug := by
      rw [folded, ← String.toList_inj, String.toList_ofList]
      refine (List.map_congr_left fun c hc => ?_).trans (List.map_id _)
      exact moduleChar_of_mem (hself ▸ hc)
    rw [moduleName_eq_protect, hfolded] at hself
    exact ⟨hfolded, protect_eq_self_iff.mp hself⟩
  · rintro ⟨hfolded, hkept⟩
    rw [moduleName_eq_protect, hfolded]
    exact protect_eq_self_iff.mpr hkept

end ServiceLoom.Template
