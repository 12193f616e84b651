import ServiceLoom.Proofs.Record.Values
import Mathlib.Data.String.Basic

/-!
# Dictionaries in order

Every dictionary that is built by writing entries lists each name once, in
ascending order.  A patch of that kind says one thing about a name, and the
merge with it says the same (`Dict.get?_merge`).  Entries of different names may
be written in either order (`Dict.insert_comm`), and of two under one name the
second is all that remains (`Dict.insert_insert`).  So a patch that is merged
twice is merged once (`Dict.merge_merge_self`).
-/

namespace ServiceLoom.Dict

variable {α : Type} {d base patch : Dict α} {key : String}

/-- The names ascend, so each of them is there once. -/
def Ordered (d : Dict α) : Prop := d.Pairwise fun a b => a.1 < b.1

instance (d : Dict α) : Decidable d.Ordered :=
  inferInstanceAs (Decidable (d.Pairwise fun a b => a.1 < b.1))

theorem Ordered.nil : Ordered ([] : Dict α) := List.Pairwise.nil

/-- A written entry is the new one or was there. -/
theorem mem_of_mem_insert {value : α} {e : String × α}
    (h : e ∈ d.insert key value) : e = (key, value) ∨ e ∈ d := by
  induction d with
  | nil => exact .inl (List.mem_singleton.mp h)
  | cons first rest ih =>
      obtain ⟨k, v⟩ := first
      rw [insert] at h
      split at h
      · rcases List.mem_cons.mp h with rfl | h
        · exact .inr List.mem_cons_self
        · exact (ih h).imp_right (List.mem_cons_of_mem _)
      · split at h
        · exact (List.mem_cons.mp h).imp_right (List.mem_cons_of_mem _)
        · exact List.mem_cons.mp h

/-- A written name is the new one or was there. -/
theorem name_of_mem_insert {value : α} {e : String × α}
    (h : e ∈ d.insert key value) : e.1 = key ∨ e ∈ d :=
  (mem_of_mem_insert h).imp_left (congrArg Prod.fst)

/-- **Writing an entry keeps the order.** -/
theorem Ordered.insert (h : d.Ordered) (key : String) (value : α) :
    (d.insert key value).Ordered := by
  induction d with
  | nil => exact List.pairwise_singleton _ _
  | cons first rest ih =>
      obtain ⟨k, v⟩ := first
      obtain ⟨hfirst, hrest⟩ := List.pairwise_cons.mp h
      rw [Dict.insert]
      split
      next hlt =>
        refine List.pairwise_cons.mpr ⟨fun e he => ?_, ih hrest⟩
        rcases name_of_mem_insert he with heq | he
        · rwa [heq]
        · exact hfirst e he
      next hge =>
        split
        next heq =>
          subst heq
          exact List.pairwise_cons.mpr ⟨hfirst, hrest⟩
        next hne =>
          have hlt : key < k :=
            Std.lt_of_le_of_ne hge (Ne.symm hne)
          refine List.pairwise_cons.mpr ⟨fun e he => ?_, h⟩
          rcases List.mem_cons.mp he with rfl | he
          · exact hlt
          · exact String.lt_trans hlt (hfirst e he)

/-- The entry with the smaller name may be written second. -/
theorem insert_comm_of_lt (d : Dict α) {a b : String} (h : a < b) (x y : α) :
    (d.insert a x).insert b y = (d.insert b y).insert a x := by
  have hab : ¬ b < a := String.lt_asymm h
  have hne : b ≠ a := fun heq => String.lt_irrefl a (heq ▸ h)
  induction d with
  | nil => simp [insert, h, hab, hne]
  | cons e rest ih =>
      obtain ⟨k, v⟩ := e
      rcases lt_trichotomy k a with hlt | rfl | hgt
      · have hkb : k < b := String.lt_trans hlt h
        simp [insert, hlt, hkb, ih]
      · simp [insert, h]
      · have hka : ¬ k < a := String.lt_asymm hgt
        have hkne : k ≠ a := fun heq => String.lt_irrefl a (heq ▸ hgt)
        rcases lt_trichotomy k b with hlt | rfl | hgt
        · simp [insert, h, hka, hkne, hlt]
        · simp [insert, h, hka, hkne]
        · have hkb : ¬ k < b := String.lt_asymm hgt
          have hkne' : k ≠ b := fun heq => String.lt_irrefl b (heq ▸ hgt)
          simp [insert, h, hka, hkne, hab, hne, hkb, hkne']

/-- **Entries of different names may be written in either order.** -/
theorem insert_comm (d : Dict α) {a b : String} (h : a ≠ b) (x y : α) :
    (d.insert a x).insert b y = (d.insert b y).insert a x :=
  (lt_or_gt_of_ne h).elim (insert_comm_of_lt d · x y) fun hlt =>
    (insert_comm_of_lt d hlt y x).symm

/-- **Writing a name again** leaves no trace of what was written before. -/
theorem insert_insert (d : Dict α) (key : String) (v w : α) :
    (d.insert key v).insert key w = d.insert key w := by
  induction d with
  | nil => simp [insert]
  | cons e rest ih =>
      obtain ⟨k, x⟩ := e
      by_cases hlt : k < key
      · simp [insert, hlt, ih]
      · by_cases heq : k = key <;> simp [insert, hlt, heq]

/-- An entry that is removed might as well not have been written. -/
theorem erase_insert_self (d : Dict α) (key : String) (value : α) :
    (d.insert key value).erase key = d.erase key := by
  induction d with
  | nil => simp [insert, erase]
  | cons e rest ih =>
      obtain ⟨k, v⟩ := e
      unfold erase at ih ⊢
      rw [insert]
      split
      · rw [List.filter_cons, List.filter_cons, ih]
      · split
        next heq => simp [heq]
        · simp

/-- An entry may be written before or after a patch that does not name it. -/
theorem merge_insert_of_forall_ne (h : ∀ e ∈ patch, e.1 ≠ key) (base : Dict α)
    (value : α) :
    Dict.merge (base.insert key value) patch =
      (Dict.merge base patch).insert key value := by
  induction patch generalizing base with
  | nil => rfl
  | cons e rest ih =>
      obtain ⟨hne, hrest⟩ := List.forall_mem_cons.mp h
      show Dict.merge ((base.insert key value).insert e.1 e.2) rest = _
      rw [insert_comm base hne.symm]
      exact ih hrest (base.insert e.1 e.2)

/-- An entry that is written again after a patch might as well not have been
written before it. -/
theorem insert_merge_insert (base patch : Dict α) (key : String) (v w : α) :
    (Dict.merge (base.insert key v) patch).insert key w =
      (Dict.merge base patch).insert key w := by
  induction patch generalizing base with
  | nil => exact insert_insert base key v w
  | cons e rest ih =>
      show (Dict.merge ((base.insert key v).insert e.1 e.2) rest).insert key w =
        (Dict.merge (base.insert e.1 e.2) rest).insert key w
      by_cases heq : key = e.1
      · rw [← heq, insert_insert]
      · rw [insert_comm base heq]
        exact ih (base.insert e.1 e.2)

/-- **A patch that is merged twice is merged once.** -/
theorem merge_merge_self (h : patch.Ordered) (base : Dict α) :
    Dict.merge (Dict.merge base patch) patch = Dict.merge base patch := by
  induction patch generalizing base with
  | nil => rfl
  | cons e rest ih =>
      obtain ⟨hfirst, hrest⟩ := List.pairwise_cons.mp h
      have hlater : ∀ other ∈ rest, other.1 ≠ e.1 := fun other hother heq =>
        String.lt_irrefl e.1 (heq ▸ hfirst other hother)
      have hagain : (Dict.merge (base.insert e.1 e.2) rest).insert e.1 e.2 =
          Dict.merge (base.insert e.1 e.2) rest := by
        rw [← merge_insert_of_forall_ne hlater, insert_insert]
      show Dict.merge
          ((Dict.merge (base.insert e.1 e.2) rest).insert e.1 e.2) rest = _
      rw [hagain]
      exact ih hrest (base.insert e.1 e.2)

/-- Writing entries one after the other keeps the order. -/
theorem Ordered.merge (h : base.Ordered) (patch : Dict α) :
    (Dict.merge base patch).Ordered := by
  induction patch generalizing base with
  | nil => exact h
  | cons e rest ih => exact ih (h.insert e.1 e.2)

/-- A dictionary that is written entry by entry is in order. -/
theorem ordered_ofEntries (entries : List (String × α)) :
    (ofEntries entries).Ordered :=
  Ordered.nil.merge entries

/-- What is in a dictionary was written. -/
theorem mem_of_mem_merge {e : String × α} (h : e ∈ merge base patch) :
    e ∈ base ∨ e ∈ patch := by
  induction patch generalizing base with
  | nil => exact .inl h
  | cons first rest ih =>
      rcases ih h with hmem | hmem
      · rcases mem_of_mem_insert hmem with rfl | hmem
        · exact .inr List.mem_cons_self
        · exact .inl hmem
      · exact .inr (List.mem_cons_of_mem _ hmem)

theorem mem_of_mem_ofEntries {entries : List (String × α)} {e : String × α}
    (h : e ∈ ofEntries entries) : e ∈ entries :=
  (mem_of_mem_merge h).resolve_left List.not_mem_nil

/-- An entry with a name above all others comes last. -/
theorem insert_of_forall_lt (h : ∀ e ∈ d, e.1 < key) (value : α) :
    d.insert key value = d ++ [(key, value)] := by
  induction d with
  | nil => rfl
  | cons first rest ih =>
      obtain ⟨hfirst, hrest⟩ := List.forall_mem_cons.mp h
      rw [insert, if_pos hfirst, ih hrest]
      rfl

/-- **Entries in order are a dictionary as they stand.** -/
theorem Ordered.merge_eq_append (h : Ordered (base ++ patch)) :
    Dict.merge base patch = base ++ patch := by
  induction patch generalizing base with
  | nil => exact (List.append_nil base).symm
  | cons first rest ih =>
      have hsplit : base ++ first :: rest = (base ++ [first]) ++ rest := by simp
      have hbelow : ∀ e ∈ base, e.1 < first.1 :=
        fun e he => (List.pairwise_append.mp h).2.2 e he first List.mem_cons_self
      show Dict.merge (base.insert first.1 first.2) rest = _
      rw [insert_of_forall_lt hbelow, hsplit]
      exact ih (hsplit ▸ h)

theorem Ordered.ofEntries_eq {entries : Dict α} (h : Ordered entries) :
    ofEntries entries = entries :=
  Ordered.merge_eq_append h

/-- **An ordered patch is read first**, and the base where it says nothing. -/
theorem get?_merge (h : patch.Ordered) (base : Dict α) (key : String) :
    (Dict.merge base patch).get? key = (patch.get? key).or (base.get? key) := by
  induction patch generalizing base with
  | nil => rfl
  | cons e rest ih =>
      obtain ⟨k, v⟩ := e
      obtain ⟨hfirst, hrest⟩ := List.pairwise_cons.mp h
      show (Dict.merge (base.insert k v) rest).get? key = _
      rw [get?]
      split
      next heq =>
        subst heq
        have hlater : ∀ e ∈ rest, e.1 ≠ k :=
          fun e he heq => String.lt_irrefl k (heq ▸ hfirst e he)
        rw [get?_merge_of_forall_ne hlater, get?_insert_self]
        rfl
      next hne => rw [ih hrest, get?_insert_of_ne _ _ (Ne.symm hne)]

theorem get?_eq_none_of_not_contains (h : d.contains key = false) :
    d.get? key = none :=
  Option.not_isSome_iff_eq_none.mp (Bool.eq_false_iff.mp h)

theorem get?_merge_of_contains (h : patch.Ordered) (base : Dict α)
    (hkey : patch.contains key = true) :
    (Dict.merge base patch).get? key = patch.get? key := by
  rw [get?_merge h, Option.or_of_isSome hkey]

theorem get?_merge_of_not_contains (h : patch.Ordered) (base : Dict α)
    (hkey : patch.contains key = false) :
    (Dict.merge base patch).get? key = base.get? key := by
  rw [get?_merge h, get?_eq_none_of_not_contains hkey, Option.none_or]

end ServiceLoom.Dict
