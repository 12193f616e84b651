import ServiceLoom.Json.Decoder
import ServiceLoom.Proofs.Record.Order

/-!
# Normal values

A free-form value is stored with its objects in key order.  Storing it again
changes nothing (`Json.normal_normal`), and it is not nested deeper than it was
written (`Json.depth_normal_le`).  So what was stored once can be stored again
at the same place (`Json.Stored`).
-/

namespace ServiceLoom

namespace Json

theorem normalItems_eq (items : List Json) :
    normalItems items = items.map normal := by
  induction items with
  | nil => rfl
  | cons x rest ih => rw [normalItems, ih, List.map_cons]

theorem normalMembers_eq (members : List (String × Json)) :
    normalMembers members = members.map fun e => (e.1, e.2.normal) := by
  induction members with
  | nil => rfl
  | cons e rest ih => rw [normalMembers, ih, List.map_cons]

theorem depthItems_le {items : List Json} {n : Nat}
    (h : ∀ x ∈ items, x.depth ≤ n) : depthItems items ≤ n := by
  induction items with
  | nil => exact Nat.zero_le _
  | cons x rest ih =>
      obtain ⟨hfirst, hrest⟩ := List.forall_mem_cons.mp h
      exact Nat.max_le.mpr ⟨hfirst, ih hrest⟩

theorem depthMembers_le {members : List (String × Json)} {n : Nat}
    (h : ∀ e ∈ members, e.2.depth ≤ n) : depthMembers members ≤ n := by
  induction members with
  | nil => exact Nat.zero_le _
  | cons e rest ih =>
      obtain ⟨hfirst, hrest⟩ := List.forall_mem_cons.mp h
      exact Nat.max_le.mpr ⟨hfirst, ih hrest⟩

mutual

/-- **A normal value is its own normal form.** -/
theorem normal_normal : ∀ j : Json, j.normal.normal = j.normal
  | .null => rfl
  | .bool _ => rfl
  | .number _ => rfl
  | .string _ => rfl
  | .array items => by
      rw [normal, normal, normalItems_eq, normalItems_eq, List.map_map]
      exact congrArg array (List.map_congr_left fun x hx =>
        normal_normal_items items x hx)
  | .object members => by
      have hvalues : ∀ e ∈ Dict.ofEntries (normalMembers members),
          (e.1, e.2.normal) = e := by
        intro e he
        have he := Dict.mem_of_mem_ofEntries he
        rw [normalMembers_eq] at he
        obtain ⟨written, hwritten, rfl⟩ := List.mem_map.mp he
        exact congrArg (Prod.mk written.1)
          (normal_normal_members members written hwritten)
      have hmembers : normalMembers (Dict.ofEntries (normalMembers members)) =
          Dict.ofEntries (normalMembers members) := by
        rw [normalMembers_eq]
        exact (List.map_congr_left hvalues).trans (List.map_id _)
      rw [normal, normal, hmembers, (Dict.ordered_ofEntries _).ofEntries_eq]

theorem normal_normal_items : ∀ items :
      List Json, ∀ x ∈ items, x.normal.normal = x.normal
  | [] => nofun
  | first :: rest =>
      List.forall_mem_cons.mpr ⟨normal_normal first, normal_normal_items rest⟩

theorem normal_normal_members : ∀ members :
      List (String × Json), ∀ e ∈ members, e.2.normal.normal = e.2.normal
  | [] => nofun
  | (_, first) :: rest =>
      List.forall_mem_cons.mpr ⟨normal_normal first, normal_normal_members rest⟩

end

mutual

/-- **A normal value is not nested deeper.** -/
theorem depth_normal_le : ∀ j : Json, j.normal.depth ≤ j.depth
  | .null => Nat.le_refl _
  | .bool _ => Nat.le_refl _
  | .number _ => Nat.le_refl _
  | .string _ => Nat.le_refl _
  | .array items => by
      rw [normal, normalItems_eq]
      refine Nat.succ_le_succ (depthItems_le fun x hx => ?_)
      obtain ⟨y, hy, rfl⟩ := List.mem_map.mp hx
      exact depth_normal_le_items items y hy
  | .object members => by
      rw [normal, normalMembers_eq]
      refine Nat.succ_le_succ (depthMembers_le fun e he => ?_)
      obtain ⟨written, hwritten, rfl⟩ :=
        List.mem_map.mp (Dict.mem_of_mem_ofEntries he)
      exact depth_normal_le_members members written hwritten

theorem depth_normal_le_items : ∀ items :
      List Json, ∀ x ∈ items, x.normal.depth ≤ depthItems items
  | [] => nofun
  | first :: rest => List.forall_mem_cons.mpr
      ⟨Nat.le_trans (depth_normal_le first) (Nat.le_max_left _ _),
        fun x hx =>
          Nat.le_trans (depth_normal_le_items rest x hx) (Nat.le_max_right _ _)⟩

theorem depth_normal_le_members : ∀ members :
      List (String × Json), ∀ e ∈ members,
    e.2.normal.depth ≤ depthMembers members
  | [] => nofun
  | (_, first) :: rest => List.forall_mem_cons.mpr
      ⟨Nat.le_trans (depth_normal_le first) (Nat.le_max_left _ _),
        fun e he => Nat.le_trans (depth_normal_le_members rest e he)
          (Nat.le_max_right _ _)⟩

end

/-- A value as it is stored inside a number of lists and objects: normal, and
not nested too deep. -/
def Stored (level : Nat) (j : Json) : Prop := freeform? level j = some j

/-- **What was read can be read again**, and gives the same. -/
theorem stored_of_freeform? {level : Nat} {j found : Json}
    (h : freeform? level j = some found) : Stored level found := by
  unfold freeform? at h
  split at h
  next hdeep =>
    obtain rfl := Option.some.inj h
    have hstill : level + j.normal.depth ≤ depthLimit :=
      Nat.le_trans (Nat.add_le_add_left (depth_normal_le j) _) hdeep
    rw [Stored, freeform?, if_pos hstill, normal_normal]
  · cases h

/-- Only null is read as null. -/
theorem ne_null_of_freeform? {level : Nat} {j found : Json}
    (h : freeform? level j = some found) (hj : j ≠ .null) : found ≠ .null := by
  unfold freeform? at h
  split at h
  · obtain rfl := Option.some.inj h
    cases j with
    | null => exact absurd rfl hj
    | _ => simp [normal]
  · cases h

/-- An object that was read can be read again. -/
theorem stored_of_freeformObject? {level : Nat} {j : Json} {found : Dict Json}
    (h : freeformObject? level j = some found) :
    freeformObject? level (.object found) = some found := by
  obtain ⟨value, hvalue, hobject⟩ := Option.bind_eq_some_iff.mp h
  have hfound : value = .object found := by
    cases value with
    | object members => exact congrArg object (Option.some.inj hobject)
    | _ => cases hobject
  have hstored := stored_of_freeform? hvalue
  rw [hfound] at hstored
  rw [freeformObject?, hstored]
  rfl

end Json

end ServiceLoom
