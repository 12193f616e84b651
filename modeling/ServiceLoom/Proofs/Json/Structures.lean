import ServiceLoom.Json.Decoder
import ServiceLoom.Schema.Encoder

/-!
# Written structures

A structure is written as an object with a member for each of its fields that
has something to say, and read by looking for every field under all of its
names.  Reading what was written finds each field where it was written, as long
as no two fields share a name; and whatever is read was decoded from something,
or is what stands for a field that is not there.  These two directions are all
that a structure's own proof needs: `…_written` for the one, `of_…` for the
other.
-/

namespace ServiceLoom.Json

/-- Steps that succeed one after the other. -/
theorem bind_of_some {α β : Type} {x : Option α} {f : α → Option β} {a : α}
    {b : β} (hx : x = some a) (hf : f a = some b) : (x >>= f) = some b :=
  Option.bind_eq_some_iff.mpr ⟨a, hx, hf⟩

/-- The members that are written for fields, some of which have nothing to
say. -/
def written (rows : List (String × Option Json)) : List (String × Json) :=
  rows.filterMap fun r => r.2.map (Prod.mk r.1)

theorem written_cons_some (key : String) (value : Json)
    (rest : List (String × Option Json)) :
    written ((key, some value) :: rest) = (key, value) :: written rest := rfl

theorem written_cons_map {α : Type} (key : String) (encode : α → Json)
    (x : Option α) (rest : List (String × Option Json)) :
    written ((key, x.map encode) :: rest) =
      optionalMember key encode x ++ written rest := by
  cases x <;> rfl

/-- The row of a list, which says nothing when it is empty. -/
def listRow {α : Type} (encode : α → Json) (xs : List α) : Option Json :=
  if xs.isEmpty then none else some (.array (xs.map encode))

theorem written_cons_listRow {α : Type} (key : String) (encode : α → Json)
    (xs : List α) (rest : List (String × Option Json)) :
    written ((key, listRow encode xs) :: rest) =
      listMember key encode xs ++ written rest := by
  cases xs <;> rfl

/-- The row of an object that is left out when it is empty. -/
def objectRow (members : Dict Json) : Option Json :=
  if members.isEmpty then none else some (.object members)

theorem written_cons_objectRow (key : String) (members : Dict Json)
    (rest : List (String × Option Json)) :
    written ((key, objectRow members) :: rest) =
      (if members.isEmpty then [] else [(key, .object members)]) ++
        written rest := by
  cases members <;> rfl

/-- Rows are kept by their names, whatever they say. -/
theorem filter_written (p : String → Bool)
    (rows : List (String × Option Json)) :
    (written rows).filter (fun e => p e.1) =
      written (rows.filter fun r => p r.1) := by
  induction rows with
  | nil => rfl
  | cons r rest ih =>
      obtain ⟨key, value⟩ := r
      cases value with
      | none =>
          show (written rest).filter _ = _
          rw [ih, List.filter_cons]
          split <;> rfl
      | some v =>
          rw [written_cons_some, List.filter_cons, List.filter_cons, ih]
          split <;> rfl

namespace Fields

section Written

variable {rows : List (String × Option Json)} {place : Nat}
    {names : List String} {key : String}

/-- **A field is found where it was written**, if no other row has one of its
names. -/
theorem written?_written {value : Option Json}
    (hrow : rows[place]? = some (key, value))
    (hnames : (rows.map (·.1)).filter names.contains = [key]) :
    (named (written rows)).written? place names = some value := by
  have hmem : (key, value) ∈ rows.filter (fun r => names.contains r.1) := by
    have hkey : key ∈ (rows.map (·.1)).filter names.contains := by
      rw [hnames]
      exact List.mem_singleton_self key
    exact List.mem_filter.mpr ⟨List.mem_of_getElem? hrow,
      (List.mem_filter.mp hkey).2⟩
  have hsingle : rows.filter (fun r => names.contains r.1) =
      [(key, value)] := by
    rw [List.filter_map] at hnames
    obtain ⟨only, honly, -⟩ := List.map_eq_singleton_iff.mp hnames
    have honly : rows.filter (fun r => names.contains r.1) = [only] := honly
    rw [honly] at hmem ⊢
    rw [List.mem_singleton.mp hmem]
  rw [written?, filter_written, hsingle]
  cases value <;> rfl

theorem required?_written {α : Type} {decode : Json → Option α}
    {j : Json} {x : α} (hrow : rows[place]? = some (key, some j))
    (hnames : (rows.map (·.1)).filter names.contains = [key])
    (hread : decode j = some x) :
    (named (written rows)).required? place names decode = some x := by
  rw [required?, written?_written hrow hnames]
  exact hread

theorem default?_written {α : Type} {decode : Json → Option α}
    {default x : α} {j : Json} (hrow : rows[place]? = some (key, some j))
    (hnames : (rows.map (·.1)).filter names.contains = [key])
    (hread : decode j = some x) :
    (named (written rows)).default? place names decode default = some x := by
  rw [default?, written?_written hrow hnames]
  exact hread

theorem default?_unwritten {α : Type} {decode : Json → Option α} {default : α}
    (hrow : rows[place]? = some (key, none))
    (hnames : (rows.map (·.1)).filter names.contains = [key]) :
    (named (written rows)).default? place names decode default =
      some default := by
  rw [default?, written?_written hrow hnames]
  rfl

/-- An optional value is read back, if it is not written as null. -/
theorem optional?_written
    {α : Type} {encode : α → Json} {decode : Json → Option α}
    {x : Option α} (hrow : rows[place]? = some (key, x.map encode))
    (hnames : (rows.map (·.1)).filter names.contains = [key])
    (hread : ∀ y ∈ x, decode (encode y) = some y)
    (hnull : ∀ y ∈ x, encode y ≠ .null) :
    (named (written rows)).optional? place names decode = some x := by
  rw [optional?, written?_written hrow hnames]
  cases x with
  | none => rfl
  | some y =>
      have hread := hread y rfl
      have hnull := hnull y rfl
      rw [Option.map_some, Option.bind_eq_bind, Option.bind_some]
      split
      next heq => exact absurd (Option.some.inj heq) hnull
      next j _ heq => rw [← Option.some.inj heq, hread]; rfl
      next heq => cases heq

theorem optional?_text
    {x : Option String} (hrow : rows[place]? = some (key, x.map .string))
    (hnames : (rows.map (·.1)).filter names.contains = [key]) :
    (named (written rows)).optional? place names string? = some x :=
  optional?_written hrow hnames (fun _ _ => rfl) fun _ _ heq => by cases heq

end Written

section Read

variable {α : Type} {f : Fields} {place : Nat} {names : List String}
    {decode : Json → Option α}

/-- What may be left out was decoded, or stands for nothing. -/
theorem of_default? {default x : α}
    (h : f.default? place names decode default = some x) :
    x = default ∨ ∃ j, decode j = some x := by
  obtain ⟨found, -, h⟩ := Option.bind_eq_some_iff.mp h
  cases found with
  | none => exact .inl (Option.some.inj h).symm
  | some j => exact .inr ⟨j, h⟩

/-- An optional value was decoded, and not from null. -/
theorem of_optional? {x : Option α}
    (h : f.optional? place names decode = some x) :
    ∀ y ∈ x, ∃ j, j ≠ .null ∧ decode j = some y := by
  obtain ⟨found, -, h⟩ := Option.bind_eq_some_iff.mp h
  rintro y rfl
  split at h
  · cases h
  next j hnull =>
    obtain ⟨z, hz, heq⟩ := Option.map_eq_some_iff.mp h
    obtain rfl := Option.some.inj heq
    exact ⟨j, hnull, hz⟩
  · cases h

end Read

end Fields

section Lists

variable {α : Type} {encode : α → Json} {decode : Json → Option α}

/-- A list is read back when its items are. -/
theorem list?_map {xs : List α} (hread : ∀ x ∈ xs, decode (encode x) = some x) :
    list? decode (.array (xs.map encode)) = some xs := by
  show (xs.map encode).mapM decode = some xs
  induction xs with
  | nil => rfl
  | cons x rest ih =>
      obtain ⟨hfirst, hrest⟩ := List.forall_mem_cons.mp hread
      rw [List.map_cons, List.mapM_cons, hfirst, ih hrest]
      rfl

/-- The items of a list that was read were decoded. -/
theorem of_list? {j : Json} {xs : List α} (h : list? decode j = some xs) :
    ∀ x ∈ xs, ∃ i, decode i = some x := by
  cases j with
  | array items =>
      replace h : items.mapM decode = some xs := h
      induction items generalizing xs with
      | nil =>
          cases h
          exact nofun
      | cons i rest ih =>
          rw [List.mapM_cons] at h
          obtain ⟨x, hx, h⟩ := Option.bind_eq_some_iff.mp h
          obtain ⟨more, hmore, h⟩ := Option.bind_eq_some_iff.mp h
          obtain rfl := Option.some.inj h
          exact List.forall_mem_cons.mpr ⟨⟨i, hx⟩, ih hmore⟩
  | _ => cases h

/-- So were those of a list that may be left out. -/
theorem Fields.of_default?_list {f : Fields} {place : Nat} {names : List String}
    {xs : List α} (h : f.default? place names (list? decode) [] = some xs) :
    ∀ x ∈ xs, ∃ i, decode i = some x := by
  rcases of_default? h with rfl | ⟨j, hj⟩
  · exact nofun
  · exact of_list? hj

/-- A list that is left out when it is empty is read back when its items are. -/
theorem Fields.default?_listRow {rows : List (String × Option Json)}
    {place : Nat} {names : List String} {key : String}
    {xs : List α} (hrow : rows[place]? = some (key, listRow encode xs))
    (hnames : (rows.map (·.1)).filter names.contains = [key])
    (hread : ∀ x ∈ xs, decode (encode x) = some x) :
    (named (written rows)).default? place names (list? decode) [] =
      some xs := by
  cases xs with
  | nil => exact default?_unwritten hrow hnames
  | cons x rest => exact default?_written hrow hnames (list?_map hread)

end Lists

/-- An object that is left out when it is empty is read back when it can be. -/
theorem Fields.default?_objectRow {rows : List (String × Option Json)}
    {place : Nat} {names : List String} {key : String}
    {members : Dict Json} {decode : Json → Option (Dict Json)}
    (hrow : rows[place]? = some (key, objectRow members))
    (hnames : (rows.map (·.1)).filter names.contains = [key])
    (hread : members ≠ [] → decode (.object members) = some members) :
    (named (written rows)).default? place names decode [] = some members := by
  cases members with
  | nil => exact default?_unwritten hrow hnames
  | cons e rest =>
      exact default?_written hrow hnames (hread (List.cons_ne_nil _ _))

end ServiceLoom.Json
