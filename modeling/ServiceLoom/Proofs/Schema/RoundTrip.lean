import ServiceLoom.Proofs.Decimal.Finite
import ServiceLoom.Proofs.Json.Normal
import ServiceLoom.Proofs.Json.Structures
import ServiceLoom.Proofs.Schema.FieldType
import ServiceLoom.Schema.Decoder

/-!
# Documents that are written and read again

A document may be spelled in many ways: its structures as objects or as lists,
their fields under any of their names, bundles by name or by object, types in
any case.  It is written in one.  Whatever it was read from, reading what is
written for it gives it back (`Document.read_written`).

Not every value of a structure comes back: a type whose name is another's, a
bound that is no finite number, or a free-form value out of order would not.  No
such value is read.  So each structure has a predicate `Readable` that says what
is true of its values when they were read (`readable_of_decode?`), and that is
enough for it to be read back (`decode?_toJson`).  A structure is written row by
row (`rows`), and each of its fields is found in its own row.
-/

namespace ServiceLoom

open Json (written listRow objectRow bind_of_some)
open Json.Fields

/-! ## Numbers

A number that is read is one that can be written. -/

section Numbers

variable {rows : List (String × Option Json)} {place : Nat}
    {names : List String} {key : String}

theorem Json.nat?_ofNat {n : Nat} (h : n < Word64.bound) :
    nat? (ofNat n) = some n := by
  have hbounds : Word64.least ≤ (n : Int) ∧ (n : Int) < Word64.bound := by
    simp only [Word64.least, Word64.bound] at h ⊢
    omega
  rw [ofNat, ofInt, Number.ofInt?, dif_pos hbounds]
  show (if 0 ≤ (n : Int) then some (n : Int).toNat else none) = some n
  rw [if_pos (Int.natCast_nonneg n), Int.toNat_natCast]

/-- A natural number that is read has 64 bits. -/
theorem Json.lt_of_nat? {j : Json} {n : Nat} (h : nat? j = some n) :
    n < Word64.bound := by
  obtain ⟨i, hi, h⟩ := Option.bind_eq_some_iff.mp h
  split at h
  next hpos =>
    obtain rfl := Option.some.inj h
    unfold int? at hi
    split at hi
    next m bounds =>
      obtain rfl := Option.some.inj hi
      have hbound := bounds.2
      simp only [Word64.bound] at hbound ⊢
      omega
    · cases hi
  · cases h

theorem Json.float?_ofFloat {x : Float} (h : x.isFinite = true) :
    float? (ofFloat x) = some x := by
  rw [ofFloat, Number.ofFloat?, dif_pos h]
  rfl

/-- A float that is read is finite, also when it was written as an integer. -/
theorem Json.isFinite_of_float? {j : Json} {x : Float} (h : float? j = some x) :
    x.isFinite = true := by
  obtain ⟨n, -, rfl⟩ := Option.map_eq_some_iff.mp h
  cases n with
  | integer n bounds => exact Decimal.isFinite_ofInt bounds
  | float x finite => exact finite

/-- What can be read as a number is not null. -/
theorem Json.ne_null_of_number {α : Type} {decode : Json → Option α} {j : Json}
    {x : α} (hnull : decode .null = none) (h : decode j = some x) :
    j ≠ .null := by
  rintro rfl
  cases hnull.symm.trans h

namespace Json.Fields

theorem optional?_nat
    {x : Option Nat} (hrow : rows[place]? = some (key, x.map .ofNat))
    (hnames : (rows.map (·.1)).filter names.contains = [key])
    (h : ∀ n ∈ x, n < Word64.bound) :
    (named (written rows)).optional? place names nat? = some x :=
  optional?_written hrow hnames (fun n hn => nat?_ofNat (h n hn)) fun n hn =>
    ne_null_of_number rfl (nat?_ofNat (h n hn))

theorem optional?_float
    {x : Option Float} (hrow : rows[place]? = some (key, x.map .ofFloat))
    (hnames : (rows.map (·.1)).filter names.contains = [key])
    (h : ∀ y ∈ x, y.isFinite = true) :
    (named (written rows)).optional? place names float? = some x :=
  optional?_written hrow hnames (fun y hy => float?_ofFloat (h y hy)) fun y hy =>
    ne_null_of_number rfl (float?_ofFloat (h y hy))

theorem lt_of_optional? {f : Json.Fields} {x : Option Nat}
    (h : f.optional? place names nat? = some x) :
    ∀ n ∈ x, n < Word64.bound := by
  intro n hn
  obtain ⟨j, -, hj⟩ := of_optional? h n hn
  exact lt_of_nat? hj

theorem isFinite_of_optional? {f : Json.Fields} {x : Option Float}
    (h : f.optional? place names float? = some x) :
    ∀ y ∈ x, y.isFinite = true := by
  intro y hy
  obtain ⟨j, -, hj⟩ := of_optional? h y hy
  exact isFinite_of_float? hj

end Json.Fields

end Numbers

/-! ## Fields -/

namespace Field

/-- What a field says, under the first of its names. -/
def rows (f : Field) : List (String × Option Json) :=
  [("name", some (.string f.name)), ("type", some (.string f.type.name)),
    ("label", f.label.map .string), ("required", some (.bool f.required)),
    ("unique", some (.bool f.unique)), ("min_length", f.minLength.map .ofNat),
    ("max_length", f.maxLength.map .ofNat), ("min", f.min.map .ofFloat),
    ("max", f.max.map .ofFloat), ("pattern", f.pattern.map .string), ("options",
    listRow id f.options), ("reference_entity", f.referenceEntity.map .string),
    ("multiple", some (.bool f.multiple))]

theorem toJson_eq (f : Field) : f.toJson = .object (written f.rows) := by
  simp only [rows, Json.written_cons_some, Json.written_cons_map,
    Json.written_cons_listRow]
  simp [toJson, written]

/-- What is true of the values of a field that was read. -/
structure Readable (f : Field) : Prop where
  type_eq : .ofName f.type.name = f.type
  minLength_lt : ∀ n ∈ f.minLength, n < Word64.bound
  maxLength_lt : ∀ n ∈ f.maxLength, n < Word64.bound
  min_finite : ∀ x ∈ f.min, x.isFinite = true
  max_finite : ∀ x ∈ f.max, x.isFinite = true
  options_stored : ∀ j ∈ f.options, Json.Stored 6 j

/-- **A field that was read is readable.** -/
theorem readable_of_decode? {j : Json} {f : Field}
    (h : Field.decode? j = some f) : f.Readable := by
  -- One step for each field, in the order in which they are read.
  obtain ⟨fields, -, h⟩ := Option.bind_eq_some_iff.mp h
  obtain ⟨name, -, h⟩ := Option.bind_eq_some_iff.mp h
  obtain ⟨type, htype, h⟩ := Option.bind_eq_some_iff.mp h
  obtain ⟨label, -, h⟩ := Option.bind_eq_some_iff.mp h
  obtain ⟨required, -, h⟩ := Option.bind_eq_some_iff.mp h
  obtain ⟨unique, -, h⟩ := Option.bind_eq_some_iff.mp h
  obtain ⟨minLength, hminLength, h⟩ := Option.bind_eq_some_iff.mp h
  obtain ⟨maxLength, hmaxLength, h⟩ := Option.bind_eq_some_iff.mp h
  obtain ⟨min, hmin, h⟩ := Option.bind_eq_some_iff.mp h
  obtain ⟨max, hmax, h⟩ := Option.bind_eq_some_iff.mp h
  obtain ⟨pattern, -, h⟩ := Option.bind_eq_some_iff.mp h
  obtain ⟨options, hoptions, h⟩ := Option.bind_eq_some_iff.mp h
  obtain ⟨referenceEntity, -, h⟩ := Option.bind_eq_some_iff.mp h
  obtain ⟨multiple, -, h⟩ := Option.bind_eq_some_iff.mp h
  obtain rfl := Option.some.inj h
  have hname : FieldType.ofName type.name = type := by
    rcases of_default? htype with rfl | ⟨j, hj⟩
    · decide +kernel
    · obtain ⟨raw, -, hraw⟩ := Option.map_eq_some_iff.mp hj
      rw [← hraw]
      exact FieldType.ofName_name_ofName raw
  refine ⟨hname, lt_of_optional? hminLength, lt_of_optional? hmaxLength,
    isFinite_of_optional? hmin,
    isFinite_of_optional? hmax, fun o ho => ?_⟩
  obtain ⟨j, hj⟩ := of_default?_list hoptions o ho
  exact Json.stored_of_freeform? hj

/-- **A readable field is read back from what is written for it.** -/
theorem decode?_toJson {f : Field} (h : f.Readable) :
    Field.decode? f.toJson = some f := by
  have htype : (Json.string f.type.name).string?.map FieldType.ofName =
      some f.type := congrArg some h.type_eq
  rw [toJson_eq, Field.decode?]
  -- In each step the first `rfl` finds the row of a field, and the second says
  -- that no other row has one of its names.
  refine bind_of_some rfl ?_
  refine bind_of_some (required?_written rfl rfl rfl) ?_
  refine bind_of_some (default?_written rfl rfl htype) ?_
  refine bind_of_some (optional?_text rfl rfl) ?_
  refine bind_of_some (default?_written rfl rfl rfl) ?_
  refine bind_of_some (default?_written rfl rfl rfl) ?_
  refine bind_of_some (optional?_nat rfl rfl h.minLength_lt) ?_
  refine bind_of_some (optional?_nat rfl rfl h.maxLength_lt) ?_
  refine bind_of_some (optional?_float rfl rfl h.min_finite) ?_
  refine bind_of_some (optional?_float rfl rfl h.max_finite) ?_
  refine bind_of_some (optional?_text rfl rfl) ?_
  refine bind_of_some (default?_listRow rfl rfl h.options_stored) ?_
  refine bind_of_some (optional?_text rfl rfl) ?_
  refine bind_of_some (default?_written rfl rfl rfl) ?_
  rfl

end Field

/-! ## Child relations -/

namespace ChildRelation

def rows (c : ChildRelation) : List (String × Option Json) :=
  [("entity", some (.string c.entity)),
    ("foreign_key", c.foreignKey.map .string), ("label", c.label.map .string)]

theorem toJson_eq (c : ChildRelation) :
    c.toJson = .object (written c.rows) := by
  simp only [rows, Json.written_cons_some, Json.written_cons_map]
  simp [toJson, written]

/-- **Every child relation is read back from what is written for it.** -/
theorem decode?_toJson (c : ChildRelation) :
    ChildRelation.decode? c.toJson = some c := by
  rw [toJson_eq, ChildRelation.decode?]
  refine bind_of_some rfl ?_
  refine bind_of_some (default?_written rfl rfl rfl) ?_
  refine bind_of_some (optional?_text rfl rfl) ?_
  refine bind_of_some (optional?_text rfl rfl) ?_
  rfl

end ChildRelation

/-! ## Bundles -/

namespace MixinEntry

/-- A configuration that was read can be read again. -/
def Readable (m : MixinEntry) : Prop :=
  ∀ config ∈ m.config?, Json.freeformObject? 5 (.object config) = some config

/-- **A request for a bundle that was read is readable**, also one that left its
configuration out. -/
theorem readable_of_decode? {j : Json} {m : MixinEntry}
    (h : MixinEntry.decode? j = some m) : m.Readable := by
  cases j with
  | string name =>
      obtain rfl := Option.some.inj h
      exact nofun
  | object members =>
      obtain ⟨name, -, h⟩ := Option.bind_eq_some_iff.mp h
      obtain ⟨config, hconfig, h⟩ := Option.bind_eq_some_iff.mp h
      obtain rfl := Option.some.inj h
      intro found hfound
      obtain rfl : config = found := Option.some.inj hfound
      rcases of_default? hconfig with rfl | ⟨source, hsource⟩
      · rfl
      · exact Json.stored_of_freeformObject? hsource
  | null => cases h
  | bool b => cases h
  | number n => cases h
  | array items => cases h

/-- **A readable request is read back from what is written for it.** -/
theorem decode?_toJson {m : MixinEntry} (h : m.Readable) :
    MixinEntry.decode? m.toJson = some m := by
  cases m with
  | named name => rfl
  | configured name config =>
      exact bind_of_some rfl (bind_of_some (h config rfl) rfl)

end MixinEntry

/-! ## Entities -/

namespace Entity

/-- What an entity says, under the first of its names. -/
def rows (e : Entity) : List (String × Option Json) :=
  [("slug", some (.string e.slug)), ("module", e.module.map .string),
    ("display_name", e.displayName.map .string),
    ("display_field", e.displayField.map .string),
    ("fields", some (.array (e.fields.map Field.toJson))), ("children", listRow
      ChildRelation.toJson e.children), ("features", objectRow e.features),
    ("mixins", listRow MixinEntry.toJson e.mixins), ("system", e.system.map id),
    ("ui", e.ui.map id), ("bulk_actions", e.bulkActions.map id),
    ("inventory_ops", e.inventoryOps.map id), ("labels", e.labels.map id),
    ("list", e.list.map id)]

theorem toJson_eq (e : Entity) : e.toJson = .object (written e.rows) := by
  simp only [rows, Json.written_cons_some, Json.written_cons_map,
    Json.written_cons_listRow, Json.written_cons_objectRow]
  simp [toJson, written]

/-- A free-form value that may be left out, as it is stored in an entity. -/
def FreeForm (x : Option Json) : Prop := ∀ j ∈ x, j ≠ .null ∧ Json.Stored 3 j

theorem freeForm_of_optional?
    {f : Json.Fields} {place : Nat} {names : List String} {x : Option Json}
    (h : f.optional? place names (Json.freeform? 3) = some x) : FreeForm x := by
  intro j hj
  obtain ⟨source, hsource, hread⟩ := of_optional? h j hj
  exact ⟨Json.ne_null_of_freeform? hread hsource, Json.stored_of_freeform? hread⟩

theorem optional?_freeForm {rows : List (String × Option Json)}
    {place : Nat} {names : List String} {key : String}
    {x : Option Json} (hrow : rows[place]? = some (key, x.map id))
    (hnames : (rows.map (·.1)).filter names.contains = [key]) (h : FreeForm x) :
    (Json.Fields.named (written rows)).optional? place
      names (Json.freeform? 3) = some x :=
  optional?_written hrow hnames (fun j hj => (h j hj).2) fun j hj => (h j hj).1

/-- What is true of the values of an entity that was read. -/
structure Readable (e : Entity) : Prop where
  fields : ∀ f ∈ e.fields, f.Readable
  features : e.features ≠ [] →
    Json.freeformObject? 3 (.object e.features) = some e.features
  mixins : ∀ m ∈ e.mixins, m.Readable
  system : FreeForm e.system
  ui : FreeForm e.ui
  bulkActions : FreeForm e.bulkActions
  inventoryOps : FreeForm e.inventoryOps
  labels : FreeForm e.labels
  list : FreeForm e.list

/-- **An entity that was read is readable.** -/
theorem readable_of_decode? {j : Json} {e : Entity}
    (h : Entity.decode? j = some e) : e.Readable := by
  obtain ⟨entries, -, h⟩ := Option.bind_eq_some_iff.mp h
  obtain ⟨slug, -, h⟩ := Option.bind_eq_some_iff.mp h
  obtain ⟨module, -, h⟩ := Option.bind_eq_some_iff.mp h
  obtain ⟨displayName, -, h⟩ := Option.bind_eq_some_iff.mp h
  obtain ⟨displayField, -, h⟩ := Option.bind_eq_some_iff.mp h
  obtain ⟨fields, hfields, h⟩ := Option.bind_eq_some_iff.mp h
  obtain ⟨children, -, h⟩ := Option.bind_eq_some_iff.mp h
  obtain ⟨features, hfeatures, h⟩ := Option.bind_eq_some_iff.mp h
  obtain ⟨mixins, hmixins, h⟩ := Option.bind_eq_some_iff.mp h
  obtain ⟨system, hsystem, h⟩ := Option.bind_eq_some_iff.mp h
  obtain ⟨ui, hui, h⟩ := Option.bind_eq_some_iff.mp h
  obtain ⟨bulkActions, hbulkActions, h⟩ := Option.bind_eq_some_iff.mp h
  obtain ⟨inventoryOps, hinventoryOps, h⟩ := Option.bind_eq_some_iff.mp h
  obtain ⟨labels, hlabels, h⟩ := Option.bind_eq_some_iff.mp h
  obtain ⟨list, hlist, h⟩ := Option.bind_eq_some_iff.mp h
  obtain rfl := Option.some.inj h
  refine ⟨fun f hf => ?_, fun hfilled => ?_, fun m hm =>
    ?_, freeForm_of_optional? hsystem, freeForm_of_optional? hui,
    freeForm_of_optional? hbulkActions, freeForm_of_optional? hinventoryOps,
      freeForm_of_optional? hlabels,
    freeForm_of_optional? hlist⟩
  · obtain ⟨i, hi⟩ := of_default?_list hfields f hf
    exact Field.readable_of_decode? hi
  · rcases of_default? hfeatures with hempty | ⟨i, hi⟩
    · exact absurd hempty hfilled
    · exact Json.stored_of_freeformObject? hi
  · obtain ⟨i, hi⟩ := of_default?_list hmixins m hm
    exact MixinEntry.readable_of_decode? hi

/-- **A readable entity is read back from what is written for it.** -/
theorem decode?_toJson {e : Entity} (h : e.Readable) :
    Entity.decode? e.toJson = some e := by
  rw [toJson_eq, Entity.decode?]
  refine bind_of_some rfl ?_
  refine bind_of_some (default?_written rfl rfl rfl) ?_
  refine bind_of_some (optional?_text rfl rfl) ?_
  refine bind_of_some (optional?_text rfl rfl) ?_
  refine bind_of_some (optional?_text rfl rfl) ?_
  refine bind_of_some (default?_written rfl rfl
    (Json.list?_map fun f hf => Field.decode?_toJson (h.fields f hf))) ?_
  refine bind_of_some (default?_listRow rfl rfl fun c _ => c.decode?_toJson) ?_
  refine bind_of_some (default?_objectRow rfl rfl h.features) ?_
  refine bind_of_some (default?_listRow rfl rfl fun m hm =>
    MixinEntry.decode?_toJson (h.mixins m hm)) ?_
  refine bind_of_some (optional?_freeForm rfl rfl h.system) ?_
  refine bind_of_some (optional?_freeForm rfl rfl h.ui) ?_
  refine bind_of_some (optional?_freeForm rfl rfl h.bulkActions) ?_
  refine bind_of_some (optional?_freeForm rfl rfl h.inventoryOps) ?_
  refine bind_of_some (optional?_freeForm rfl rfl h.labels) ?_
  refine bind_of_some (optional?_freeForm rfl rfl h.list) ?_
  rfl

end Entity

/-! ## Documents -/

namespace Document

/-- What a document says, under the first of its names. -/
def rows (d : Document) : List (String × Option Json) :=
  [("project_name", some (.string d.projectName)),
    ("modules", some (.object d.modules)),
    ("entities", some (.array (d.entities.map Entity.toJson)))]

theorem toJson_eq (d : Document) : d.toJson = .object (written d.rows) := rfl

/-- What is true of the values of a document that was read. -/
structure Readable (d : Document) : Prop where
  modules : Json.freeformObject? 1 (.object d.modules) = some d.modules
  entities : ∀ e ∈ d.entities, e.Readable

/-- **A document that was read is readable.** -/
theorem readable_of_decode? {j : Json} {d : Document}
    (h : Document.decode? j = some d) : d.Readable := by
  obtain ⟨entries, -, h⟩ := Option.bind_eq_some_iff.mp h
  obtain ⟨projectName, -, h⟩ := Option.bind_eq_some_iff.mp h
  obtain ⟨modules, hmodules, h⟩ := Option.bind_eq_some_iff.mp h
  obtain ⟨entities, hentities, h⟩ := Option.bind_eq_some_iff.mp h
  obtain rfl := Option.some.inj h
  refine ⟨?_, fun e he => ?_⟩
  · rcases of_default? hmodules with rfl | ⟨i, hi⟩
    · rfl
    · exact Json.stored_of_freeformObject? hi
  · obtain ⟨i, hi⟩ := of_default?_list hentities e he
    exact Entity.readable_of_decode? hi

/-- **A readable document is read back from what is written for it.** -/
theorem decode?_toJson {d : Document} (h : d.Readable) :
    Document.decode? d.toJson = some d := by
  rw [toJson_eq, Document.decode?]
  refine bind_of_some rfl ?_
  refine bind_of_some (default?_written rfl rfl rfl) ?_
  refine bind_of_some (default?_written rfl rfl h.modules) ?_
  refine bind_of_some (default?_written rfl rfl
    (Json.list?_map fun e he => Entity.decode?_toJson (h.entities e he))) ?_
  rfl

/-- The document that a value holds, written in the one spelling that documents
are written in. -/
def respelled? (j : Json) : Option Json :=
  (Document.decode? j).map Document.toJson

/-- **Writing a document that was read loses nothing**: reading it again gives
the same document, whatever the spelling it was first read from; and so writing
it a second time changes nothing. -/
theorem read_written {j : Json} {d : Document}
    (h : Document.decode? j = some d) :
    Document.decode? d.toJson = some d ∧
    (respelled? j).bind respelled? = respelled? j := by
  have hagain : Document.decode? d.toJson = some d :=
    decode?_toJson (readable_of_decode? h)
  refine ⟨hagain, ?_⟩
  calc (respelled? j).bind respelled?
    _ = respelled? d.toJson := by rw [respelled?, h]; rfl
    _ = some d.toJson := by rw [respelled?, hagain]; rfl
    _ = respelled? j := by rw [respelled?, h]; rfl

/-- A document in mixed spelling: second names, an entity and a field as lists,
bundles by name and by object, a type in capitals, an integer for a bound, and
settings out of order. -/
def mixedSpelling : Json :=
  .object [("projectName", .string "Shop"),
    ("modules", .object [("sales", .object [("b", .bool true), ("a", .null)]),
      ("base", .array [])]),
    ("entities", .array [
      .array [.string "orders", .null, .string "Orders"],
      .object [("slug", .string "items"), ("moduleSlug", .string "sales"),
        ("ignored", .bool true),
        ("fields", .array [
          .array [.string "title"],
          .object [("name", .string "price"), ("type", .string " FLOAT "),
            ("minValue", .ofNat 3), ("max_length", .null),
            ("enum", .array [.object [("z", .null), ("a", .null)]])]]),
        ("mixins", .array [.string "audit", .object [("name", .string "stock")]]),
        ("system", .null), ("ui", .bool false)]])]

/-- What it says. -/
def mixedSpellingRead : Document where
  projectName := "Shop"
  modules := [("base", .array []),
    ("sales", .object [("a", .null), ("b", .bool true)])]
  entities :=
    [{ slug := "orders", displayName := some "Orders" },
      { slug := "items", module := some "sales"
        fields :=
          [{ name := "title" },
            { name := "price", type := .number, min := Json.float? (.ofNat 3)
              options := [.object [("a", .null), ("z", .null)]] }]
        mixins := [.named "audit", .configured "stock" []]
        ui := some (.bool false) }]

theorem mixedSpelling_read_written :
    Document.decode? mixedSpelling = some mixedSpellingRead ∧
    Document.decode? mixedSpellingRead.toJson = some mixedSpellingRead ∧
      (respelled? mixedSpelling).bind respelled? =
        respelled? mixedSpelling := by
  have hread : Document.decode? mixedSpelling = some mixedSpellingRead := by rfl
  exact ⟨hread, read_written hread⟩

end Document

end ServiceLoom
