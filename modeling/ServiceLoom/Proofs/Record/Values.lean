import ServiceLoom.Proofs.Decimal.Finite
import ServiceLoom.Proofs.Text.Blank
import ServiceLoom.Record.Basic

/-!
# Values and their texts

Values are compared by their text.  A value that is not blank has a text that is
not blank either: numbers have a digit or a letter, lists and objects a bracket.
So no filled field has the text of a blank one.

A value is absent when it is missing or null, and null is also what is stored of
a float that is not finite.

Stamping and patching write the fields of the store only; every other field
reads as in the data, or as in the merge of row and patch.
-/

namespace ServiceLoom

/-! ## Texts -/

/-- A text is blank when its characters are. -/
private theorem isBlank_ofList_eq_false {cs : List Char} {c : Char}
    (hc : c ∈ cs) (hblank : Text.isBlankChar c = false) :
    Text.isBlank (String.ofList cs) = false := by
  rw [Text.isBlank, String.toList_ofList, List.all_eq_false]
  exact ⟨c, hc, by simp [hblank]⟩

/-- A numeral has a digit. -/
private theorem exists_digit (n : Nat) :
    ∃ c ∈ Nat.toDigits 10 n, c.isDigit = true := by
  obtain ⟨c, hc⟩ :=
    List.exists_mem_of_ne_nil _ (Nat.toDigits_ne_nil (n := n) (b := 10))
  exact ⟨c, hc,
    Nat.isDigit_of_mem_toDigits (show 0 < 10 by decide) (by decide) hc⟩

/-- The text of an integer is not blank. -/
private theorem isBlank_toString_int (n : Int) :
    Text.isBlank (toString n) = false := by
  cases n with
  | ofNat m =>
      obtain ⟨c, hc, hdigit⟩ := exists_digit m
      exact isBlank_ofList_eq_false hc (Text.isBlankChar_of_isDigit hdigit)
  | negSucc m =>
      show Text.isBlank ("-" ++ Nat.repr (m + 1)) = false
      rw [Text.isBlank, String.toList_append, List.all_append,
        Bool.and_eq_false_iff]
      exact Or.inl (by decide)

open Decimal in
/-- Laid out digits have a digit, a point or an exponent. -/
private theorem exists_magnitude (l : Layout) (d : Digits) :
    ∃ c ∈ l.magnitude d, Text.isBlankChar c = false := by
  unfold Layout.magnitude
  dsimp only
  split
  · unfold Layout.positional
    split
    · exact ⟨'0', by simp, by decide⟩
    · split
      · obtain ⟨c, hc, hdigit⟩ := exists_digit d.coefficient
        exact ⟨c,
          by simp [Layout.natDigits, hc], Text.isBlankChar_of_isDigit hdigit⟩
      · exact ⟨'.', by simp, by decide⟩
  · exact ⟨'e', by simp [Layout.scientific], by decide⟩

open Decimal in
/-- The text of a float is not blank. -/
private theorem isBlank_write (l : Layout) (x : Float) :
    Text.isBlank (l.write x) = false := by
  unfold Layout.write
  split
  · decide
  · split <;> decide
  next b _ =>
    have hbody : ∀ body : List Char, (∃ c ∈ body, Text.isBlankChar c = false) →
        Text.isBlank (String.ofList
            (if b.negative then '-' :: body else body)) = false := by
      intro body hbody
      obtain ⟨c, hc, hblank⟩ := hbody
      refine isBlank_ofList_eq_false ?_ hblank
      split
      · exact List.mem_cons_of_mem _ hc
      · exact hc
    refine hbody _ ?_
    split
    · split <;> exact ⟨'0', by simp, by decide⟩
    · exact exists_magnitude l _

/-- The text of a number is not blank. -/
theorem Number.isBlank_text (n : Number) : Text.isBlank n.text = false := by
  cases n with
  | integer n h => exact isBlank_toString_int n
  | float x h => exact isBlank_write _ x

/-- **The text of a value is blank exactly when the value is.** -/
theorem Json.isBlank_plainText (v : Json) :
    Text.isBlank v.plainText = isBlank (some v) := by
  cases v with
  | null => rfl
  | string s => rfl
  | bool b => cases b <;> decide
  | number n =>
      show Text.isBlank (numberText n) = false
      cases n with
      | integer n h => exact Number.isBlank_text _
      | float x h =>
          simp only [numberText]
          split
          · split
            · exact isBlank_toString_int _
            · exact Number.isBlank_text _
          · exact Number.isBlank_text _
  | array items =>
      show Text.isBlank (Json.compact _) = false
      rw [Json.compact, Text.isBlank, String.toList_append,
        String.toList_append, List.all_append, List.all_append,
        Bool.and_eq_false_iff, Bool.and_eq_false_iff]
      exact Or.inr (by decide)
  | object members =>
      show Text.isBlank (Json.compact _) = false
      rw [Json.compact, Text.isBlank, String.toList_append,
        List.all_append, Bool.and_eq_false_iff]
      exact Or.inr (by decide)

/-- A filled field does not have the text of a blank one. -/
theorem Json.plainText_ne_of_isBlank {v w : Json}
    (hv : isBlank (some v) = false) (hw : isBlank (some w) = true) :
    v.plainText ≠ w.plainText := by
  intro h
  have htext := congrArg Text.isBlank h
  rw [Json.isBlank_plainText, Json.isBlank_plainText, hv, hw] at htext
  cases htext

/-! ## Numbers -/

/-- A float is stored as a number if it is finite, and else as null. -/
theorem Json.ofFloat_cases (x : Float) :
    (∃ hx : x.isFinite = true, Json.ofFloat x = .number (.float x hx)) ∨
      x.isFinite = false ∧ Json.ofFloat x = .null := by
  unfold Json.ofFloat Number.ofFloat?
  split
  next hx => exact Or.inl ⟨hx, rfl⟩
  next hx => exact Or.inr ⟨by simpa using hx, rfl⟩

/-- A number of a document is finite. -/
theorem Number.isFinite_toFloat (n : Number) : n.toFloat.isFinite = true := by
  cases n with
  | integer n bounds => exact Decimal.isFinite_ofInt bounds
  | float x finite => exact finite

/-! ## Missing values -/

/-- Null is the only value that is there and counts as missing. -/
theorem eq_null_of_isAbsent {v : Option Json} (hsome : v.isSome = true)
    (h : isAbsent v = true) : v = some .null := by
  cases v with
  | none => cases hsome
  | some v => cases v <;> first | rfl | cases h

theorem Record.present?_eq_none_iff {r : Record} {field : String} :
    r.present? field = none ↔ isAbsent (r.get? field) = true := by
  cases hget : r.get? field <;> simp [present?, hget, isAbsent]

theorem Record.present?_eq_some {r : Record} {field : String} {v : Json}
    (h : r.get? field = some v) (hv : v.isNull = false) :
    r.present? field = some v := by
  simp [present?, h, hv]

/-! ## Entries -/

/-- A patch without a name leaves its entry. -/
theorem Dict.get?_merge_of_forall_ne {α : Type} {base patch : Dict α}
    {key : String} (h : ∀ e ∈ patch, e.1 ≠ key) :
    (Dict.merge base patch).get? key = base.get? key := by
  induction patch generalizing base with
  | nil => rfl
  | cons e rest ih =>
      have hrest : ∀ e ∈ rest, e.1 ≠ key :=
        fun e he => h e (List.mem_cons_of_mem _ he)
      show (Dict.merge (base.insert e.1 e.2) rest).get? key = _
      rw [ih hrest, Dict.get?_insert_of_ne _ _ (h e List.mem_cons_self).symm]

/-- What a patch does to an entry depends on the entries of that name only. -/
theorem Dict.get?_merge_filter
    {α : Type} {p : String × α → Bool} {base other patch : Dict α}
    {key : String} (hp : ∀ e ∈ patch, e.1 = key → p e = true)
    (hbase : base.get? key = other.get? key) :
    (Dict.merge base (patch.filter p)).get? key =
      (Dict.merge other patch).get? key := by
  induction patch generalizing base other with
  | nil => exact hbase
  | cons e rest ih =>
      have hrest : ∀ e ∈ rest, e.1 = key → p e = true :=
        fun e he => hp e (List.mem_cons_of_mem _ he)
      show _ = (Dict.merge (other.insert e.1 e.2) rest).get? key
      by_cases hkey : e.1 = key
      · rw [List.filter_cons_of_pos (hp e List.mem_cons_self hkey)]
        refine ih hrest ?_
        show (base.insert e.1 e.2).get? key = (other.insert e.1 e.2).get? key
        rw [hkey, Dict.get?_insert_self, Dict.get?_insert_self]
      · have hother : (other.insert e.1 e.2).get? key = other.get? key :=
          Dict.get?_insert_of_ne _ _ (Ne.symm hkey)
        rw [List.filter_cons]
        split
        · refine ih hrest ?_
          show (base.insert e.1 e.2).get? key = (other.insert e.1 e.2).get? key
          rw [hother, Dict.get?_insert_of_ne _ _ (Ne.symm hkey), hbase]
        · exact ih hrest (hbase.trans hother.symm)

/-! ## Rows -/

namespace Record

/-- A field that users write is none of those that the store manages. -/
theorem ne_of_notMem_systemFields {field : String} (h : field ∉ systemFields) :
    field ≠ "id" ∧ field ≠ "created_at" ∧ field ≠ "updated_at" := by
  simpa [systemFields] using h

/-- Stamping leaves the fields that users write. -/
theorem get?_stamped {row : Record} {id : String} {now : Json} {field : String}
    (h : field ∉ systemFields) :
    (row.stamped id now).get? field = row.get? field := by
  obtain ⟨hid, hcreated, hupdated⟩ := ne_of_notMem_systemFields h
  rw [stamped, Dict.get?_insert_of_ne _ _ hupdated,
    Dict.get?_insert_of_ne _ _ hcreated, Dict.get?_insert_of_ne _ _ hid]

/-- A stamped row has its identifier as text. -/
@[simp] theorem id?_stamped (row : Record) (id : String) (now : Json) :
    (row.stamped id now).id? = some id := by
  have hget : (row.stamped id now).get? "id" = some (.string id) := by
    rw [stamped, Dict.get?_insert_of_ne _ _ (by decide),
      Dict.get?_insert_of_ne _ _ (by decide), Dict.get?_insert_self]
  rw [id?, present?, hget]
  rfl

/-- A patched row reads like the merge of row and patch in the fields that users
write. -/
theorem get?_patched {row patch : Record} {now : Json} {field : String}
    (h : field ∉ systemFields) :
    (row.patched patch now).get? field = (Dict.merge row patch).get? field := by
  obtain ⟨hid, hcreated, hupdated⟩ := ne_of_notMem_systemFields h
  rw [patched, Dict.get?_insert_of_ne _ _ hupdated]
  refine Dict.get?_merge_filter ?_ rfl
  intro e _ he
  simp [he, hid, hcreated]

/-- A patched row keeps the value of its identifier and its time of creation. -/
theorem get?_patched_fixed {row patch : Record} (now : Json) {field : String}
    (h : field = "id" ∨ field = "created_at") :
    (row.patched patch now).get? field = row.get? field := by
  have hupdated : field ≠ "updated_at" := by
    rintro rfl
    exact absurd h (by decide)
  rw [patched, Dict.get?_insert_of_ne _ _ hupdated]
  refine Dict.get?_merge_of_forall_ne ?_
  rintro e he rfl
  simp only [List.mem_filter, Bool.and_eq_true, decide_eq_true_eq] at he
  exact h.elim he.2.1 he.2.2

/-- A patched row keeps its identifier. -/
@[simp] theorem id?_patched (row patch : Record) (now : Json) :
    (row.patched patch now).id? = row.id? := by
  rw [id?, id?, present?, present?, get?_patched_fixed now (.inl rfl)]

end Record

end ServiceLoom
