import ServiceLoom.Proofs.Operation.Numbering
import ServiceLoom.Proofs.Service.Frame

/-!
# Numbered rows

Rows that are numbered and inserted one after the other, some with a number of
their own.  As long as the last number of 64 bits is not in use, the number that
is handed out is above all that are (`Numbering.open_iff`).  So whatever a row
gets, its text is that of no row before it (`Numbering.after_cases`), and since
rows are only appended, that of no row after it either
(`Numbering.afterAll_rows`).

What is a number and what is not is a matter of the text: after the label there
may be a plus sign and leading zeros, and digits for which 64 bits do not
suffice are no number.
-/

namespace ServiceLoom

/-- How the rows of a collection are numbered: in which field, with which label,
and with how many digits at least. -/
structure Numbering where
  slug : String
  field : String
  label : String
  width : Nat
  /-- What is said of a value that is in use. -/
  message : String

namespace Numbering

variable (n : Numbering) {s : Store} {e : Host × Record}

/-- The text of the numbered field. -/
def text? (row : Record) : Option String :=
  (row.get? n.field).map Json.plainText

/-- The number of a row: what follows the label, if 64 bits hold it. -/
def number? (row : Record) : Option Nat :=
  (n.text? row).bind (sequenceNumber? n.label)

/-- The record with a number, unless it has one. -/
def numbered (data : Record) : Access Record :=
  nextSequence n.slug data n.field n.label n.width n.message

/-- Numbers a record and inserts it. -/
def insertion (data : Record) : Access Record := do
  let data ← n.numbered data
  Access.insert n.slug data

/-- What is answered to an insertion at a time. -/
def answer (s : Store) (e : Host × Record) : Except Failure Record :=
  ((n.insertion e.2).run e.1 Outage.none s).1

/-- The store after an insertion at a time. -/
def after (s : Store) (e : Host × Record) : Store :=
  ((n.insertion e.2).run e.1 Outage.none s).2

/-- The store after insertions one after the other, each at a time of its
own. -/
def afterAll (s : Store) (entries : List (Host × Record)) : Store :=
  entries.foldl n.after s

/-- The last number of 64 bits is not in use. -/
def Open (s : Store) : Prop :=
  ∀ row ∈ s.rows n.slug, n.number? row ≠ some (Word64.bound - 1)

instance (s : Store) : Decidable (n.Open s) :=
  inferInstanceAs
    (Decidable (∀ row ∈ s.rows n.slug, n.number? row ≠ some (Word64.bound - 1)))

/-- A record comes with a number, or the last one is not in use. -/
def Allows (s : Store) (data : Record) : Prop :=
  isBlank (data.get? n.field) = true → n.Open s

/-- Whenever an insertion comes without a number, the last one is not in use. -/
def Lasts (s : Store) : List (Host × Record) → Prop
  | [] => True
  | e :: rest => n.Allows s e.2 ∧ Lasts (n.after s e) rest

/-- The largest number in use, or zero. -/
def last (s : Store) : Nat := lastNumber n.label n.field (s.rows n.slug)

/-- The number that is handed out next. -/
def next (s : Store) : Nat := Word64.succ (n.last s)

/-- The record with a number that is handed out. -/
def withNumber (data : Record) (k : Nat) : Record :=
  data.insert n.field (.string (sequenceText n.label n.width k))

/-- What a row is like that was made of a record when there were given rows. -/
structure Numbers (rows : List Record) (data row : Record) : Prop where
  filled : isBlank (row.get? n.field) = false
  fresh : ∀ other ∈ rows, n.text? other ≠ n.text? row
  /-- A value of its own is kept. -/
  supplied : isBlank (data.get? n.field) = false →
    row.get? n.field = data.get? n.field
  /-- Otherwise it gets digits after the label, and a number above all
  others. -/
  assigned : isBlank (data.get? n.field) = true → ∃ digits k,
    row.get? n.field = some (.string (n.label ++ String.ofList digits)) ∧
      (∀ c ∈ digits, c.isDigit = true) ∧ n.width ≤ digits.length ∧
        Decimal.readNat64? digits = some k ∧
      ∀ other ∈ rows, ∀ m, n.number? other = some m → m < k

/-! ## One insertion -/

/-- A number has 64 bits. -/
theorem number?_lt {row : Record} {k : Nat} (h : n.number? row = some k) :
    k < Word64.bound := by
  obtain ⟨text, -, h⟩ := Option.bind_eq_some_iff.mp h
  unfold sequenceNumber? at h
  dsimp only at h
  split at h
  · exact readNat64?_lt h
  · cases h

/-- No number in use is above the last one. -/
theorem le_last {row : Record} {k : Nat} (hrow : row ∈ s.rows n.slug)
    (hk : n.number? row = some k) : k ≤ n.last s := by
  obtain ⟨text, htext, hnumber⟩ := Option.bind_eq_some_iff.mp hk
  obtain ⟨w, hw, rfl⟩ := Option.map_eq_some_iff.mp htext
  exact le_lastNumber hrow hw hnumber

/-- The last number is in use, or there is none. -/
theorem last_cases (s : Store) :
    n.last s = 0 ∨ ∃ row ∈ s.rows n.slug, n.number? row = some (n.last s) := by
  rcases foldl_max_mem ((s.rows n.slug).filterMap n.number?) 0 with hzero | hmem
  · exact Or.inl hzero
  · obtain ⟨row, hrow, hnumber⟩ := List.mem_filterMap.mp hmem
    exact Or.inr ⟨row, hrow, hnumber⟩

/-- **There is room for another number exactly when the last one of 64 bits is
not in use.** -/
theorem open_iff : n.Open s ↔ n.last s + 1 < Word64.bound := by
  constructor
  · intro hopen
    rcases n.last_cases s with hzero | ⟨row, hrow, hlast⟩
    · rw [hzero]
      decide
    · have hlt := n.number?_lt hlast
      have hne : n.last s ≠ Word64.bound - 1 :=
        fun heq => hopen row hrow (heq ▸ hlast)
      omega
  · intro hroom row hrow hlast
    have hle := n.le_last hrow hlast
    omega

/-- As long as the last number is not in use, the next one is one more. -/
theorem next_of_open (hopen : n.Open s) : n.next s = n.last s + 1 :=
  succ_of_lt (n.open_iff.mp hopen)

/-- **A record without a number gets the next one**, and the store stays as it
is. -/
theorem run_numbered {host : Host} {outage : Outage} {data : Record}
    (hread : outage .findAll n.slug = false)
    (hblank : isBlank (data.get? n.field) = true) :
    (n.numbered data).run host outage s =
      (.ok (n.withNumber data (n.next s)), s) := by
  unfold numbered nextSequence
  rw [if_pos hblank,
    Access.run_bind_ok _ _ _ (Access.run_rows host outage s hread)]
  rfl

section Answers

variable {host : Host} {data new : Record}

/-- A supplied number is kept. -/
theorem eq_of_supplied
    (hrun : ((n.numbered data).run host Outage.none s).1 = .ok new)
    (hfilled : isBlank (data.get? n.field) = false) : new = data := by
  unfold numbered nextSequence at hrun
  rw [hfilled, if_neg Bool.false_ne_true] at hrun
  obtain ⟨_, -, hreturn⟩ := (requireUnique_reads n.slug
      data n.field none n.message).exists_of_bind_ok hrun
  exact (Except.ok.inj hreturn).symm

/-- The next number is handed out. -/
theorem eq_of_assigned
    (hrun : ((n.numbered data).run host Outage.none s).1 = .ok new)
    (hblank : isBlank (data.get? n.field) = true) :
    new = n.withNumber data (n.next s) := by
  rw [n.run_numbered rfl hblank] at hrun
  exact (Except.ok.inj hrun).symm

/-- No row has the text that numbering answers with. -/
theorem text?_ne_of_run (hallows : n.Allows s data)
    (hrun : ((n.numbered data).run host Outage.none s).1 = .ok new)
    (hfilled : isBlank (new.get? n.field) = false) :
    ∀ other ∈ s.rows n.slug, n.text? other ≠ n.text? new := by
  intro other hother heq
  cases hget : new.get? n.field with
  | none =>
      rw [hget] at hfilled
      cases hfilled
  | some v =>
      obtain ⟨w, hw, hsame⟩ : ∃ w, other.get? n.field = some w ∧
          w.plainText = v.plainText := by
        rw [text?, text?, hget] at heq
        simpa using heq
      have hroom := fun hblank => n.open_iff.mp (hallows hblank)
      rcases nextSequence_unshared hroom hrun v hget
          (hget ▸ hfilled) other hother
        with ⟨_, hnone, -⟩ | hne
      · cases hnone
      · exact hne w hw hsame

/-- **What numbering answers with** is filled in, and in no other way than it
says. -/
theorem numbers_of_run (hallows : n.Allows s data)
    (hrun : ((n.numbered data).run host Outage.none s).1 = .ok new) :
    n.Numbers (s.rows n.slug) data new := by
  cases hblank : isBlank (data.get? n.field) with
  | false =>
      obtain rfl := n.eq_of_supplied hrun hblank
      exact {
        filled := hblank
        fresh := n.text?_ne_of_run hallows hrun hblank
        supplied := fun _ => rfl
        assigned := fun h => absurd (hblank.symm.trans h) nofun }
  | true =>
      have hopen := hallows hblank
      have hget : new.get? n.field =
          some (.string (sequenceText n.label n.width (n.last s + 1))) := by
        rw [n.eq_of_assigned hrun hblank, n.next_of_open hopen, withNumber,
          Dict.get?_insert_self]
      have hfilled : isBlank (new.get? n.field) = false := by
        rw [hget]
        exact isBlank_sequenceText n.label n.width _
      refine {
        filled := hfilled
        fresh := n.text?_ne_of_run hallows hrun hfilled
        supplied := fun h => absurd (hblank.symm.trans h) nofun
        assigned := fun _ => ?_ }
      exact ⟨_, _, hget, fun c hc => padded_isDigit hc, le_length_padded _ _,
        readNat64?_padded (n.open_iff.mp hopen),
        fun other hother m hm => Nat.lt_succ_of_le (n.le_last hother hm)⟩

end Answers

/-- What is said of a row is said of every row with the same value in the
field. -/
theorem Numbers.of_get?_eq {rows : List Record} {data new row : Record}
    (h : n.Numbers rows data new) (hget : row.get? n.field = new.get? n.field) :
    n.Numbers rows data row where
  filled := hget ▸ h.filled
  fresh other hother := by
    have htext : n.text? row = n.text? new :=
      congrArg (Option.map Json.plainText) hget
    exact htext ▸ h.fresh other hother
  supplied hfilled := hget.trans (h.supplied hfilled)
  assigned hblank := by
    rw [hget]
    exact h.assigned hblank

/-- An insertion is refused and leaves the rows, or appends a row with the field
that numbering answers with. -/
theorem after_run (hfield : n.field ∉ Record.systemFields) (s : Store)
    (e : Host × Record) :
    ((∃ f, n.answer s e = .error f) ∧ (n.after s e).rows n.slug = s.rows n.slug) ∨
      ∃ new row, ((n.numbered e.2).run e.1 Outage.none s).1 = .ok new ∧
        n.answer s e = .ok row ∧
        (n.after s e).rows n.slug = s.rows n.slug ++ [row] ∧
          row.get? n.field = new.get? n.field := by
  have hreads :=
    Fragment.nextSequence_reads n.slug e.2 n.field n.label n.width n.message
  obtain ⟨numbering, hnumbering, -⟩ := hreads.run_eq e.1 Outage.none s
  cases numbering with
  | error f =>
      have hrun : (n.insertion e.2).run e.1 Outage.none s = (.error f, s) :=
        Access.run_bind_error _ _ _ hnumbering
      exact Or.inl ⟨⟨f, by rw [answer, hrun]⟩, by rw [after, hrun]⟩
  | ok new =>
      have hrun : (n.insertion e.2).run e.1 Outage.none s =
          ((s.create e.1 n.slug new).1.mapError .refused,
              (s.create e.1 n.slug new).2) :=
        (Access.run_bind_ok _ _ _ hnumbering).trans (Access.run_insert _ _ _ rfl)
      rw [answer, after, hrun]
      rcases s.create_cases e.1 n.slug new with
          ⟨⟨refusal, hrefusal⟩, hrows⟩ | ⟨id, hrow, -, happended, -⟩
      · exact Or.inl ⟨⟨.refused refusal, by rw [hrefusal]; rfl⟩, hrows n.slug⟩
      · exact Or.inr ⟨new, _, congrArg Prod.fst hnumbering,
          by rw [hrow]; rfl, happended, Record.get?_stamped hfield⟩

/-- **An insertion is refused, or appends a numbered row.** -/
theorem after_cases (hfield : n.field ∉ Record.systemFields) {e : Host × Record}
    (hallows : n.Allows s e.2) :
    ((∃ f, n.answer s e = .error f) ∧ (n.after s e).rows n.slug = s.rows n.slug) ∨
      ∃ row, n.answer s e = .ok row ∧
        (n.after s e).rows n.slug = s.rows n.slug ++ [row] ∧
        n.Numbers (s.rows n.slug) e.2 row := by
  rcases n.after_run hfield s e with
      hrefused | ⟨new, row, hnew, hrow, happended, hget⟩
  · exact Or.inl hrefused
  · have hnumbers := n.numbers_of_run hallows hnew
    exact Or.inr ⟨row, hrow, happended, hnumbers.of_get?_eq n hget⟩

/-! ## Many insertions -/

theorem afterAll_append (s : Store) (before after : List (Host × Record)) :
    n.afterAll s (before ++ after) = n.afterAll (n.afterAll s before) after :=
  List.foldl_append

/-- Rows stay when others are inserted. -/
theorem rows_subset_afterAll (hfield : n.field ∉ Record.systemFields)
    (s : Store) (entries : List (Host × Record)) :
    s.rows n.slug ⊆ (n.afterAll s entries).rows n.slug := by
  induction entries generalizing s with
  | nil => exact List.Subset.refl _
  | cons e rest ih =>
      refine List.Subset.trans ?_ (ih (n.after s e))
      rcases n.after_run hfield s e with
          ⟨-, hsame⟩ | ⟨_, row, -, -, happended, -⟩
      · rw [hsame]
        exact List.Subset.refl _
      · rw [happended]
        exact List.subset_append_left _ _

/-- **Numbers last** if none of the rows that there are in the end has the last
one. -/
theorem lasts_of_open (hfield : n.field ∉ Record.systemFields)
    {entries : List (Host × Record)} (hopen : n.Open (n.afterAll s entries)) :
    n.Lasts s entries := by
  induction entries generalizing s with
  | nil => trivial
  | cons e rest ih =>
      have hkept := n.rows_subset_afterAll hfield s (e :: rest)
      exact ⟨fun _ row hrow => hopen row (hkept hrow), ih hopen⟩

/-- The numbers last for all insertions if they last for the first ones, and
then for the others. -/
theorem lasts_append {before after : List (Host × Record)} :
    n.Lasts s (before ++ after) ↔
      n.Lasts s before ∧ n.Lasts (n.afterAll s before) after := by
  induction before generalizing s with
  | nil => exact (true_and _).symm.to_iff
  | cons e rest ih => exact (and_congr_right' ih).trans (and_assoc).symm

/-- **Insertions append rows**, whose texts are those of no rows that were there
before. -/
theorem afterAll_rows (hfield : n.field ∉ Record.systemFields)
    {entries : List (Host × Record)} (hlasts : n.Lasts s entries) :
    ∃ later, (n.afterAll s entries).rows n.slug = s.rows n.slug ++ later ∧
      ∀ new ∈ later, ∀ old ∈ s.rows n.slug, n.text? old ≠ n.text? new := by
  induction entries generalizing s with
  | nil => exact ⟨[], (List.append_nil _).symm, by simp⟩
  | cons e rest ih =>
      obtain ⟨hallows, hrest⟩ := hlasts
      obtain ⟨later, hrows, hfresh⟩ := ih hrest
      rcases n.after_cases hfield hallows with
        ⟨-, hsame⟩ | ⟨row, -, happended, hrow⟩
      · rw [hsame] at hrows hfresh
        exact ⟨later, hrows, hfresh⟩
      · rw [happended] at hrows hfresh
        have hall := hrows.trans (List.append_assoc _ _ _)
        refine ⟨row :: later, hall, fun new hnew old hold => ?_⟩
        rcases List.mem_cons.mp hnew with rfl | hnew
        · exact hrow.fresh old hold
        · exact hfresh new hnew old (List.mem_append_left _ hold)

/-- **Rows that are numbered and inserted have numbers of their own**, whatever
they come with and whatever was there before, as long as the last number is not
in use.  A row that comes without a number gets one, above all that are then in
use, and no row before or after an inserted one has its text. -/
theorem afterAll_numbered (hfield : n.field ∉ Record.systemFields) (s : Store)
    {entries before after : List (Host × Record)} {e : Host × Record}
    (hlasts : n.Lasts s entries) (hsplit : entries = before ++ e :: after) :
    (isBlank (e.2.get? n.field) = true → ∃ new,
      ((n.numbered e.2).run e.1 Outage.none (n.afterAll s before)).1 = .ok new) ∧
    ∀ row, n.answer (n.afterAll s before) e = .ok row →
      n.Numbers ((n.afterAll s before).rows n.slug) e.2 row ∧
      ∃ later, (n.afterAll s entries).rows n.slug =
          (n.afterAll s before).rows n.slug ++ row :: later ∧
        ∀ other ∈ later, n.text? other ≠ n.text? row := by
  subst hsplit
  obtain ⟨-, hallows, hrest⟩ := n.lasts_append.mp hlasts
  refine ⟨fun hblank => ⟨_, congrArg Prod.fst (n.run_numbered rfl hblank)⟩,
    fun row hanswer => ?_⟩
  rcases n.after_cases hfield hallows with
    ⟨⟨f, hrefused⟩, -⟩ | ⟨new, hnew, happended, hnumbers⟩
  · cases hanswer.symm.trans hrefused
  · obtain rfl := Except.ok.inj (hanswer.symm.trans hnew)
    obtain ⟨later, hrows, hfresh⟩ := n.afterAll_rows hfield hrest
    rw [happended] at hrows hfresh
    refine ⟨hnumbers, later, ?_, fun other hother hsame => ?_⟩
    · rw [afterAll_append]
      exact hrows.trans (List.append_assoc _ _ _)
    · exact hfresh other hother row
        (List.mem_append_right _ (List.mem_singleton_self row)) hsame.symm

/-- Invoices with four digits. -/
def ofInvoices : Numbering := ⟨"invoices", "number", "INV-", 4, "is in use"⟩

/-- Four invoices at one time: without a number, with a plus sign before it,
with too many digits for one, and with blanks where it should be. -/
def fourInvoices : List (Host × Record) :=
  ["", "INV-+0041", "INV-99999999999999999999", "  "].map fun number =>
    (⟨.ofDay 0, fun k => toString k⟩, [("number", .string number)])

/-- The fourth invoice gets the number after the second one's. -/
theorem fourInvoices_numbered :
    ((ofInvoices.afterAll Store.empty fourInvoices).rows "invoices").map
      ofInvoices.text? =
      ["INV-0001", "INV-+0041", "INV-99999999999999999999",
        "INV-0042"].map some ∧
    ∃ row, ofInvoices.answer (ofInvoices.afterAll Store.empty
      (fourInvoices.take 3)) fourInvoices[3] = .ok row ∧
      ofInvoices.Numbers
        ((ofInvoices.afterAll Store.empty (fourInvoices.take 3)).rows "invoices")
        fourInvoices[3].2 row := by
  have hlasts : ofInvoices.Lasts Store.empty fourInvoices :=
    ofInvoices.lasts_of_open (by decide) (by decide +kernel)
  have hsplit : fourInvoices = fourInvoices.take 3 ++ fourInvoices[3] :: [] :=
    rfl
  obtain ⟨-, hrow⟩ :=
    ofInvoices.afterAll_numbered (by decide) Store.empty hlasts hsplit
  refine ⟨by decide +kernel, _, rfl, (hrow _ rfl).1⟩

end Numbering

end ServiceLoom
