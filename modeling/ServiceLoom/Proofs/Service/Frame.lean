import ServiceLoom.Proofs.Rule.Verdict
import ServiceLoom.Proofs.Service.Execution

/-!
# What a fragment may change

The fragments that stand before a write look at the store but do not change it,
and they change the incoming record by writing their target fields only.  Both
are said at once: a call is a reading procedure (`Access.Reads`) whose answer is
the record with such fields rewritten (`Fragment.call_rewrites`).  So it agrees
with the record everywhere else (`Fragment.call_frame`), and then so does the
answer of any list of calls (`Service.runFragments_frame`).

Agreement is about all entries of a name (`Dict.SameAt`), so that it carries
over to the record itself and to its merge with a stored row.
-/

namespace ServiceLoom

/-! ## Agreement at a name -/

/-- Two dictionaries have the same entries of a name. -/
def Dict.SameAt {α : Type} (key : String) (d other : Dict α) : Prop :=
  d.filter (·.1 = key) = other.filter (·.1 = key)

namespace Dict.SameAt

variable {α : Type} {key : String} {d other third : Dict α}

theorem refl (key : String) (d : Dict α) : SameAt key d d := rfl

theorem trans (h : SameAt key d other) (h' : SameAt key other third) :
    SameAt key d third :=
  Eq.trans h h'

/-- Writing another entry changes nothing at a name. -/
theorem insert {name : String} (d : Dict α) (value : α) (hne : key ≠ name) :
    SameAt key d (d.insert name value) := by
  unfold SameAt
  induction d with
  | nil => simp [Dict.insert, hne.symm]
  | cons e rest ih =>
      obtain ⟨k, v⟩ := e
      simp only [Dict.insert]
      split
      · simp only [List.filter_cons]
        rw [ih]
      · split
        next heq =>
          subst heq
          simp [hne.symm]
        · simp [List.filter_cons, hne.symm]

/-- Entries that are the same are read alike. -/
theorem get?_eq (h : SameAt key d other) : d.get? key = other.get? key := by
  have hfilter : ∀ d :
      Dict α, d.get? key = Dict.get? (d.filter (·.1 = key)) key := by
    intro d
    induction d with
    | nil => rfl
    | cons e rest ih =>
        obtain ⟨k, v⟩ := e
        by_cases hk : k = key
        · simp [Dict.get?, hk]
        · simpa [Dict.get?, List.filter_cons, hk] using ih
  rw [hfilter d, hfilter other, h]

/-- Entries that are the same have the same effect as a patch. -/
theorem get?_merge_eq (h : SameAt key d other) (base : Dict α) :
    (Dict.merge base d).get? key = (Dict.merge base other).get? key := by
  have hfilter : ∀ d : Dict α,
      (Dict.merge base d).get? key =
          (Dict.merge base (d.filter (·.1 = key))).get? key :=
    fun d => (Dict.get?_merge_filter (fun e _ he => decide_eq_true he) rfl).symm
  rw [hfilter d, hfilter other, h]

end Dict.SameAt

/-! ## Rewritten entries -/

/-- What becomes of a dictionary when entries of the given names are written. -/
inductive Dict.Rewritten {α : Type} (names : List String) (d : Dict α) :
    Dict α → Prop
  | refl : Rewritten names d d
  | insert {other : Dict α} {key : String} (value : α) (hkey : key ∈ names) :
      Rewritten names d other → Rewritten names d (Dict.insert other key value)

namespace Dict.Rewritten

variable {α : Type} {names : List String} {d other : Dict α}

/-- One entry is written. -/
theorem single {key : String} (hkey : key ∈ names) (d : Dict α) (value : α) :
    Rewritten names d (d.insert key value) := refl.insert value hkey

/-- Entries of other names stay. -/
theorem sameAt {key : String} (h : Rewritten names d other)
    (hkey : key ∉ names) : SameAt key d other := by
  induction h with
  | refl => exact SameAt.refl key d
  | insert value hmem _ ih =>
      exact ih.trans (SameAt.insert _ value fun heq => hkey (heq ▸ hmem))

/-- What writing an entry keeps is kept. -/
theorem keeps {P : Dict α → Prop}
    (hP : ∀ d key value, P d → P (Dict.insert d key value))
    (h : Rewritten names d other) (hd : P d) : P other := by
  induction h with
  | refl => exact hd
  | insert value _ _ ih => exact hP _ _ value ih

end Dict.Rewritten

/-! ## Procedures that read -/

namespace Access

variable {α β : Type}

/-- A procedure that leaves every store as it is, and answers with what
satisfies a property. -/
structure Reads (p : Access α) (Q : α → Prop) : Prop where
  store : ∀ h outage s, (p.run h outage s).2 = s
  answer : ∀ h outage s a, (p.run h outage s).1 = .ok a → Q a

namespace Reads

variable {P : α → Prop} {Q : β → Prop}

theorem imp {P' : α → Prop} {p : Access α} (hp : p.Reads P)
    (h : ∀ a, P a → P' a) : p.Reads P' :=
  ⟨hp.store, fun host outage s a ha => h a (hp.answer host outage s a ha)⟩

theorem done {a : α} (ha : P a) : (Access.done a).Reads P :=
  ⟨fun _ _ _ => rfl, fun _ _ _ _ h => Except.ok.inj h ▸ ha⟩

theorem stopped (f : Failure) : (Access.stopped f : Access α).Reads P :=
  ⟨fun _ _ _ => rfl, fun _ _ _ _ h => by cases h⟩

theorem ofExcept {e : Except ServiceError α} (he : ∀ a, e = .ok a → P a) :
    (Access.ofExcept e).Reads P := by
  cases e with
  | error e => exact stopped _
  | ok a => exact done (he a rfl)

/-- Reading goes on with whatever a collection holds. -/
theorem findAll {slug : String} {next : List Record → Access α}
    (h : ∀ rows, (next rows).Reads P) : (Access.findAll slug next).Reads P := by
  constructor
  · intro host outage s
    rw [run]
    split
    · rfl
    · exact (h _).store host outage s
  · intro host outage s a hrun
    rw [run] at hrun
    split at hrun
    · cases hrun
    · exact (h _).answer host outage s a hrun

theorem clock {next : Calendar.Instant → Access α} (h : ∀ t, (next t).Reads P) :
    (Access.clock next).Reads P :=
  ⟨fun host outage s => (h host.now).store host outage s,
    fun host outage s => (h host.now).answer host outage s⟩

/-- A reading procedure ends in the store in which it began. -/
theorem run_eq {p : Access α} (hp : p.Reads P) (h : Host) (outage : Outage)
    (s : Store) :
    ∃ answer, p.run h outage s = (answer, s) ∧ ∀ a, answer = .ok a → P a :=
  ⟨_, Prod.ext rfl (hp.store h outage s), hp.answer h outage s⟩

/-- **Reading procedures can be run one after the other.** -/
theorem bind {p : Access α} {k : α → Access β} (hp : p.Reads P)
    (hk : ∀ a, P a → (k a).Reads Q) : (p >>= k).Reads Q := by
  constructor
  · intro host outage s
    obtain ⟨answer, hrun, hanswer⟩ := hp.run_eq host outage s
    rw [run_bind, hrun]
    cases answer with
    | error f => rfl
    | ok a => exact (hk a (hanswer a rfl)).store host outage s
  · intro host outage s b hb
    obtain ⟨answer, hrun, hanswer⟩ := hp.run_eq host outage s
    rw [run_bind, hrun] at hb
    cases answer with
    | error f => cases hb
    | ok a => exact (hk a (hanswer a rfl)).answer host outage s b hb

/-- What follows a reading procedure runs on the same store. -/
theorem exists_of_bind_ok {p : Access α} {k : α → Access β}
    (hp : p.Reads P) {h : Host} {outage : Outage} {s : Store} {b : β}
    (hrun : ((p >>= k).run h outage s).1 = .ok b) :
    ∃ a, (p.run h outage s).1 = .ok a ∧ ((k a).run h outage s).1 = .ok b := by
  obtain ⟨answer, hp, -⟩ := hp.run_eq h outage s
  rw [run_bind, hp] at hrun
  cases answer with
  | error f => cases hrun
  | ok a => exact ⟨a, by rw [hp], hrun⟩

/-- A check answers with the record that it has checked. -/
theorem thenReturn {p : Access Unit} (hp : p.Reads fun _ => True) {b : β}
    (hb : Q b) : (p >>= fun _ => pure b).Reads Q :=
  hp.bind fun _ _ => done hb

end Reads

end Access

/-- A check of rules only reads. -/
theorem RuleSet.validate_reads [Pattern.Engine] (rules : RuleSet)
    (slug : String) (data : Record) (mode : WriteMode) :
    (rules.validate slug data mode).Reads fun _ => True :=
  ⟨fun h outage s => rules.validate_store slug data mode h outage s,
    fun _ _ _ _ _ => trivial⟩

/-- A guard only reads. -/
theorem DeleteGuard.check_reads (g : DeleteGuard) (id : String) :
    (g.check id).Reads fun _ => True := by
  have hscan : ∀ dependents, (scanEach id dependents).Reads fun _ => True := by
    intro dependents
    induction dependents with
    | nil => exact Access.Reads.done trivial
    | cons d rest ih =>
        refine Access.Reads.findAll fun rows => ih.bind fun _ _ =>
          Access.Reads.done trivial
  refine (hscan g.dependents).bind fun found _ => ?_
  split
  · exact Access.Reads.done trivial
  · exact Access.Reads.stopped _

/-- A check for uniqueness only reads. -/
theorem requireUnique_reads (slug : String) (r : Record) (field : String)
    (exclude : Option String) (message : String) :
    (requireUnique slug r field exclude message).Reads fun _ => True := by
  unfold requireUnique
  split
  · exact Access.Reads.done trivial
  · refine Access.Reads.findAll fun rows => ?_
    dsimp only [Access.bind]
    split
    · exact Access.Reads.stopped _
    · exact Access.Reads.done trivial

/-! ## Records -/

namespace Record

open Dict (Rewritten)

variable {r r' : Record} {field message : String}

theorem rewritten_setDefault (r : Record) (field : String) (value : Json) :
    Rewritten [field] r (r.setDefault field value) := by
  unfold setDefault
  split
  · exact .refl
  · exact .single (List.mem_singleton_self _) r value

theorem rewritten_coerceNumber (h : r.coerceNumber field message = .ok r') :
    Rewritten [field] r r' := by
  unfold coerceNumber at h
  split at h
  · cases h
    exact .refl
  · split at h
    · cases h
    · cases h
      exact .single (List.mem_singleton_self _) r _

theorem rewritten_normalizeText (r : Record) (field : String) (c : TextCase) :
    Rewritten [field] r (r.normalizeText field c) := by
  unfold normalizeText
  split
  · exact .refl
  · exact .single (List.mem_singleton_self _) r _

theorem rewritten_normalizeDate (r : Record) (field : String) :
    Rewritten [field] r (r.normalizeDate field) := by
  unfold normalizeDate
  split
  · exact .refl
  · exact .single (List.mem_singleton_self _) r _

/-- Only a default changes a record. -/
theorem rewritten_oneOf {options : List String} {default : Option String}
    (h : r.oneOf field options default message = .ok r') :
    Rewritten (if default.isSome then [field] else []) r r' := by
  unfold oneOf at h
  split at h
  · cases default with
    | none =>
        cases h
        exact .refl
    | some d =>
        cases h
        exact .single (List.mem_singleton_self _) r _
  · split at h
    · cases h
      exact .refl
    · cases h

theorem rewritten_defaultToday (r : Record) (now : Calendar.Instant)
    (issue due : String) :
    Rewritten [issue, due] r (r.defaultToday now issue) := by
  unfold defaultToday
  split
  · exact .single List.mem_cons_self r _
  · exact .refl

theorem rewritten_dueDate? {now : Calendar.Instant} {issue due : String}
    {days : Int} (h : r.dueDate? now issue due days = some r') :
    Rewritten [issue, due] r r' := by
  have htoday := r.rewritten_defaultToday now issue due
  unfold dueDate? at h
  dsimp only at h
  split at h
  · split at h
    · cases h
      exact htoday
    · obtain ⟨day, -, rfl⟩ := Option.map_eq_some_iff.mp h
      exact htoday.insert _ (List.mem_cons_of_mem _ List.mem_cons_self)
  · cases h
    exact htoday

theorem rewritten_invoiceTotals (r : Record) (taxRate : Float) :
    Rewritten totalFields r (r.invoiceTotals taxRate) :=
  ((Rewritten.single (by decide) r _).insert _ (by decide)).insert _ (by decide)

theorem rewritten_invoiceTotalsIfTouched (r : Record) (taxRate : Float) :
    Rewritten totalFields r (r.invoiceTotalsIfTouched taxRate) := by
  unfold invoiceTotalsIfTouched
  split
  · exact rewritten_invoiceTotals r taxRate
  · exact .refl

theorem rewritten_lineTotal {existing : Option Record}
    {quantity unitPrice target : String}
    (h : r.lineTotal existing quantity unitPrice target message = .ok r') :
    Rewritten [target] r r' := by
  unfold lineTotal at h
  split at h
  · cases h
    exact .refl
  · split at h
    · cases h
      exact .single (List.mem_singleton_self _) r _
    · cases h

end Record

/-! ## Fragments -/

namespace Fragment

/-- The fields of the incoming record that a fragment may change. -/
def targets : Fragment → List String
  | defaultValue field _ | forceValue field _ | coerceNumber
      field _ | normalize field _
  | normalizeDate field | sequence field _ _ _ | oneOf field _ (some _) _ =>
      [field]
  | dueDate issue due _ => [issue, due]
  | invoiceTotals _ _ => Record.totalFields
  | lineTotal _ _ target _ => [target]
  | _ => []

/-- Whether a fragment is meant to stand before a write. The others write
themselves. -/
def precedesWrite : Fragment → Bool
  | recalculateParent _ _ _ | audit => false
  | _ => true

/-- Numbering changes its field only. -/
theorem nextSequence_reads (slug : String) (r : Record) (field label : String)
    (width : Nat) (message : String) :
    (nextSequence slug r field label width message).Reads fun data =>
      Dict.Rewritten [field] r data := by
  unfold nextSequence
  split
  · exact Access.Reads.findAll fun rows =>
      Access.Reads.done (.single (List.mem_singleton_self _) r _)
  · exact (requireUnique_reads slug r field none message).thenReturn .refl

/-- **A fragment before a write reads the store and rewrites its targets
only.** -/
theorem call_rewrites [Pattern.Engine] (sv : Service) (h : Hook) (x : Scope)
    {φ : Fragment} (hφ : φ.precedesWrite = true) :
    (φ.call sv h x).Reads fun data => Dict.Rewritten φ.targets x.data data := by
  have hcheck : ∀ e : Except ServiceError Unit,
      (Access.ofExcept e >>= fun _ => (pure x.data : Access Record)).Reads
        fun data => Dict.Rewritten φ.targets x.data data :=
    fun e => (Access.Reads.ofExcept fun _ _ => trivial).thenReturn .refl
  cases φ with
  | fieldRules => exact (sv.rules.validate_reads _ _ _).thenReturn .refl
  | deleteGuard => exact (sv.guard.check_reads x.id).thenReturn .refl
  | defaultValue field value =>
      exact Access.Reads.done (Record.rewritten_setDefault _ _ _)
  | forceValue field value =>
      exact Access.Reads.done (.single (List.mem_singleton_self _) _ _)
  | coerceNumber field message =>
      exact Access.Reads.ofExcept fun data hdata =>
        Record.rewritten_coerceNumber hdata
  | normalize field case =>
      exact Access.Reads.done (Record.rewritten_normalizeText _ _ _)
  | normalizeDate field =>
      exact Access.Reads.done (Record.rewritten_normalizeDate _ _)
  | require field message => exact hcheck _
  | rejectBlank field message => exact hcheck _
  | requireAny fields message => exact hcheck _
  | atLeast field least message => exact hcheck _
  | fixedValue field value message => exact hcheck _
  | unique field message =>
      exact (requireUnique_reads _ _ _ _ _).thenReturn .refl
  | oneOf field options default message =>
      refine Access.Reads.ofExcept fun data hdata => ?_
      cases default with
      | none => exact Record.rewritten_oneOf hdata
      | some d => exact Record.rewritten_oneOf hdata
  | checkDate field allowPast invalidMessage pastMessage =>
      exact Access.Reads.clock fun now => hcheck _
  | validDate field message => exact hcheck _
  | dateOrder start finish message => exact hcheck _
  | sequence field label width message =>
      exact nextSequence_reads sv.slug x.data field label width message
  | dueDate issue due days =>
      refine Access.Reads.clock fun now => ?_
      cases hdue : x.data.dueDate? now issue due days with
      | none => exact Access.Reads.stopped _
      | some data => exact Access.Reads.done (Record.rewritten_dueDate? hdue)
  | invoiceTotals taxRate onlyIfTouched =>
      refine Access.Reads.done ?_
      cases onlyIfTouched with
      | false => exact Record.rewritten_invoiceTotals _ _
      | true => exact Record.rewritten_invoiceTotalsIfTouched _ _
  | lineTotal quantity unitPrice target message =>
      exact Access.Reads.ofExcept fun data hdata =>
        Record.rewritten_lineTotal hdata
  | recalculateParent foreignKey parentSlug taxRate => cases hφ
  | audit => cases hφ

/-- A fragment before a write leaves all fields but its targets. -/
theorem call_frame [Pattern.Engine] (sv : Service) (h : Hook) (x : Scope)
    {φ : Fragment} (hφ : φ.precedesWrite = true) :
    (φ.call sv h x).Reads fun data =>
      ∀ key ∉ φ.targets, Dict.SameAt key x.data data :=
  (φ.call_rewrites sv h x hφ).imp fun _ hdata _ hkey => hdata.sameAt hkey

end Fragment

/-- **Fragments before a write read the store and change their targets
only.** -/
theorem Service.runFragments_frame
    [Pattern.Engine] (sv : Service) (h : Hook) {fragments : List Fragment}
    (hfragments : ∀ φ ∈ fragments, φ.precedesWrite = true) (x : Scope) :
    (sv.runFragments h fragments x).Reads fun data =>
      ∀ key, (∀ φ ∈ fragments, key ∉ φ.targets) →
        Dict.SameAt key x.data data := by
  induction fragments generalizing x with
  | nil => exact Access.Reads.done fun key _ => Dict.SameAt.refl key _
  | cons φ rest ih =>
      refine (φ.call_frame sv h x (hfragments φ List.mem_cons_self)).bind
        fun data hdata => ?_
      have hrest := ih (fun φ hφ => hfragments φ (List.mem_cons_of_mem _ hφ))
          { x with data }
      exact ⟨hrest.store, fun host outage s after hafter key hkey =>
        (hdata key (hkey φ List.mem_cons_self)).trans
          (hrest.answer host outage s after hafter key fun φ hφ =>
            hkey φ (List.mem_cons_of_mem _ hφ))⟩

/-- What a property that writing keeps says of the record it says of the
answer. -/
theorem Service.runFragments_keeps [Pattern.Engine] (sv : Service) (h : Hook)
    {P : Record → Prop} (hP : ∀ r key value, P r → P (Dict.insert r key value))
    {fragments : List Fragment}
    (hfragments : ∀ φ ∈ fragments, φ.precedesWrite = true) {x : Scope}
    (hx : P x.data) : (sv.runFragments h fragments x).Reads P := by
  induction fragments generalizing x with
  | nil => exact Access.Reads.done hx
  | cons φ rest ih =>
      refine (φ.call_rewrites sv h x (hfragments φ List.mem_cons_self)).bind
        fun data hdata => ?_
      exact ih (fun φ hφ => hfragments φ (List.mem_cons_of_mem _ hφ))
        (hdata.keeps hP hx)

/-- Fragments run in two parts, the second on what the first has left. -/
theorem Service.exists_of_runFragments_append
    [Pattern.Engine] {sv : Service} {h : Hook}
    {front back : List Fragment} (hfront : ∀ φ ∈ front, φ.precedesWrite = true)
    {host : Host} {outage : Outage} {s : Store} {x : Scope} {data : Record}
    (hrun :
      ((sv.runFragments h (front ++ back) x).run host outage s).1 = .ok data) :
    ∃ middle, ((sv.runFragments h front x).run host outage s).1 = .ok middle ∧
      ((sv.runFragments h back { x with data := middle }).run host outage s).1 =
        .ok data := by
  induction front generalizing x with
  | nil => exact ⟨x.data, rfl, hrun⟩
  | cons φ rest ih =>
      have hcall := φ.call_frame sv h x (hfront φ List.mem_cons_self)
      obtain ⟨next, hnext, hrest⟩ := hcall.exists_of_bind_ok hrun
      obtain ⟨middle, hmiddle, hback⟩ :=
        ih (fun φ hφ => hfront φ (List.mem_cons_of_mem _ hφ)) hrest
      refine ⟨middle, ?_, hback⟩
      rw [runFragments,
        Access.run_bind_ok _ _ _ (Prod.ext hnext (hcall.store host outage s))]
      exact hmiddle

end ServiceLoom
