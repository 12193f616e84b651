import ServiceLoom.Pattern.Builtin
import ServiceLoom.Proofs.Service.Drift
import ServiceLoom.Proofs.Service.RowLaws

/-!
# Invoices

The bundle for invoices gives a row one of its statuses, and a due date that
does not come before the issue date.  On creation both are made sure of.  On
update they are not: a status is checked only if it is not blank, and a blank
one is stored, for there is no default then; and the dates are not compared
again.

* `Service.Invoices.create_dates`, `Service.Invoices.create_status` — what a
  creation stores;
* `Service.Placed.update_invoice`, `Service.KeepsInvoices.update_status` — what
  an update makes of the three fields;
* `Service.KeepsInvoices.stored_iff` — what is stored;
* `SchemaGraph.invoice_rows` — all runs.
-/

namespace ServiceLoom

/-! ## Statuses -/

/-- A value has the text of one of the statuses. -/
def HasStatus (statuses : List String) (v : Option Json) : Prop :=
  ∃ text ∈ statuses, v.map Json.plainText = some text

instance (statuses : List String) (v : Option Json) :
    Decidable (HasStatus statuses v) :=
  inferInstanceAs
    (Decidable (∃ text ∈ statuses, v.map Json.plainText = some text))

/-- A row with one of the statuses, and dates in order. -/
def Record.IsInvoice (statuses : List String) (row : Record) : Prop :=
  HasStatus statuses (row.get? "status") ∧ row.InOrder "issue_date" "due_date"

instance (statuses : List String) (row : Record) :
    Decidable (row.IsInvoice statuses) :=
  inferInstanceAs (Decidable (HasStatus statuses (row.get? "status") ∧
    row.InOrder "issue_date" "due_date"))

/-- The fields of an invoice that are to be kept in order. -/
def invoiceFields : List String := ["status", "issue_date", "due_date"]

/-- The law of invoices. -/
def RowLaw.invoice (statuses : List String) : RowLaw where
  fields := invoiceFields
  fields_ne := List.cons_ne_nil _ _
  Holds row := row.IsInvoice statuses
  congr := by
    intro row other hfields
    have hdates := Record.inOrder_congr (hfields "issue_date" (by decide))
        (hfields "due_date" (by decide))
    rw [Record.IsInvoice, Record.IsInvoice,
      hfields "status" (by decide), hdates]

/-- Every row of a collection is an invoice. -/
def Store.Invoiced (s : Store) (slug : String)
    (statuses : List String) : Prop :=
  ∀ row ∈ s.rows slug, row.IsInvoice statuses

instance (s : Store) (slug : String) (statuses : List String) :
    Decidable (s.Invoiced slug statuses) :=
  inferInstanceAs (Decidable (∀ row ∈ s.rows slug, row.IsInvoice statuses))

namespace Record

variable {r r' : Record} {field message : String} {options : List String}

/-- **With a default** a field has one of the options in the end. -/
theorem hasStatus_of_oneOf_some {default : String} (hdefault : default ∈ options)
    (h : r.oneOf field options (some default) message = .ok r') :
    HasStatus options (r'.get? field) := by
  unfold oneOf at h
  split at h
  · cases h
    rw [Dict.get?_insert_self]
    exact ⟨default, hdefault, rfl⟩
  next hfilled =>
    split at h
    next hoption =>
      cases h
      cases hget : r.get? field with
      | none =>
          rw [hget] at hfilled
          exact absurd rfl hfilled
      | some v =>
          rw [hget] at hoption
          exact ⟨v.plainText, by simpa using hoption, rfl⟩
    · cases h

/-- **Without a default** a field is checked only if it is not blank. -/
theorem hasStatus_of_oneOf_none
    (h : r.oneOf field options none message = .ok r') :
    r' = r ∧
    (isBlank (r.get? field) = true ∨ HasStatus options (r.get? field)) := by
  unfold oneOf at h
  split at h
  next hblank =>
    cases h
    exact ⟨rfl, Or.inl hblank⟩
  next hfilled =>
    split at h
    next hoption =>
      cases h
      refine ⟨rfl, Or.inr ?_⟩
      cases hget : r.get? field with
      | none =>
          rw [hget] at hfilled
          exact absurd rfl hfilled
      | some v =>
          rw [hget] at hoption
          exact ⟨v.plainText, by simpa using hoption, rfl⟩
    · cases h

end Record

/-! ## The bundle -/

/-- A list of texts is never empty. -/
theorem BundleConfig.texts_ne_nil (c : BundleConfig) (names : List String)
    {default : List String} (h : default ≠ []) :
    c.texts names default ≠ [] := by
  unfold texts
  dsimp only
  split
  · exact h
  next hfilled => exact fun hnil => hfilled (List.isEmpty_iff.mpr hnil)

/-- The statuses of an invoice under a configuration. -/
def BundleConfig.statuses (c : BundleConfig) : List String :=
  c.texts ["statuses"] ["Draft", "Sent", "Paid", "Overdue"]

/-- The first status is the default. -/
theorem BundleConfig.exists_default (c : BundleConfig) :
    ∃ default ∈ c.statuses, c.statuses.head? = some default := by
  cases hstatuses : c.statuses with
  | nil => exact absurd hstatuses (c.texts_ne_nil _ (List.cons_ne_nil _ _))
  | cons first rest => exact ⟨first, List.mem_cons_self, rfl⟩

namespace Service

variable {sv : Service} {c : BundleConfig} {host : Host} {s : Store}

/-- A service with the bundle for invoices, around which its dates drift. -/
structure Invoices (sv : Service) (c : BundleConfig) : Prop where
  placed : sv.Placed
  onCreate : sv.Places .beforeCreateTransformation
    ((Bundle.invoice.fragments c).fragmentsAt .beforeCreateTransformation) fun φ
        =>
          φ.DriftsAt true .beforeCreateTransformation "issue_date" ∧
            φ.DriftsAt true .beforeCreateTransformation "due_date"

/-- The dates drift around the fragments of the bundle. -/
theorem Invoices.exists_run
    [Pattern.Engine] (hsv : sv.Invoices c) {x : Scope} {data : Record}
    (hrun : ((sv.runHook .beforeCreateTransformation x).run host
      Outage.none s).1 = .ok data) :
    ∃ first second, ((sv.runFragments .beforeCreateTransformation
        ((Bundle.invoice.fragments c).fragmentsAt .beforeCreateTransformation)
          { x with data := first }).run host
          Outage.none s).1 = .ok second ∧
      Drifts true .beforeCreateTransformation (second.get? "issue_date")
        (data.get? "issue_date") ∧
      Drifts true .beforeCreateTransformation (second.get? "due_date")
        (data.get? "due_date") := by
  obtain ⟨first, second, -, hown, hdates⟩ :=
    hsv.onCreate.exists_run hsv.placed rfl
      (R := fun r r' => Drifts true .beforeCreateTransformation
        (r.get? "issue_date") (r'.get? "issue_date") ∧
        Drifts true .beforeCreateTransformation (r.get? "due_date")
          (r'.get? "due_date"))
      (fun r => ⟨.refl, .refl⟩)
        (fun hab hbc => ⟨hab.1.trans hbc.1, hab.2.trans hbc.2⟩)
      (fun φ hφ hprecedes x => (hφ.1.call_drifts hprecedes sv x).and
        (hφ.2.call_drifts hprecedes sv x)) hrun
  exact ⟨first, second, hown, hdates⟩

/-- Fragments that leave a field alone leave it as it was. -/
theorem sameAt_of_runFragments [Pattern.Engine] {h : Hook}
    {own : List Fragment} {x : Scope} {data : Record} {field : String}
    (hown : own.all (fun φ =>
      φ.precedesWrite && !φ.targets.contains field) = true)
    (hrun : ((sv.runFragments h own x).run host Outage.none s).1 = .ok data) :
    Dict.SameAt field x.data data := by
  have hkind : ∀ φ ∈ own, φ.precedesWrite = true ∧ field ∉ φ.targets := by
    intro φ hφ
    simpa using List.all_eq_true.mp hown φ hφ
  exact (sv.runFragments_frame h (fun φ hφ => (hkind φ hφ).1) x).answer
    host Outage.none s data hrun field
    fun φ hφ => (hkind φ hφ).2

/-- **A creation** stores dates in order, whatever other bundles do. -/
theorem Invoices.create_dates
    [Pattern.Engine] (hsv : sv.Invoices c) {body data : Record}
    (hrun : ((sv.prepareCreate body).run host Outage.none s).1 = .ok data) :
    data.InOrder "issue_date" "due_date" := by
  obtain ⟨valid, -, htransform⟩ :=
    (hsv.placed.runHook_frame rfl _).exists_of_bind_ok hrun
  obtain ⟨first, second, hown, hissue, hdue⟩ := hsv.exists_run htransform
  -- After the status, the number and the due date the order is checked, and
  -- then only the totals are written.
  obtain ⟨_, -, hown⟩ := exists_of_runFragments_cons rfl hown
  obtain ⟨_, -, hown⟩ := exists_of_runFragments_cons rfl hown
  obtain ⟨_, -, hown⟩ := exists_of_runFragments_cons rfl hown
  obtain ⟨_, horder, hown⟩ := exists_of_runFragments_cons rfl hown
  obtain ⟨hcheck, rfl⟩ := Access.eq_of_run_check horder
  obtain ⟨_, htotals, hown⟩ := exists_of_runFragments_cons rfl hown
  cases htotals
  cases hown
  have hchecked := Record.dateOrder_eq_ok_iff.mp hcheck
  refine Record.InOrder.of_instants ((Record.inOrder_congr ?_ ?_).mp hchecked)
    hissue.instant? hdue.instant?
  · exact ((Record.rewritten_invoiceTotals _ _).sameAt (by decide)).get?_eq
  · exact ((Record.rewritten_invoiceTotals _ _).sameAt (by decide)).get?_eq

/-- **A creation** stores one of the statuses, if no other bundle writes it. -/
theorem Invoices.create_status [Pattern.Engine] (hsv : sv.Invoices c)
    (halone : sv.Places .beforeCreateTransformation
      ((Bundle.invoice.fragments c).fragmentsAt .beforeCreateTransformation)
      fun φ => ∀ f ∈ ["status"], f ∉ φ.targets) {body data : Record}
    (hrun : ((sv.prepareCreate body).run host Outage.none s).1 = .ok data) :
    HasStatus c.statuses (data.get? "status") := by
  obtain ⟨valid, -, htransform⟩ :=
    (hsv.placed.runHook_frame rfl _).exists_of_bind_ok hrun
  obtain ⟨first, second, -, hown, hafter⟩ :=
    halone.exists_run_sameAt hsv.placed rfl htransform
  obtain ⟨next, hstatus, hrest⟩ := exists_of_runFragments_cons rfl hown
  obtain ⟨default, hdefault, hhead⟩ := c.exists_default
  have hone : Record.oneOf first "status" c.statuses
      (some default) "Invalid invoice status" = .ok next := by
    rw [← hhead]
    exact Access.eq_ok_of_run_ofExcept _ _ _ hstatus
  -- The fragments after it leave the status.
  have hsame : Dict.SameAt "status" next second :=
    sameAt_of_runFragments rfl hrest
  rw [← (hafter "status" (List.mem_singleton_self _)).get?_eq, ← hsame.get?_eq]
  exact Record.hasStatus_of_oneOf_some hdefault hone

/-- **An update** leaves the three fields as they are posted, if no other bundle
writes them, and of these it checks the status only, and that only if it is not
blank. -/
theorem Placed.update_invoice [Pattern.Engine] (hsv : sv.Placed)
    (halone : sv.Places .beforeUpdateValidation
      ((Bundle.invoice.fragments c).fragmentsAt .beforeUpdateValidation) fun φ =>
      ∀ f ∈ invoiceFields, f ∉ φ.targets)
    {id : String} {existing body data : Record}
    (hrun : ((sv.prepareUpdate id existing body).run host Outage.none s).1 =
      .ok data) :
    (∀ f ∈ invoiceFields, Dict.SameAt f body data) ∧
      (isBlank (body.get? "status") = true ∨
        HasStatus c.statuses (body.get? "status")) := by
  obtain ⟨first, second, hbefore, hown, hafter⟩ :=
    halone.exists_run_sameAt hsv rfl hrun
  obtain ⟨next, hstatus, hrest⟩ := exists_of_runFragments_cons rfl hown
  obtain ⟨rfl, hchecked⟩ :=
    Record.hasStatus_of_oneOf_none (Access.eq_ok_of_run_ofExcept _ _ _ hstatus)
  have hsame : ∀ f ∈ invoiceFields, Dict.SameAt f next second := by
    intro f hf
    refine sameAt_of_runFragments ?_ hrest
    simp only [invoiceFields, List.mem_cons, List.not_mem_nil, or_false] at hf
    rcases hf with rfl | rfl | rfl <;> rfl
  refine ⟨fun f hf => ((hbefore f hf).trans (hsame f hf)).trans (hafter f hf), ?_⟩
  rw [(hbefore "status" (by decide)).get?_eq]
  exact hchecked

/-- An update with a blank status that is none of the statuses, or with dates
that are not in order together with those of the row. -/
inductive Spoils (sv : Service) (c : BundleConfig) (s : Store) : Request → Prop
  | status {id : String} {body : Record} {v : Json}
      (hv : body.get? "status" = some v)
      (hblank : isBlank (some v) = true) (hstatus : v.plainText ∉ c.statuses) :
        Spoils sv c s (.update id body)
  | dates {id : String} {body existing : Record}
      (hfound : s.find? sv.slug id = some existing)
      (horder : ¬ Record.InOrder (Dict.merge existing body)
        "issue_date" "due_date") : Spoils sv c s (.update id body)

/-- A service whose bundle for invoices writes status and dates alone. -/
structure KeepsInvoices (sv : Service) (c : BundleConfig) : Prop
    extends sv.Invoices c where
  stable : sv.StableFor (.invoice c.statuses)
  createAlone : sv.Places .beforeCreateTransformation
    ((Bundle.invoice.fragments c).fragmentsAt .beforeCreateTransformation)
      fun φ => ∀ f ∈ ["status"], f ∉ φ.targets
  updateAlone : sv.Places .beforeUpdateValidation
    ((Bundle.invoice.fragments c).fragmentsAt .beforeUpdateValidation) fun φ =>
      ∀ f ∈ invoiceFields, f ∉ φ.targets

/-- An accepted update stores one of the statuses unless it posts a blank one
that is none of them. -/
theorem KeepsInvoices.update_status [Pattern.Engine] (hsv : sv.KeepsInvoices c)
    {id : String} {existing body data : Record} (hbody : Dict.Ordered body)
    (hexisting : HasStatus c.statuses (existing.get? "status"))
    (hrun : ((sv.prepareUpdate id existing body).run host Outage.none s).1 =
      .ok data) :
    HasStatus c.statuses ((Dict.merge existing body).get? "status") ↔
      ¬ ∃ v, body.get? "status" = some v ∧ isBlank (some v) = true ∧
        v.plainText ∉ c.statuses := by
  have hchecked := (hsv.placed.update_invoice hsv.updateAlone hrun).2
  rw [Dict.get?_merge hbody]
  cases hget : body.get? "status" with
  | none => exact iff_of_true hexisting fun ⟨v, hv, _⟩ => nomatch hv
  | some v =>
      rw [hget] at hchecked
      constructor
      · rintro ⟨text, hmem, htext⟩ ⟨w, hw, -, hnone⟩
        cases hw
        exact hnone (Option.some.inj htext ▸ hmem)
      · intro hnone
        rcases hchecked with hblank | hstatus
        · by_contra hother
          refine hnone ⟨v, rfl, hblank, fun hmem =>
            hother ⟨v.plainText, hmem, rfl⟩⟩
        · exact hstatus

/-- **What is stored is an invoice, unless an update spoils it.** -/
theorem KeepsInvoices.stored_iff [Pattern.Engine] (hsv : sv.KeepsInvoices c)
    {q : Request} (hq : q.Ordered) (hinvoiced : s.Invoiced sv.slug c.statuses)
    {checked stored : Record} {mode : WriteMode}
    (hstores : sv.Stores host s q checked stored mode) :
    stored.IsInvoice c.statuses ↔ ¬ sv.Spoils c s q := by
  cases hstores with
  | create hprepared _ =>
      refine iff_of_true ⟨hsv.create_status hsv.createAlone hprepared,
        hsv.create_dates hprepared⟩ ?_
      intro hspoils
      cases hspoils
  | @update id body existing data hfound hprepared =>
      -- In the three fields the row with the changes is the row with what was
      -- posted.
      obtain ⟨hsame, -⟩ := hsv.placed.update_invoice hsv.updateAlone hprepared
      have hmerge : ∀ f ∈ invoiceFields, (Dict.merge existing data).get? f =
          (Dict.merge existing body).get? f :=
        fun f hf => ((hsame f hf).get?_merge_eq existing).symm
      have hstatus := hsv.update_status hq
          (hinvoiced existing (s.find?_some hfound).1).1 hprepared
      rw [show Record.IsInvoice c.statuses (Dict.merge existing data) ↔
        Record.IsInvoice c.statuses (Dict.merge existing body)
          from (RowLaw.invoice c.statuses).congr hmerge]
      constructor
      · rintro ⟨hlisted, horder⟩ hspoils
        cases hspoils with
        | status hv hblank hother =>
            exact hstatus.mp hlisted ⟨_, hv, hblank, hother⟩
        | dates hfound' hdisorder =>
            rw [hfound] at hfound'
            cases hfound'
            exact hdisorder horder
      · intro hspoils
        refine ⟨hstatus.mpr fun ⟨v, hv, hblank, hother⟩ =>
          hspoils (.status hv hblank hother), ?_⟩
        by_contra hdisorder
        exact hspoils (.dates hfound hdisorder)

/-- **A request keeps rows invoices exactly when it is no accepted update that
spoils one.** -/
theorem KeepsInvoices.invoiced_after_iff [Pattern.Engine]
    (hsv : sv.KeepsInvoices c) (host : Host) (h : Identified (s.rows sv.slug))
    (hinvoiced : s.Invoiced sv.slug c.statuses) {q : Request} (hq : q.Ordered) :
    (sv.after host s q).Invoiced sv.slug c.statuses ↔
      ¬ (sv.Accepts host s q ∧ sv.Spoils c s q) :=
  hsv.stable.keeps_after_iff_not host h hinvoiced fun _ _ _ hstores =>
    hsv.stored_iff hq hinvoiced hstores

/-- An update that posts no blank status and no dates. -/
def Request.LeavesDates : Request → Prop
  | update _ body =>
      (∀ v, Dict.get? body "status" = some v → isBlank (some v) = false) ∧
      Dict.get? body "issue_date" = none ∧ Dict.get? body "due_date" = none
  | _ => True

/-- Such updates spoil nothing. -/
theorem not_spoils_of_leavesDates {q : Request} (hq : q.Ordered)
    (hleaves : q.LeavesDates) (hinvoiced : s.Invoiced sv.slug c.statuses) :
    ¬ sv.Spoils c s q := by
  intro hspoils
  cases hspoils with
  | status hv hblank _ =>
      exact absurd ((hleaves.1 _ hv).symm.trans hblank) nofun
  | @dates id body existing hfound hdisorder =>
      refine hdisorder ((Record.inOrder_congr ?_ ?_).mp
        (hinvoiced existing (s.find?_some hfound).1).2)
      · rw [Dict.get?_merge hq, hleaves.2.1]
        rfl
      · rw [Dict.get?_merge hq, hleaves.2.2]
        rfl

end Service

namespace SchemaGraph

variable (g : SchemaGraph) (l : BundleLibrary) {e : Entity} {c : BundleConfig}

/-- **The bundle for invoices**, around which other bundles let dates drift. -/
theorem serviceOf_invoices [Pattern.Engine]
    (hc : (.invoice, c) ∈ (Selection.ofEntity l g.modules e).bundles) :
    (g.serviceOf l e).Invoices c where
  placed := fun _ _ hmem => EntityPlan.mayStandAt _ e.slug hmem
  onCreate := by
    refine EntityPlan.places (p := EntityPlan.ofEntity l g e)
      (Selection.chosen_nodup l g.modules e) hc e.slug _ ?_ ?_
    · intro φ hφ
      have htargets := CompiledRules.targets_eq_nil _ hφ
      exact ⟨.away (htargets ▸ List.not_mem_nil),
        .away (htargets ▸ List.not_mem_nil)⟩
    · intro other _ hne φ hφ
      have hdrifts : ∀ field ∈ Bundle.invoice.ownFields,
          φ.DriftsAt true .beforeCreateTransformation field :=
        fun field hfield =>
          Bundle.driftsAt (Bundle.notMem_ownFields hne hfield) (fun _ => rfl) hφ
      exact ⟨hdrifts "issue_date" (by decide), hdrifts "due_date" (by decide)⟩

/-- The bundle for invoices, where it writes status and dates alone. -/
theorem serviceOf_keepsInvoices [Pattern.Engine] (he : e ∈ g.servedEntities)
    (hc : (.invoice, c) ∈ (Selection.ofEntity l g.modules e).bundles)
    (halone : ∀ f ∈ invoiceFields,
      (Selection.ofEntity l g.modules e).WritesAlone .invoice e.slug f) :
    (g.serviceOf l e).KeepsInvoices c where
  toInvoices := g.serviceOf_invoices l hc
  stable := fun f hf => by
    have huser : f ∉ Record.systemFields ∧ f ∉ Record.totalFields := by
      have hall : ∀ f ∈ invoiceFields, f ∉ Record.systemFields ∧
          f ∉ Record.totalFields := by decide
      exact hall f hf
    exact g.serviceOf_stable l he huser.1 fun _ φ _ =>
      φ.recomputes_of_notMem huser.2
  createAlone := EntityPlan.places_alone
    (p := EntityPlan.ofEntity l g e) (Selection.chosen_nodup l g.modules e) hc
    (fun f hf => halone f (List.mem_singleton.mp hf ▸ by decide)) _
  updateAlone := EntityPlan.places_alone
    (p := EntityPlan.ofEntity l g e) (Selection.chosen_nodup l g.modules e) hc
    halone _

/-- **When a row is no invoice.** Creations store dates in order and, if no
other bundle writes it, one of the statuses.  If no other bundle writes any of
the three fields, rows stay invoices under a request exactly when it is no
accepted update with a blank status that is none of the statuses, or with dates
that are not in order together with those of the row; so all runs lead to
invoices only if there never is such an update.  Runs do whose updates leave the
dates and post no blank status. -/
theorem invoice_rows [Pattern.Engine] (he : e ∈ g.servedEntities)
    (hc : (.invoice, c) ∈ (Selection.ofEntity l g.modules e).bundles) :
    let sv := g.serviceOf l e
    let Run := sv.Run Service.Request.Ordered
    let alone := (Selection.ofEntity l g.modules e).WritesAlone .invoice e.slug
    (∀ s host body checked stored mode,
        sv.Stores host s (.create body) checked stored mode →
        stored.InOrder "issue_date" "due_date" ∧
          (alone "status" → HasStatus c.statuses (stored.get? "status"))) ∧
      ((∀ f ∈ invoiceFields, alone f) →
        (∀ s host q, Run s → q.Ordered → s.Invoiced e.slug c.statuses →
          ((sv.after host s q).Invoiced e.slug c.statuses ↔
            ¬ (sv.Accepts host s q ∧ sv.Spoils c s q))) ∧
        ((∀ s, Run s → s.Invoiced e.slug c.statuses) ↔
          ∀ s host q, Run s → q.Ordered →
            ¬ (sv.Accepts host s q ∧ sv.Spoils c s q)) ∧
        ∀ s, sv.Run (fun q => q.Ordered ∧ q.LeavesDates) s →
            s.Invoiced e.slug c.statuses) := by
  intro sv Run alone
  have hsv : sv.Invoices c := g.serviceOf_invoices l hc
  refine ⟨fun s host body checked stored mode hstores => ?_, fun halone => ?_⟩
  · cases hstores with
    | create hprepared _ =>
        refine ⟨hsv.create_dates hprepared, fun hstatus =>
          hsv.create_status ?_ hprepared⟩
        exact EntityPlan.places_alone
          (p := EntityPlan.ofEntity l g e)
          (Selection.chosen_nodup l g.modules e) hc
          (fun f hf => List.mem_singleton.mp hf ▸ hstatus) _
  · have hkeeps : sv.KeepsInvoices c := g.serviceOf_keepsInvoices l he hc halone
    have hstep : ∀ s host q, Run s → q.Ordered → s.Invoiced e.slug c.statuses →
        ((sv.after host s q).Invoiced e.slug c.statuses ↔
            ¬ (sv.Accepts host s q ∧ sv.Spoils c s q)) :=
      fun s host q hs hq hinvoiced => hkeeps.invoiced_after_iff
        host (hkeeps.stable.identified hs) hinvoiced hq
    refine ⟨hstep, Service.Run.forall_iff nofun hstep, fun s hs => ?_⟩
    refine hkeeps.stable.run_keeps
      (fun s host q _ hinvoiced hq checked stored mode hstores => ?_) hs
    exact (hkeeps.stored_iff hq.1 hinvoiced hstores).mpr
      (Service.not_spoils_of_leavesDates hq.1 hq.2 hinvoiced)

end SchemaGraph

/-- Bills with the bundle for invoices. -/
def billDocument : Document where
  projectName := "bills"
  modules := []
  entities := [
    { slug := "bills", mixins := [.named "invoice"],
      fields := [{ name := "customer" }] }]

/-- The bills as they are served. -/
def bills : Entity :=
  { slug := "bills", module := some defaultModule,
    mixins := [.named "invoice"], fields := [{ name := "customer" }] }

/-- The graph of the bills. -/
def billGraph : SchemaGraph where
  projectName := "bills"
  modules := ModuleConfig.ofSettings []
  entities := [bills]
  edges := []
  children := []
  warnings := []

/-- The end of a month. -/
def monthEnd : Host := ⟨Calendar.Instant.ofDay 30, fun _ => ""⟩

/-- The creation of a bill that is due in May. -/
def createBill : Service.Request :=
  .create [("due_date", .string "2024-05-31"), ("id", .string "x"),
    ("issue_date", .string "2024-05-01")]

/-- The creation of a bill lists each field once. -/
theorem ordered_createBill : createBill.Ordered := by
  show Dict.Ordered _
  decide

/-- The bundles of the bills. -/
theorem bundles_bills :
    (Selection.ofEntity .builtin billGraph.modules bills).bundles =
      [(.invoice, [])] := rfl

/-- A bill is a draft at first, and then it is sent; a status that does not
exist is refused. -/
theorem billDocument_invoiced :
    billDocument.validate = .ok billGraph ∧ bills ∈ billGraph.servedEntities ∧
      (Bundle.invoice, []) ∈
        (Selection.ofEntity .builtin billGraph.modules bills).bundles ∧
      let sv := billGraph.serviceOf .builtin bills
      let draft := sv.after monthEnd Store.empty createBill
      let sent :=
        sv.after monthEnd draft (.update "x" [("status", .string "Sent")])
      let last :=
        sv.after monthEnd sent (.update "x" [("status", .string "Lost")])
      let statuses := ["Draft", "Sent", "Paid", "Overdue"]
      draft.Invoiced "bills" statuses ∧ last.Invoiced "bills" statuses ∧
        (draft.rows "bills").map
          (fun row => (row.get? "status").map Json.plainText) = [some "Draft"] ∧
        (last.rows "bills").map (fun row =>
            (row.get? "status").map Json.plainText) = [some "Sent"] := by
  have hserved : bills ∈ billGraph.servedEntities := List.mem_cons_self
  have hmem : (Bundle.invoice, []) ∈
      (Selection.ofEntity .builtin billGraph.modules bills).bundles :=
    bundles_bills ▸ List.mem_cons_self
  refine ⟨rfl, hserved, hmem, ?_⟩
  intro sv draft sent last statuses
  have halone : ∀ f ∈ invoiceFields,
      (Selection.ofEntity .builtin billGraph.modules bills).WritesAlone
          .invoice "bills" f := by
    intro f _ e he hne
    rw [bundles_bills] at he
    exact absurd (congrArg Prod.fst (List.mem_singleton.mp he)) hne
  have hposts : ∀ status : String, Text.isBlank status = false →
      (Service.Request.update "x" [("status", .string status)]).LeavesDates := by
    refine fun status hstatus => ⟨?_, rfl, rfl⟩
    rintro v hv
    cases hv
    exact hstatus
  have hdraft : sv.Run (fun q => q.Ordered ∧ q.LeavesDates) draft :=
    .serve monthEnd ⟨ordered_createBill, trivial⟩ .empty
  have hlast : sv.Run (fun q => q.Ordered ∧ q.LeavesDates) last :=
    .serve monthEnd ⟨List.pairwise_singleton _ _, hposts "Lost" (by decide)⟩
      (.serve monthEnd ⟨List.pairwise_singleton _ _,
        hposts "Sent" (by decide)⟩ hdraft)
  have hruns := ((billGraph.invoice_rows .builtin hserved hmem).2 halone).2.2
  exact ⟨hruns draft hdraft, hruns last hlast,
    by decide +kernel, by decide +kernel⟩

/-- **A bill can lose its status, and it can be due before it is issued**: an
update with null as the status is accepted, and so is one with an earlier due
date. -/
theorem billDocument_spoiled :
    billDocument.validate = .ok billGraph ∧ ∃ e ∈ billGraph.servedEntities, ∃ c,
      (Bundle.invoice, c) ∈
        (Selection.ofEntity .builtin billGraph.modules e).bundles ∧
        (∃ s, (billGraph.serviceOf .builtin e).Run Service.Request.Ordered s ∧
          ∃ row ∈ s.rows e.slug, ¬ HasStatus c.statuses (row.get? "status")) ∧
        ∃ s, (billGraph.serviceOf .builtin e).Run Service.Request.Ordered s ∧
          ∃ row ∈ s.rows e.slug, ¬ row.InOrder "issue_date" "due_date" := by
  refine ⟨rfl, bills, List.mem_cons_self, [],
    bundles_bills ▸ List.mem_cons_self, ?_, ?_⟩
  · have hupdate : (Service.Request.update "x" [("status", .null)]).Ordered :=
      List.pairwise_singleton _ _
    exact ⟨_, .serve monthEnd hupdate
      (.serve monthEnd ordered_createBill .empty), by decide +kernel⟩
  · have hupdate : (Service.Request.update "x"
        [("due_date", .string "2024-04-01")]).Ordered :=
      List.pairwise_singleton _ _
    exact ⟨_, .serve monthEnd hupdate
      (.serve monthEnd ordered_createBill .empty), by decide +kernel⟩

end ServiceLoom
