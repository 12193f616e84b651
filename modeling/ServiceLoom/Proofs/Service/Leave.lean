import ServiceLoom.Pattern.Builtin
import ServiceLoom.Proofs.Service.Drift
import ServiceLoom.Proofs.Service.RowLaws

/-!
# Leave

The bundle for leave keeps two dates of a row in order.  A creation is checked
as it comes in and its dates are written anew after that, which keeps a date or
loses it.  An update writes its dates anew first and is checked together with
the stored row, and what is checked is what is stored.

* `Service.OrdersDates.create_inOrder`, `Service.OrdersDates.update_inOrder` —
  what is stored;
* `SchemaGraph.leave_inOrder` — all rows of all runs, where no other bundle
  writes the two fields.
-/

namespace ServiceLoom

/-- The law that two dates are in order. -/
def RowLaw.ordered (start finish : String) : RowLaw where
  fields := [start, finish]
  fields_ne := List.cons_ne_nil _ _
  Holds row := row.InOrder start finish
  congr := fun hfields =>
    Record.inOrder_congr (hfields start List.mem_cons_self)
    (hfields finish (List.mem_cons_of_mem _ List.mem_cons_self))

namespace Service

variable {sv : Service} {start finish : String} {host : Host} {s : Store}

/-- A fragment leaves both of two fields. -/
def Leaves (start finish : String) (φ : Fragment) : Prop :=
  ∀ f ∈ [start, finish], f ∉ φ.targets

/-- A service that checks the order of two dates, on creation before they are
written anew and on update after it. -/
structure OrdersDates (sv : Service) (start finish : String) : Prop where
  stable : sv.StableFor (RowLaw.ordered start finish)
  onCreate : ∃ invalid message, sv.Places .beforeCreateValidation
    [.validDate start invalid, .validDate finish invalid,
      .dateOrder start finish message] (Leaves start finish)
  onInsert : sv.Places .beforeCreateTransformation [.normalizeDate start,
    .normalizeDate finish]
    (Leaves start finish)
  onUpdate : ∃ invalid invalid' message, sv.Places .beforeUpdateValidation
    [.validDate start invalid, .normalizeDate start, .validDate finish invalid',
      .normalizeDate finish, .dateOrder start finish message]
        (Leaves start finish)

theorem OrdersDates.placed (hsv : sv.OrdersDates start finish) : sv.Placed :=
  (hsv.stable start List.mem_cons_self).placed

/-- Records that have the same entries in both fields are both in order, or
neither is. -/
theorem inOrder_of_sameAt {r r' : Record}
    (h : ∀ f ∈ [start, finish], Dict.SameAt f r r') :
    r.InOrder start finish ↔ r'.InOrder start finish :=
  Record.inOrder_congr (h start List.mem_cons_self).get?_eq
    (h finish (List.mem_cons_of_mem _ List.mem_cons_self)).get?_eq

/-- **A creation** stores dates in order. -/
theorem OrdersDates.create_inOrder [Pattern.Engine]
    (hsv : sv.OrdersDates start finish) {body data : Record}
    (hrun : ((sv.prepareCreate body).run host Outage.none s).1 = .ok data) :
    data.InOrder start finish := by
  obtain ⟨valid, hvalid, htransform⟩ :=
    (hsv.placed.runHook_frame rfl _).exists_of_bind_ok hrun
  -- The check looks at the incoming record.
  obtain ⟨invalid, message, hchecks⟩ := hsv.onCreate
  obtain ⟨first, second, -, hown, hafter⟩ :=
    hchecks.exists_run_sameAt hsv.placed rfl hvalid
  obtain ⟨_, hstart, hown⟩ := exists_of_runFragments_cons rfl hown
  obtain ⟨-, rfl⟩ := Access.eq_of_run_check hstart
  obtain ⟨_, hfinish, hown⟩ := exists_of_runFragments_cons rfl hown
  obtain ⟨-, rfl⟩ := Access.eq_of_run_check hfinish
  obtain ⟨_, horder, hown⟩ := exists_of_runFragments_cons rfl hown
  obtain ⟨hcheck, rfl⟩ := Access.eq_of_run_check horder
  cases hown
  have hchecked : valid.InOrder start finish :=
    (inOrder_of_sameAt hafter).mp (Record.dateOrder_eq_ok_iff.mp hcheck)
  -- Then the dates are written anew.
  obtain ⟨third, fourth, hbefore, hown, hlast⟩ :=
    hsv.onInsert.exists_run_sameAt hsv.placed rfl htransform
  cases hown
  exact (inOrder_of_sameAt hlast).mp
    ((((inOrder_of_sameAt hbefore).mp hchecked).normalizeDate
      start).normalizeDate finish)

/-- **An update** stores dates in order together with the row. -/
theorem OrdersDates.update_inOrder [Pattern.Engine]
    (hsv : sv.OrdersDates start finish)
    {id : String} {existing body data : Record}
    (hrun : ((sv.prepareUpdate id existing body).run host Outage.none s).1 =
      .ok data) : Record.InOrder (Dict.merge existing data) start finish := by
  obtain ⟨invalid, invalid', message, hchecks⟩ := hsv.onUpdate
  obtain ⟨first, second, -, hown, hafter⟩ :=
    hchecks.exists_run_sameAt hsv.placed rfl hrun
  obtain ⟨_, hstart, hown⟩ := exists_of_runFragments_cons rfl hown
  obtain ⟨-, rfl⟩ := Access.eq_of_run_check hstart
  obtain ⟨_, -, hown⟩ := exists_of_runFragments_cons rfl hown
  obtain ⟨_, hfinish, hown⟩ := exists_of_runFragments_cons rfl hown
  obtain ⟨-, rfl⟩ := Access.eq_of_run_check hfinish
  obtain ⟨_, -, hown⟩ := exists_of_runFragments_cons rfl hown
  obtain ⟨_, horder, hown⟩ := exists_of_runFragments_cons rfl hown
  obtain ⟨hcheck, rfl⟩ := Access.eq_of_run_check horder
  cases hown
  -- What is checked is the stored row with the changes, and no later fragment
  -- touches the two fields.
  have hchecked := Record.dateOrder_eq_ok_iff.mp hcheck
  refine (Record.inOrder_congr ?_ ?_).mp hchecked
  · exact (hafter start List.mem_cons_self).get?_merge_eq existing
  · exact (hafter finish
      (List.mem_cons_of_mem _ List.mem_cons_self)).get?_merge_eq existing

/-- Whatever is stored has its dates in order. -/
theorem OrdersDates.stored_inOrder [Pattern.Engine]
    (hsv : sv.OrdersDates start finish) {q : Request} {checked stored : Record}
    {mode : WriteMode} (hstores : sv.Stores host s q checked stored mode) :
    stored.InOrder start finish := by
  cases hstores with
  | create hprepared _ => exact hsv.create_inOrder hprepared
  | update _ hprepared => exact hsv.update_inOrder hprepared

end Service

namespace SchemaGraph

variable (g : SchemaGraph) (l : BundleLibrary) {e : Entity} {c : BundleConfig}

/-- **The bundle for leave**, if it alone writes its two fields. -/
theorem serviceOf_ordersDates [Pattern.Engine] (he : e ∈ g.servedEntities)
    (hc : (.hrLeave, c) ∈ (Selection.ofEntity l g.modules e).bundles)
    {start finish : String}
    (hstart : c.text ["start_field", "startField"] "start_date" = start)
    (hfinish : c.text ["end_field", "endField"] "end_date" = finish)
    (huser : ∀ f ∈ [start, finish], f ∉ Record.systemFields)
    (halone : ∀ f ∈ [start, finish],
      (Selection.ofEntity l g.modules e).WritesAlone .hrLeave e.slug f) :
    (g.serviceOf l e).OrdersDates start finish := by
  have hplaces := EntityPlan.places_alone (p := EntityPlan.ofEntity l g e)
    (Selection.chosen_nodup l g.modules e) hc halone
  subst hstart hfinish
  refine ⟨fun f hf => ?_, ⟨_, _, hplaces .beforeCreateValidation⟩,
    hplaces .beforeCreateTransformation,
    ⟨_, _, _, hplaces .beforeUpdateValidation⟩⟩
  exact g.serviceOf_stable l he (huser f hf) fun _ _ hmem =>
    EntityPlan.recomputes_eq_false (p := EntityPlan.ofEntity l g e)
      (halone f hf) (by decide) hmem

/-- **The dates of a leave are in order**, in every row that requests lead to:
if both can be read, the end does not come before the start. -/
theorem leave_inOrder [Pattern.Engine] (he : e ∈ g.servedEntities)
    (hc : (.hrLeave, c) ∈ (Selection.ofEntity l g.modules e).bundles) :
    let start := c.text ["start_field", "startField"] "start_date"
    let finish := c.text ["end_field", "endField"] "end_date"
    (∀ f ∈ [start, finish], f ∉ Record.systemFields) →
      (∀ f ∈ [start, finish],
        (Selection.ofEntity l g.modules e).WritesAlone .hrLeave e.slug f) →
        ∀ s, (g.serviceOf l e).Reachable s →
            ∀ row ∈ s.rows e.slug, row.InOrder start finish := by
  intro start finish huser halone s hs
  have hsv : (g.serviceOf l e).OrdersDates start finish :=
    g.serviceOf_ordersDates l he hc rfl rfl huser halone
  have hkeeps : s.Keeps e.slug (RowLaw.ordered start finish) :=
    hsv.stable.run_keeps (fun _ _ _ _ _ _ _ _ _ hstores =>
      hsv.stored_inOrder hstores) hs.run
  exact hkeeps

end SchemaGraph

/-- Absences with the bundle for leave. -/
def absenceDocument : Document where
  projectName := "absences"
  modules := []
  entities := [
    { slug := "absences", mixins := [.named "leave"],
      fields := [{ name := "reason" }] }]

/-- The absences as they are served. -/
def absences : Entity :=
  { slug := "absences", module := some defaultModule,
    mixins := [.named "leave"], fields := [{ name := "reason" }] }

/-- The graph of the absences. -/
def absenceGraph : SchemaGraph where
  projectName := "absences"
  modules := ModuleConfig.ofSettings []
  entities := [absences]
  edges := []
  children := []
  warnings := []

/-- The start of the year 1970. -/
def newYear : Host := ⟨Calendar.Instant.ofDay 0, fun _ => ""⟩

/-- Three days off.  To end them before they start is refused; to move the start
to the last day is not. -/
theorem absenceDocument_inOrder :
    absenceDocument.validate = .ok absenceGraph ∧
    absences ∈ absenceGraph.servedEntities ∧
      (Bundle.hrLeave, []) ∈
        (Selection.ofEntity .builtin absenceGraph.modules absences).bundles ∧
      let sv := absenceGraph.serviceOf .builtin absences
      let ask := sv.after newYear Store.empty
          (.create [("end_date", .string "2024-05-03"), ("id", .string "x"),
        ("start_date", .string "2024-05-01")])
      let cut :=
        sv.after newYear ask (.update "x" [("end_date", .string "2024-04-30")])
      let move := sv.after newYear cut
          (.update "x" [("start_date", .string "2024-05-03T00:00:00Z")])
      (∀ row ∈ move.rows "absences", row.InOrder "start_date" "end_date") ∧
        (move.rows "absences").map
            (fun row => ["start_date", "end_date"].map fun f =>
              (row.get? f).map Json.plainText) =
              [[some "2024-05-03T00:00:00+00:00",
                  some "2024-05-03T00:00:00+00:00"]] := by
  have hserved : absences ∈ absenceGraph.servedEntities := List.mem_cons_self
  have hchosen : (Selection.ofEntity .builtin
      absenceGraph.modules absences).bundles = [(.hrLeave, [])] := rfl
  have hmem : (Bundle.hrLeave, []) ∈
      (Selection.ofEntity .builtin absenceGraph.modules absences).bundles :=
    hchosen ▸ List.mem_cons_self
  have halone : ∀ f ∈ ["start_date", "end_date"],
      (Selection.ofEntity .builtin absenceGraph.modules absences).WritesAlone
          .hrLeave "absences" f := by
    intro f _ e he hne
    rw [hchosen] at he
    exact absurd (congrArg Prod.fst (List.mem_singleton.mp he)) hne
  refine ⟨rfl, hserved, hmem, ?_⟩
  intro sv ask cut move
  have hrun : sv.Reachable move :=
    .serve newYear _ (.serve newYear _ (.serve newYear _ .empty))
  exact ⟨absenceGraph.leave_inOrder .builtin hserved
    hmem (by decide) halone move hrun, by decide +kernel⟩

end ServiceLoom
