import ServiceLoom.Pattern.Builtin
import ServiceLoom.Proofs.Record.Values
import ServiceLoom.Proofs.Service.Drift
import ServiceLoom.Proofs.Service.RowLaws

/-!
# Departments

The bundle for departments asks for a name on creation, and on update it refuses
a name that is blank.  But null counts as a name that is not given: an update
with null as the name passes the check, and null is stored.  So rows have a name
that is not blank exactly as long as no request stores null there, and if no
bundle counts names, that is what an accepted update does whose name is null,
and no other request.

* `Service.NamesRows.create_name`, `Service.NamesRows.update_name` — what is
  made of a name before it is stored;
* `Service.NamesRows.holds_iff`, `Service.NamesRows.storesNull_iff` — what is
  stored;
* `SchemaGraph.department_names` — all runs.
-/

namespace ServiceLoom

/-! ## Values -/

/-- A value that is missing when it is blank. -/
def FilledOrAbsent (v : Option Json) : Prop :=
  isBlank v = true → isAbsent v = true

/-- A written instant is no blank text. -/
theorem Calendar.Instant.isBlank_text (t : Calendar.Instant) :
    Text.isBlank t.text = false := by
  have hmem : 'T' ∈ t.text.toList := by
    rw [text, String.toList_ofList]
    simp
  exact List.all_eq_false.mpr ⟨'T', hmem, by decide⟩

namespace Drifts

variable {counted : Bool} {h : Hook} {v w : Option Json}

/-- No blank text comes of a drift. -/
theorem filledOrAbsent (hd : Drifts counted h v w) (hv : FilledOrAbsent v) :
    FilledOrAbsent w := by
  induction hd with
  | refl => exact hv
  | zero _ _ _ _ _ => exact nofun
  | @number w x _ _ _ _ =>
      rcases Json.ofFloat_cases x with ⟨_, hnumber⟩ | ⟨-, hnull⟩
      · rw [hnumber]
        exact nofun
      · rw [hnull]
        exact fun _ => rfl
  | @date w t _ _ _ =>
      intro hblank
      have htext : Text.isBlank t.text = true := hblank
      rw [t.isBlank_text] at htext
      cases htext

/-- Without counting, null comes of null only. -/
theorem eq_null_iff (hd : Drifts false h v w) :
    w = some .null ↔ v = some .null := by
  induction hd with
  | refl => exact Iff.rfl
  | zero hcounted _ _ _ _ => cases hcounted
  | number hcounted _ _ _ => cases hcounted
  | @date w t hw _ ih =>
      have hne : w ≠ .null := by
        rintro rfl
        cases hw
      constructor
      · exact nofun
      · intro hv
        exact absurd (Option.some.inj (ih.mpr hv)) hne

end Drifts

namespace Record

variable {r : Record} {field message : String}

/-- The check on update passes what is missing and what is filled. -/
theorem rejectBlank_eq_ok_iff : r.rejectBlank field message = .ok () ↔
    FilledOrAbsent (r.get? field) := by
  unfold rejectBlank FilledOrAbsent
  cases isBlank (r.get? field) <;> cases isAbsent (r.get? field) <;> simp

theorem isBlank_of_require (h : r.require field message = .ok ()) :
    isBlank (r.get? field) = false := by
  unfold require at h
  cases hblank : isBlank (r.get? field) with
  | false => rfl
  | true => simp [hblank] at h

/-- What is missing is not normalised, and the rest becomes a text. -/
theorem get?_normalizeText (r : Record) (field : String) (c : TextCase) :
    isAbsent (r.get? field) = true ∧
    (r.normalizeText field c).get? field = r.get? field ∨
      ∃ v, r.get? field = some v ∧ isAbsent (some v) = false ∧
        (r.normalizeText field c).get? field =
          some (.string (c.apply v.plainText)) := by
  unfold normalizeText
  cases hpresent : r.present? field with
  | none =>
      exact Or.inl ⟨present?_eq_none_iff.mp hpresent, rfl⟩
  | some v =>
      obtain ⟨hget, hnull⟩ := Option.filter_eq_some_iff.mp hpresent
      exact Or.inr ⟨v, hget,
        by simpa [isAbsent] using hnull, Dict.get?_insert_self ..⟩

/-- Trimming makes no blank text of a value that is not blank. -/
theorem filledOrAbsent_trimmed (h : FilledOrAbsent (r.get? field)) :
    FilledOrAbsent ((r.normalizeText field .trim).get? field) := by
  rcases r.get?_normalizeText field .trim with
      ⟨-, hsame⟩ | ⟨v, hget, hpresent, htext⟩
  · rwa [hsame]
  · have hfilled : isBlank (some v) = false := by
      cases hblank : isBlank (some v) with
      | false => rfl
      | true =>
          rw [hget] at h
          exact (h hblank).symm.trans hpresent
    rw [htext]
    intro hblank
    have htrim : Text.isBlank (Text.trim v.plainText) = false :=
      Text.isBlank_trim ((Json.isBlank_plainText v).trans hfilled)
    exact absurd (show Text.isBlank (Text.trim v.plainText) = true from hblank)
      (by simp [htrim])

/-- Normalising makes no null, and leaves none out. -/
theorem get?_normalizeText_eq_null_iff (r : Record) (field : String)
    (c : TextCase) :
    (r.normalizeText field c).get? field = some .null ↔
      r.get? field = some .null := by
  rcases r.get?_normalizeText field c with
      ⟨-, hsame⟩ | ⟨v, hget, hpresent, htext⟩
  · rw [hsame]
  · rw [htext, hget]
    constructor
    · exact nofun
    · rintro heq
      obtain rfl : v = .null := Option.some.inj heq
      cases hpresent

theorem isSome_normalizeText (h : (r.get? field).isSome = true) (c : TextCase) :
    ((r.normalizeText field c).get? field).isSome = true := by
  rcases r.get?_normalizeText field c with ⟨-, hsame⟩ | ⟨v, -, -, htext⟩
  · rwa [hsame]
  · rw [htext]
    rfl

end Record

/-! ## Services -/

/-- The law that names are not blank. -/
def RowLaw.named : RowLaw where
  fields := ["name"]
  fields_ne := List.cons_ne_nil _ _
  Holds row := isBlank (row.get? "name") = false
  congr := fun hfields => by rw [hfields "name" List.mem_cons_self]

/-- Every row of a collection has a name that is not blank. -/
def Store.Named (s : Store) (slug : String) : Prop :=
  ∀ row ∈ s.rows slug, isBlank (row.get? "name") = false

instance (s : Store) (slug : String) : Decidable (s.Named slug) :=
  inferInstanceAs
    (Decidable (∀ row ∈ s.rows slug, isBlank (row.get? "name") = false))

/-- What is made of a name that is given: it is there and no blank text, and
null at most where numbers are counted. -/
structure GivenName (counted : Bool) (v : Option Json) : Prop where
  isSome : v.isSome = true
  filled : FilledOrAbsent v
  ne_null : counted = false → v ≠ some .null

namespace GivenName

variable {counted : Bool} {h : Hook} {v w : Option Json}

theorem of_isBlank (hv : isBlank v = false) : GivenName counted v where
  isSome := by
    cases v with
    | none => cases hv
    | some v => rfl
  filled := fun hblank => absurd (hv.symm.trans hblank) nofun
  ne_null := by
    rintro - rfl
    cases hv

theorem drifts (hv : GivenName counted v) (hd : Drifts counted h v w) :
    GivenName counted w where
  isSome := hd.isSome hv.isSome
  filled := hd.filledOrAbsent hv.filled
  ne_null := by
    rintro rfl hnull
    exact hv.ne_null rfl (hd.eq_null_iff.mp hnull)

theorem trimmed {r : Record} (hr : GivenName counted (r.get? "name")) :
    GivenName counted ((r.normalizeText "name" .trim).get? "name") where
  isSome := Record.isSome_normalizeText hr.isSome .trim
  filled := Record.filledOrAbsent_trimmed hr.filled
  ne_null := fun hcounted hnull =>
    hr.ne_null hcounted ((r.get?_normalizeText_eq_null_iff "name" .trim).mp hnull)

/-- A given name that is not null is not blank. -/
theorem isBlank_eq_false (hv : GivenName counted v) (hnull : v ≠ some .null) :
    isBlank v = false := by
  cases hblank : isBlank v with
  | false => rfl
  | true =>
      exact absurd (eq_null_of_isAbsent hv.isSome (hv.filled hblank)) hnull

end GivenName

namespace Service

variable {sv : Service} {counted : Bool} {host : Host} {s : Store}

/-- A service that asks for a name on creation, and on update refuses one that
is blank but not null. -/
structure NamesRows (sv : Service) (counted : Bool) : Prop where
  stable : sv.StableFor .named
  onCreate : ∃ message,
    sv.Places .beforeCreateValidation [.require "name" message]
    (Fragment.DriftsAt counted .beforeCreateValidation "name")
  onInsert : sv.Places .beforeCreateTransformation [.normalize "name" .trim,
    .normalize "location" .trim]
    (Fragment.DriftsAt counted .beforeCreateTransformation "name")
  onUpdate : ∃ message, sv.Places .beforeUpdateValidation
    [.normalize "name" .trim, .normalize "location" .trim,
      .rejectBlank "name" message]
    (Fragment.DriftsAt counted .beforeUpdateValidation "name")

theorem NamesRows.placed (hsv : sv.NamesRows counted) : sv.Placed :=
  (hsv.stable "name" List.mem_cons_self).placed

/-- Trimming the location leaves the name. -/
theorem get?_trimmed (r : Record) :
    ((r.normalizeText "name" .trim).normalizeText "location" .trim).get? "name" =
    (r.normalizeText "name" .trim).get? "name" :=
  ((Record.rewritten_normalizeText _ "location" .trim).sameAt
    (by decide)).get?_eq.symm

/-- **A creation** stores a name that was given. -/
theorem NamesRows.create_name
    [Pattern.Engine] (hsv : sv.NamesRows counted) {body data : Record}
    (hrun : ((sv.prepareCreate body).run host Outage.none s).1 = .ok data) :
    GivenName counted (data.get? "name") := by
  obtain ⟨valid, hvalid, htransform⟩ :=
    (hsv.placed.runHook_frame rfl _).exists_of_bind_ok hrun
  obtain ⟨message, hchecks⟩ := hsv.onCreate
  obtain ⟨first, second, -, hown, hafter⟩ :=
    hchecks.exists_run_drifts hsv.placed rfl hvalid
  obtain ⟨_, hrequire, hown⟩ := exists_of_runFragments_cons rfl hown
  obtain ⟨hcheck, rfl⟩ := Access.eq_of_run_check hrequire
  cases hown
  obtain ⟨third, fourth, hbefore, hown, hlast⟩ :=
    hsv.onInsert.exists_run_drifts hsv.placed rfl htransform
  cases hown
  have hvalid : GivenName counted (valid.get? "name") :=
    (GivenName.of_isBlank (Record.isBlank_of_require hcheck)).drifts hafter
  have htrimmed :
      GivenName counted ((third.normalizeText "name" .trim).get? "name") :=
    (hvalid.drifts hbefore).trimmed
  rw [← get?_trimmed] at htrimmed
  exact htrimmed.drifts hlast

/-- **An update** changes no name to a blank text.  Without counting it makes no
null either. -/
theorem NamesRows.update_name [Pattern.Engine]
    (hsv : sv.NamesRows counted) {id : String} {existing body data : Record}
    (hrun : ((sv.prepareUpdate id existing body).run host Outage.none s).1 =
      .ok data) :
    FilledOrAbsent (data.get? "name") ∧
      (counted = false →
        (data.get? "name" = some .null ↔ body.get? "name" = some .null)) := by
  obtain ⟨message, hchecks⟩ := hsv.onUpdate
  obtain ⟨first, second, hbefore, hown, hafter⟩ :=
    hchecks.exists_run_drifts hsv.placed rfl hrun
  obtain ⟨_, hname, hown⟩ := exists_of_runFragments_cons rfl hown
  cases hname
  obtain ⟨_, hlocation, hown⟩ := exists_of_runFragments_cons rfl hown
  cases hlocation
  obtain ⟨_, hreject, hown⟩ := exists_of_runFragments_cons rfl hown
  obtain ⟨hcheck, rfl⟩ := Access.eq_of_run_check hreject
  cases hown
  refine ⟨hafter.filledOrAbsent (Record.rejectBlank_eq_ok_iff.mp hcheck), ?_⟩
  rintro rfl
  rw [hafter.eq_null_iff]
  dsimp only
  rw [get?_trimmed, Record.get?_normalizeText_eq_null_iff, hbefore.eq_null_iff]

/-- **What is stored has a name that is not blank, unless it is null.** -/
theorem NamesRows.holds_iff
    [Pattern.Engine] (hsv : sv.NamesRows counted) {q : Request} (hq : q.Ordered)
    (hnamed : s.Named sv.slug) {checked stored : Record} {mode : WriteMode}
    (hstores : sv.Stores host s q checked stored mode) :
    isBlank (stored.get? "name") = false ↔ stored.get? "name" ≠ some .null := by
  constructor
  · rintro hfilled hnull
    rw [hnull] at hfilled
    cases hfilled
  intro hnull
  cases hstores with
  | create hprepared _ =>
      exact (hsv.create_name hprepared).isBlank_eq_false hnull
  | @update id body existing data hfound hprepared =>
      have hordered : Dict.Ordered data :=
        hsv.placed.ordered_prepareUpdate hq hprepared
      rw [Dict.get?_merge hordered] at hnull ⊢
      cases hget : data.get? "name" with
      | none => exact hnamed existing (s.find?_some hfound).1
      | some v =>
          rw [hget] at hnull
          have hfilled := (hsv.update_name hprepared).1
          rw [hget] at hfilled
          cases hblank : isBlank (some v) with
          | false => exact hblank
          | true =>
              exact absurd (eq_null_of_isAbsent rfl (hfilled hblank)) hnull

/-- **A request keeps names from being blank exactly when it does not store null
as a name.** -/
theorem NamesRows.named_after_iff [Pattern.Engine] (hsv : sv.NamesRows counted)
    (host : Host) (h : Identified (s.rows sv.slug)) (hnamed : s.Named sv.slug)
    {q : Request} (hq : q.Ordered) :
    (sv.after host s q).Named sv.slug ↔ ¬ sv.StoresNull host s q "name" := by
  have hkeeps : (sv.after host s q).Named sv.slug ↔ ∀ checked stored mode,
      sv.Stores host s q checked stored mode →
          isBlank (stored.get? "name") = false :=
    hsv.stable.keeps_after_iff host h hnamed q
  rw [hkeeps]
  constructor
  · rintro hall ⟨checked, stored, mode, hstores, hnull⟩
    exact (hsv.holds_iff hq hnamed hstores).mp
      (hall checked stored mode hstores) hnull
  · intro hnone checked stored mode hstores
    exact (hsv.holds_iff hq hnamed hstores).mpr fun hnull =>
      hnone ⟨checked, stored, mode, hstores, hnull⟩

/-- **Without counting, null is stored by the updates that post it**, and that
are accepted. -/
theorem NamesRows.storesNull_iff [Pattern.Engine] (hsv : sv.NamesRows false)
    (hnamed : s.Named sv.slug) {q : Request} (hq : q.Ordered) :
    sv.StoresNull host s q "name" ↔
      sv.Accepts host s q ∧ ∃ id body, q = .update id body ∧
        body.get? "name" = some .null := by
  have hstored : ∀ {existing data : Record}, Dict.Ordered data →
      isBlank (existing.get? "name") = false →
      ((Dict.merge existing data).get? "name" = some .null ↔
          data.get? "name" = some .null) := by
    intro existing data hordered hfilled
    rw [Dict.get?_merge hordered]
    cases data.get? "name" with
    | some v => exact Iff.rfl
    | none =>
        refine iff_of_false ?_ nofun
        intro hnull
        rw [show existing.get? "name" = some .null from hnull] at hfilled
        cases hfilled
  constructor
  · rintro ⟨checked, stored, mode, hstores, hnull⟩
    refine ⟨⟨checked, stored, mode, hstores⟩, ?_⟩
    cases hstores with
    | create hprepared _ =>
        exact absurd hnull ((hsv.create_name hprepared).ne_null rfl)
    | @update id body existing data hfound hprepared =>
        have hordered : Dict.Ordered data :=
          hsv.placed.ordered_prepareUpdate hq hprepared
        have hdata :=
          (hstored hordered (hnamed existing (s.find?_some hfound).1)).mp hnull
        exact ⟨id, body, rfl, ((hsv.update_name hprepared).2 rfl).mp hdata⟩
  · rintro ⟨⟨checked, stored, mode, hstores⟩, id, body, rfl, hnull⟩
    refine ⟨checked, stored, mode, hstores, ?_⟩
    cases hstores with
    | @update _ _ existing data hfound hprepared =>
        have hordered : Dict.Ordered data :=
          hsv.placed.ordered_prepareUpdate hq hprepared
        refine (hstored hordered (hnamed existing (s.find?_some hfound).1)).mpr ?_
        exact ((hsv.update_name hprepared).2 rfl).mpr hnull

end Service

namespace SchemaGraph

variable (g : SchemaGraph) (l : BundleLibrary) {e : Entity} {c : BundleConfig}

/-- **The bundle for departments**, among bundles of which some may count
names. -/
theorem serviceOf_namesRows [Pattern.Engine] (he : e ∈ g.servedEntities)
    (hc : (.hrDepartment, c) ∈ (Selection.ofEntity l g.modules e).bundles)
    {counted : Bool}
    (hcounts : ∀ b ∈ (Selection.ofEntity l g.modules e).bundles,
      b.1.counts b.2 "name" = true → counted = true) :
    (g.serviceOf l e).NamesRows counted := by
  have hown : "name" ∈ Bundle.hrDepartment.ownFields := by decide
  have hplaces := EntityPlan.places_drifting
    (p := EntityPlan.ofEntity l g e) (Selection.chosen_nodup l g.modules e)
    hc hown hcounts e.slug
  refine ⟨?_, ⟨_, hplaces .beforeCreateValidation⟩,
    hplaces .beforeCreateTransformation,
    ⟨_, hplaces .beforeUpdateValidation⟩⟩
  intro f hf
  obtain rfl : f = "name" := List.mem_singleton.mp hf
  exact g.serviceOf_stable l he (by decide) fun _ φ _ =>
    φ.recomputes_of_notMem (by decide)

/-- **When a department has a blank name.** Names that are not blank stay so
under a request exactly when it does not store null as a name, and all runs lead
to such names only if no request of any of them does.  If no bundle counts
names, the requests that do are the accepted updates with null as the name; so
runs without these lead to none. -/
theorem department_names [Pattern.Engine] (he : e ∈ g.servedEntities)
    (hc : (.hrDepartment, c) ∈ (Selection.ofEntity l g.modules e).bundles) :
    let sv := g.serviceOf l e
    let Run := sv.Run Service.Request.Ordered
    (∀ s host q, Run s → q.Ordered → s.Named e.slug →
        ((sv.after host s q).Named e.slug ↔ ¬ sv.StoresNull host s q "name")) ∧
      ((∀ s, Run s → s.Named e.slug) ↔ ∀ s host q, Run s →
        q.Ordered → ¬ sv.StoresNull host s q "name") ∧
      ((∀ b ∈ (Selection.ofEntity l g.modules e).bundles,
        b.1.counts b.2 "name" = false) →
        (∀ s host q, s.Named e.slug → q.Ordered →
          (sv.StoresNull host s q "name" ↔
            sv.Accepts host s q ∧ ∃ id body, q = .update id body ∧
              body.get? "name" = some .null)) ∧
        ∀ s, sv.Run (fun q => q.Ordered ∧ ∀ id body, q = .update id body →
          body.get? "name" ≠ some .null) s →
          s.Named e.slug) := by
  intro sv Run
  have hsv : sv.NamesRows true := g.serviceOf_namesRows l he hc fun _ _ _ => rfl
  have hstep : ∀ s host q, Run s → q.Ordered → s.Named e.slug →
      ((sv.after host s q).Named e.slug ↔ ¬ sv.StoresNull host s q "name") :=
    fun s host q hs hq hnamed =>
      hsv.named_after_iff host (hsv.stable.identified hs) hnamed hq
  refine ⟨hstep, Service.Run.forall_iff nofun hstep, fun hcounts => ?_⟩
  have hplain : sv.NamesRows false :=
    g.serviceOf_namesRows l he hc fun b hb hcounted =>
      absurd ((hcounts b hb).symm.trans hcounted) nofun
  refine ⟨fun s host q hnamed hq => hplain.storesNull_iff hnamed hq,
    fun s hs => ?_⟩
  refine hplain.stable.run_keeps
    (fun s host q _ hnamed hq checked stored mode hstores => ?_) hs
  refine (hplain.holds_iff hq.1 hnamed hstores).mpr fun hnull => ?_
  obtain ⟨-, id, body, heq, hbody⟩ := (hplain.storesNull_iff hnamed hq.1).mp
      ⟨checked, stored, mode, hstores, hnull⟩
  exact hq.2 id body heq hbody

end SchemaGraph

/-- Teams with the bundle for departments. -/
def teamDocument : Document where
  projectName := "teams"
  modules := []
  entities := [
    { slug := "teams", mixins := [.named "department"],
      fields := [{ name := "name" }] }]

/-- The teams as they are served. -/
def teams : Entity :=
  { slug := "teams", module := some defaultModule,
    mixins := [.named "department"], fields := [{ name := "name" }] }

/-- The graph of the teams. -/
def teamGraph : SchemaGraph where
  projectName := "teams"
  modules := ModuleConfig.ofSettings []
  entities := [teams]
  edges := []
  children := []
  warnings := []

/-- The start of a working day. -/
def morning : Host := ⟨Calendar.Instant.ofDay 0, fun _ => ""⟩

/-- The creation of a team. -/
def createTeam (id name : String) : Service.Request :=
  .create [("id", .string id), ("name", .string name)]

/-- A team is renamed; a name of blanks is refused. -/
theorem teamDocument_named :
    teamDocument.validate = .ok teamGraph ∧ teams ∈ teamGraph.servedEntities ∧
      (Bundle.hrDepartment, []) ∈
        (Selection.ofEntity .builtin teamGraph.modules teams).bundles ∧
      let sv := teamGraph.serviceOf .builtin teams
      let s := sv.after morning Store.empty (createTeam "x" " Operations ")
      let renamed :=
        sv.after morning s (.update "x" [("name", .string "Sales ")])
      let last :=
        sv.after morning renamed (.update "x" [("name", .string "  ")])
      last.Named "teams" ∧ (last.rows "teams").map
        (fun row => (row.get? "name").map Json.plainText) =
        [some "Sales"] := by
  have hserved : teams ∈ teamGraph.servedEntities := List.mem_cons_self
  have hchosen : (Selection.ofEntity .builtin teamGraph.modules teams).bundles =
      [(.hrDepartment, [])] := rfl
  have hmem : (Bundle.hrDepartment, []) ∈
      (Selection.ofEntity .builtin teamGraph.modules teams).bundles :=
    hchosen ▸ List.mem_cons_self
  refine ⟨rfl, hserved, hmem, ?_⟩
  intro sv s renamed last
  have hcounts :
      ∀ b ∈ (Selection.ofEntity .builtin teamGraph.modules teams).bundles,
      b.1.counts b.2 "name" = false := by
    rw [hchosen]
    intro b hb
    rw [List.mem_singleton.mp hb]
    rfl
  have hrun : sv.Run (fun q => q.Ordered ∧ ∀ id body, q = .update id body →
      body.get? "name" ≠ some .null) last := by
    refine .serve morning ⟨?_, ?_⟩
      (.serve morning ⟨?_, ?_⟩ (.serve morning ⟨?_, ?_⟩ .empty))
    · exact List.pairwise_singleton _ _
    · rintro id body heq
      cases heq
      exact nofun
    · exact List.pairwise_singleton _ _
    · rintro id body heq
      cases heq
      exact nofun
    · show Dict.Ordered _
      decide
    · rintro id body heq
      cases heq
  exact ⟨((teamGraph.department_names .builtin hserved hmem).2.2 hcounts).2
    last hrun, by decide +kernel⟩

/-- **A department can lose its name**: an update with null as the name is
accepted. -/
theorem teamDocument_nameless :
    teamDocument.validate = .ok teamGraph ∧ ∃ e ∈ teamGraph.servedEntities, ∃ c,
      (Bundle.hrDepartment, c) ∈
        (Selection.ofEntity .builtin teamGraph.modules e).bundles ∧
        ∃ s, (teamGraph.serviceOf .builtin e).Run Service.Request.Ordered s ∧
          ¬ s.Named e.slug := by
  have hchosen : (Selection.ofEntity .builtin teamGraph.modules teams).bundles =
      [(.hrDepartment, [])] := rfl
  have hcreate : (createTeam "x" "Operations").Ordered := by
    show Dict.Ordered _
    decide
  have hupdate : (Service.Request.update "x" [("name", .null)]).Ordered :=
    List.pairwise_singleton _ _
  refine ⟨rfl, teams, List.mem_cons_self, [], hchosen ▸ List.mem_cons_self, ?_⟩
  exact ⟨_, .serve morning hupdate (.serve morning hcreate .empty),
    by decide +kernel⟩

end ServiceLoom
