import ServiceLoom.Pattern.Builtin
import ServiceLoom.Proofs.Calendar.Digits
import ServiceLoom.Proofs.Service.Drift
import ServiceLoom.Proofs.Service.RowLaws
import ServiceLoom.Proofs.Service.Stock

/-!
# Items with serial numbers

The bundle for serial numbers makes every row one item: on creation the quantity
is set to one, and on update any other quantity is refused.  But null counts as
a quantity that is not given, and stock keeping stores null for a text that
denotes no finite number; and adjustments of stock do not look at serial numbers
at all.  So rows are single items exactly as long as no update posts such a
quantity, and no adjustment leads from one to another number.

* `Service.CountsOne.create_quantity`, `Service.CountsOne.update_quantity` —
  what is stored;
* `Store.single_adjust_iff` — what an adjustment does;
* `SchemaGraph.serial_items` — all runs of requests and adjustments.
-/

namespace ServiceLoom

/-! ## Quantities of one -/

/-- The quantity of a single item, by its text. -/
def IsOne (v : Option Json) : Prop := v.map Json.plainText = some "1"

instance (v : Option Json) : Decidable (IsOne v) :=
  inferInstanceAs (Decidable (v.map Json.plainText = some "1"))

/-- Only one is written as one. -/
theorem eq_one_of_toString {n : Int} (h : toString n = "1") : n = 1 := by
  cases n with
  | ofNat m =>
      have hdigits : Nat.toDigits 10 m = ['1'] := by
        rw [← String.toList_ofList (l := Nat.toDigits 10 m)]
        exact congrArg String.toList h
      have hvalue : Nat.ofDigitChars 10 (Nat.toDigits 10 m) 0 = m :=
        Nat.ofDigitChars_ten_toDigits
      rw [hdigits] at hvalue
      rw [← hvalue]
      rfl
  | negSucc m =>
      have hchars : ("-" ++ Nat.repr (m + 1)).toList = ['1'] :=
        congrArg String.toList h
      rw [String.toList_append] at hchars
      cases hchars

/-- The number of a quantity of one is stored as one. -/
theorem isOne_ofFloat {v : Json} {x : Float} (hv : IsOne (some v))
    (hx : v.numeric? = some x) : IsOne (some (.ofFloat x)) := by
  have htext : v.plainText = "1" := Option.some.inj hv
  cases v with
  | null => cases hx
  | bool b => cases hx
  | array items => cases hx
  | object members => cases hx
  | string s =>
      obtain rfl : s = "1" := htext
      have hone : (Json.string "1").numeric? = some 1 := by decide
      obtain rfl : x = 1 := Option.some.inj (hx.symm.trans hone)
      decide
  | number n =>
      cases n with
      | integer n h =>
          obtain rfl : n = 1 := eq_one_of_toString htext
          obtain rfl : Float.ofInt 1 = x := Option.some.inj hx
          decide
      | float y h =>
          obtain rfl : y = x := Option.some.inj hx
          rcases Json.ofFloat_cases y with ⟨_, hnumber⟩ | ⟨hinfinite, -⟩
          · rwa [hnumber]
          · rw [h] at hinfinite
            cases hinfinite

/-- A quantity that can be posted and is stored as null: null itself, or what
denotes a number that is not finite. -/
def IsVoid (v : Option Json) : Prop :=
  v = some .null ∨ ∃ x, v.bind Json.numeric? = some x ∧ x.isFinite = false

namespace Drifts

variable {counted : Bool} {h : Hook} {v w : Option Json}

/-- A number is kept or lost, but for a first one. -/
theorem numeric? (hd : Drifts counted h v w)
    (hh : h ≠ .beforeCreateTransformation) :
    w.bind Json.numeric? = v.bind Json.numeric? ∨
    w.bind Json.numeric? = none := by
  induction hd with
  | refl => exact Or.inl rfl
  | zero _ hhook _ _ _ => exact absurd hhook hh
  | @number w x _ hx _ ih =>
      rw [Option.bind_some, hx] at ih
      rcases Json.ofFloat_cases x with ⟨_, hnumber⟩ | ⟨-, hnull⟩
      · rw [hnumber]
        exact Or.inl (ih.resolve_right nofun)
      · rw [hnull]
        exact Or.inr rfl
  | @date w t _ _ _ =>
      rw [Option.bind_some]
      exact Or.inr t.numeric?_text

/-- Null stays null. -/
theorem eq_null (hd : Drifts counted h v w)
    (hh : h ≠ .beforeCreateTransformation) (hv : v = some .null) :
    w = some .null := by
  induction hd with
  | refl => exact hv
  | zero _ hhook _ _ _ => exact absurd hhook hh
  | number _ hx _ ih =>
      cases ih
      cases hx
  | date ht _ ih =>
      cases ih
      cases ht

/-- What becomes null was void. -/
theorem isVoid (hd : Drifts counted h v w)
    (hh : h ≠ .beforeCreateTransformation) (hw : w = some .null) :
    IsVoid v := by
  cases hd with
  | refl => exact Or.inl hw
  | zero _ hhook _ _ => exact absurd hhook hh
  | @number w x _ hx hd =>
      rcases Json.ofFloat_cases x with ⟨_, hnumber⟩ | ⟨hinfinite, -⟩
      · rw [hnumber] at hw
        cases hw
      · have hnumeric := hd.numeric? hh
        rw [Option.bind_some, hx] at hnumeric
        exact Or.inr ⟨x, (hnumeric.resolve_right nofun).symm, hinfinite⟩
  | date _ _ => cases hw

/-- One stays one, and nothing becomes one that was missing. -/
theorem isOne_or_absent (hd : Drifts counted h v w)
    (hh : h ≠ .beforeCreateTransformation) (hv : isAbsent v = true ∨ IsOne v) :
    isAbsent w = true ∨ IsOne w := by
  induction hd with
  | refl => exact hv
  | zero _ hhook _ _ _ => exact absurd hhook hh
  | @number w x _ hx _ ih =>
      rcases ih with habsent | hone
      · obtain rfl := Option.some.inj (eq_null_of_isAbsent rfl habsent)
        cases hx
      · exact Or.inr (isOne_ofFloat hone hx)
  | @date w t ht _ ih =>
      rcases ih with habsent | hone
      · obtain rfl := Option.some.inj (eq_null_of_isAbsent rfl habsent)
        cases ht
      · cases w with
        | string text =>
            obtain rfl : text = "1" := Option.some.inj hone
            have hnone : (Json.string "1").instant? = none := by decide
            rw [hnone] at ht
            cases ht
        | _ => cases ht

/-- The number one stays the number one. -/
theorem eq_one (hd : Drifts counted h v w)
    (hv : v = some (.ofNat 1) ∨ v = some (.ofFloat 1)) :
    w = some (.ofNat 1) ∨ w = some (.ofFloat 1) := by
  have hnumeric : ∀ {w : Json}, some w = some (.ofNat 1) ∨
      some w = some (.ofFloat 1) →
      w.numeric? = some 1 ∧ w.instant? = none := by
    rintro w (heq | heq)
    · cases heq
      decide
    · cases heq
      decide
  induction hd with
  | refl => exact hv
  | @zero w _ _ habsent _ ih =>
      rcases ih with rfl | rfl <;> cases habsent
  | number _ hx _ ih =>
      obtain rfl := Option.some.inj ((hnumeric ih).1.symm.trans hx)
      exact Or.inr rfl
  | date ht _ ih =>
      rw [(hnumeric ih).2] at ht
      cases ht

end Drifts

namespace Record

variable {r r' : Record} {field message : String}

/-- The check of a quantity passes one, and what is missing. -/
theorem isOne_of_fixedValue
    (h : r.fixedValue field (.ofNat 1) message = .ok ()) :
    isAbsent (r.get? field) = true ∨ IsOne (r.get? field) := by
  have hone : (Json.ofNat 1).plainText = "1" := by decide
  unfold fixedValue present? at h
  cases hget : r.get? field with
  | none => exact Or.inl rfl
  | some v =>
      rw [hget] at h
      cases hnull : v.isNull with
      | true => exact Or.inl hnull
      | false =>
          rw [Option.filter_some, hnull, hone] at h
          refine Or.inr (congrArg some ?_)
          by_contra hne
          simp [hne] at h

/-- Reading a void quantity as a number makes it null. -/
theorem eq_null_of_coerceNumber (h : r.coerceNumber field message = .ok r')
    (hv : r.get? field = some .null ∨ (r.get? field).isSome = true ∧
      ∀ x, (r.get? field).bind Json.numeric? = some x → x.isFinite = false) :
    r'.get? field = some .null := by
  unfold coerceNumber at h
  split at h
  next hnone =>
    cases h
    rcases hv with hnull | ⟨hsome, -⟩
    · exact hnull
    · exact eq_null_of_isAbsent hsome (present?_eq_none_iff.mp hnone)
  next v hpresent =>
    obtain ⟨hget, hnull⟩ := Option.filter_eq_some_iff.mp hpresent
    split at h
    · cases h
    next x hx =>
      cases h
      rw [Dict.get?_insert_self]
      rcases hv with hvoid | ⟨-, hinfinite⟩
      · obtain rfl := Option.some.inj (hget.symm.trans hvoid)
        cases hnull
      · have hbound : x.isFinite = false :=
          hinfinite x (by rw [hget, Option.bind_some, hx])
        rcases Json.ofFloat_cases x with ⟨hfinite, -⟩ | ⟨-, hnull⟩
        · rw [hbound] at hfinite
          cases hfinite
        · rw [hnull]

end Record

/-! ## Services -/

/-- The law that rows are single items. -/
def RowLaw.single : RowLaw where
  fields := ["quantity"]
  fields_ne := List.cons_ne_nil _ _
  Holds row := IsOne (row.get? "quantity")
  congr := fun hfields => by rw [hfields "quantity" List.mem_cons_self]

/-- Every row of a collection is a single item. -/
def Store.Single (s : Store) (slug : String) : Prop :=
  ∀ row ∈ s.rows slug, IsOne (row.get? "quantity")

instance (s : Store) (slug : String) : Decidable (s.Single slug) :=
  inferInstanceAs (Decidable (∀ row ∈ s.rows slug, IsOne (row.get? "quantity")))

namespace Service

variable {sv : Service} {host : Host} {s : Store}

/-- An update with a quantity that is stored as null. -/
def Request.PostsVoid : Request → Prop
  | update _ body => IsVoid (Dict.get? body "quantity")
  | _ => False

/-- A service that sets the quantity to one on creation, and on update reads it
as a number and refuses any other. -/
structure CountsOne (sv : Service) : Prop where
  stable : sv.StableFor .single
  onCreate : ∃ required taken, sv.Places .beforeCreateValidation
    [.require "serial_number" required, .unique "serial_number" taken,
      .forceValue "quantity" (.ofNat 1)]
    (Fragment.DriftsAt true .beforeCreateValidation "quantity")
  onInsert : sv.Places .beforeCreateTransformation []
    (Fragment.DriftsAt true .beforeCreateTransformation "quantity")
  onUpdate : ∃ message, sv.Places .beforeUpdateValidation
    [.fixedValue "quantity" (.ofNat 1) message]
    (Fragment.DriftsAt true .beforeUpdateValidation "quantity")
  counts : ∃ message bound, sv.Places .beforeUpdateValidation
    [.coerceNumber "quantity" message, .atLeast "quantity" 0 bound]
    (Fragment.DriftsAt true .beforeUpdateValidation "quantity")

theorem CountsOne.placed (hsv : sv.CountsOne) : sv.Placed :=
  (hsv.stable "quantity" List.mem_cons_self).placed

/-- **A creation** stores one. -/
theorem CountsOne.create_quantity
    [Pattern.Engine] (hsv : sv.CountsOne) {body data : Record}
    (hrun : ((sv.prepareCreate body).run host Outage.none s).1 = .ok data) :
    IsOne (data.get? "quantity") := by
  obtain ⟨valid, hvalid, htransform⟩ :=
    (hsv.placed.runHook_frame rfl _).exists_of_bind_ok hrun
  obtain ⟨required, taken, hchecks⟩ := hsv.onCreate
  obtain ⟨first, second, -, hown, hafter⟩ :=
    hchecks.exists_run_drifts hsv.placed rfl hvalid
  obtain ⟨_, -, hown⟩ := exists_of_runFragments_cons rfl hown
  obtain ⟨_, -, hown⟩ := exists_of_runFragments_cons rfl hown
  obtain ⟨_, hforce, hown⟩ := exists_of_runFragments_cons rfl hown
  cases hforce
  cases hown
  obtain ⟨third, fourth, hbefore, hown, hlast⟩ :=
    hsv.onInsert.exists_run_drifts hsv.placed rfl htransform
  cases hown
  have hvalid : valid.get? "quantity" = some (.ofNat 1) ∨
      valid.get? "quantity" = some (.ofFloat 1) :=
    hafter.eq_one (Or.inl (Dict.get?_insert_self ..))
  rcases hlast.eq_one (hbefore.eq_one hvalid) with hone | hone
  · rw [hone]
    decide
  · rw [hone]
    decide

/-- **An update** changes a quantity to one only, or to null, which it does when
the posted one is void. -/
theorem CountsOne.update_quantity [Pattern.Engine]
    (hsv : sv.CountsOne) {id : String} {existing body data : Record}
    (hrun : ((sv.prepareUpdate id existing body).run host Outage.none s).1 =
      .ok data) :
    (isAbsent (data.get? "quantity") = true ∨ IsOne (data.get? "quantity")) ∧
      (data.get? "quantity" = some .null ↔ IsVoid (body.get? "quantity")) := by
  have hh : Hook.beforeUpdateValidation ≠ .beforeCreateTransformation := nofun
  obtain ⟨message, hchecks⟩ := hsv.onUpdate
  obtain ⟨first, second, hbefore, hown, hafter⟩ :=
    hchecks.exists_run_drifts hsv.placed rfl hrun
  obtain ⟨_, hfixed, hown⟩ := exists_of_runFragments_cons rfl hown
  obtain ⟨hcheck, rfl⟩ := Access.eq_of_run_check hfixed
  cases hown
  refine ⟨hafter.isOne_or_absent hh (Record.isOne_of_fixedValue hcheck), ?_, ?_⟩
  · exact (hbefore.trans hafter).isVoid hh
  · intro hvoid
    -- Where the quantity is read as a number, it is void as it was posted, or
    -- no number at all.
    obtain ⟨message, bound, hnumber⟩ := hsv.counts
    obtain ⟨third, fourth, hdrift, hown, hlast⟩ :=
      hnumber.exists_run_drifts hsv.placed rfl hrun
    obtain ⟨number, hcoerce, hown⟩ := exists_of_runFragments_cons rfl hown
    obtain ⟨_, hleast, hown⟩ := exists_of_runFragments_cons rfl hown
    obtain ⟨-, rfl⟩ := Access.eq_of_run_check hleast
    cases hown
    refine hlast.eq_null hh (Record.eq_null_of_coerceNumber
      (Access.eq_ok_of_run_ofExcept _ _ _ hcoerce) ?_)
    rcases hvoid with hnull | ⟨x, hx, hinfinite⟩
    · exact Or.inl (hdrift.eq_null hh hnull)
    · refine Or.inr ⟨hdrift.isSome ?_, ?_⟩
      · obtain ⟨v, hget, -⟩ := Option.bind_eq_some_iff.mp hx
        exact Option.isSome_iff_exists.mpr ⟨v, hget⟩
      · intro y hy
        rcases hdrift.numeric? hh with hsame | hnone
        · obtain rfl : y = x := Option.some.inj (hy.symm.trans (hsame.trans hx))
          exact hinfinite
        · exact absurd (hy.symm.trans hnone) nofun

/-- **What is stored is one, unless it is an update with a void quantity.** -/
theorem CountsOne.isOne_iff [Pattern.Engine] (hsv : sv.CountsOne) {q : Request}
    (hq : q.Ordered) (hsingle : s.Single sv.slug) {checked stored : Record}
    {mode : WriteMode} (hstores : sv.Stores host s q checked stored mode) :
    IsOne (stored.get? "quantity") ↔ ¬ q.PostsVoid := by
  cases hstores with
  | create hprepared _ => exact iff_of_true (hsv.create_quantity hprepared) id
  | @update id body existing data hfound hprepared =>
      have hordered : Dict.Ordered data :=
        hsv.placed.ordered_prepareUpdate hq hprepared
      obtain ⟨hone, hvoid⟩ := hsv.update_quantity hprepared
      have hnull : ¬ IsOne (some .null) := by decide
      show _ ↔ ¬ IsVoid (body.get? "quantity")
      rw [← hvoid, Dict.get?_merge hordered]
      cases hget : data.get? "quantity" with
      | none =>
          exact iff_of_true (hsingle existing (s.find?_some hfound).1) nofun
      | some v =>
          rw [hget] at hone
          rcases hone with habsent | hone
          · obtain rfl := Option.some.inj (eq_null_of_isAbsent rfl habsent)
            exact iff_of_false hnull fun h => h rfl
          · refine iff_of_true hone ?_
            rintro heq
            rw [heq] at hone
            exact hnull hone

/-- **A request keeps rows single items exactly when it is no accepted update
with a void quantity.** -/
theorem CountsOne.single_after_iff [Pattern.Engine] (hsv : sv.CountsOne)
    (host : Host) (h : Identified (s.rows sv.slug)) (hsingle : s.Single sv.slug)
    {q : Request} (hq : q.Ordered) :
    (sv.after host s q).Single sv.slug ↔
      ¬ (sv.Accepts host s q ∧ q.PostsVoid) :=
  hsv.stable.keeps_after_iff_not host h hsingle fun _ _ _ hstores =>
    hsv.isOne_iff hq hsingle hstores

end Service

/-! ## Adjustments -/

/-- An adjustment of a row that is there would lead to another quantity than
one. -/
def Store.Unsettles (s : Store) (slug id : String) (delta : Float) : Prop :=
  ∃ item, s.find? slug id = some item ∧ ¬ item.amount "quantity" + delta < 0 ∧
    ¬ IsOne (some (.ofFloat (item.amount "quantity" + delta)))

/-- **An adjustment keeps rows single items exactly when it does not lead to
another quantity than one.** -/
theorem Store.single_adjust_iff {s : Store} {slug : String}
    (h : Identified (s.rows slug)) (hsingle : s.Single slug) (host : Host)
    (id : String) (delta : Float) :
    ((adjustStock slug id "quantity" delta).run host Outage.none s).2.Single
      slug ↔ ¬ s.Unsettles slug id delta := by
  rw [store_adjustStock]
  cases hfind : s.find? slug id with
  | none =>
      refine iff_of_true hsingle ?_
      rintro ⟨item, hitem, -⟩
      rw [hfind] at hitem
      cases hitem
  | some item =>
      have hunsettles : s.Unsettles slug id delta ↔
          ¬ item.amount "quantity" + delta < 0 ∧
          ¬ IsOne (some (.ofFloat (item.amount "quantity" + delta))) := by
        unfold Unsettles
        rw [hfind]
        simp only [Option.some.injEq, exists_eq_left']
      rw [hunsettles]
      dsimp only
      split
      next hless => exact iff_of_true hsingle fun hmore => hmore.1 hless
      next hmore =>
        rcases s.update_cases host slug id
            [("quantity", .ofFloat (item.amount "quantity" + delta))] h with
          ⟨hnone, -⟩ | ⟨row, hrow, -, hrows, -⟩
        · rw [hfind] at hnone
          cases hnone
        · obtain rfl : item = row := Option.some.inj (hfind.symm.trans hrow)
          have hwritten : ∀ now, (item.patched [("quantity",
              .ofFloat (item.amount "quantity" + delta))] now).get?
              "quantity" = some (.ofFloat (item.amount "quantity" + delta)) := by
            intro now
            rw [Record.get?_patched (by decide)]
            exact Dict.get?_insert_self ..
          unfold Single
          rw [hrows, List.forall_mem_map]
          constructor
          · rintro hall ⟨-, hne⟩
            obtain ⟨hmem, hid⟩ := s.find?_some hfind
            have hone := hall item hmem
            rw [if_pos (by simp [Record.hasId, hid]), hwritten] at hone
            exact hne hone
          · intro hnot other hother
            split
            · rw [hwritten]
              by_contra hne
              exact hnot ⟨hmore, hne⟩
            · exact hsingle other hother

/-! ## Runs -/

namespace Service

variable {sv : Service} {s : Store} {admits : Request → Prop}

/-- **Runs of requests and adjustments that keep single items** lead to single
items. -/
theorem CountsOne.single
    [Pattern.Engine] (hsv : sv.CountsOne) (hstocks : sv.Stocks "quantity")
    (hrequest : ∀ s host q, sv.StockRun "quantity" admits s →
      q.Ordered → admits q → ¬ (sv.Accepts host s q ∧ q.PostsVoid))
    (hadjust : ∀ s id delta, sv.StockRun "quantity" admits s →
      ¬ s.Unsettles sv.slug id delta) (hs : sv.StockRun "quantity" admits s) :
    s.Single sv.slug := by
  induction hs with
  | empty => exact nofun
  | serve host hordered hq hs ih =>
      exact (hsv.single_after_iff host (hstocks.identified hs) ih hordered).mpr
        (hrequest _ host _ hs hordered hq)
  | adjust host id delta hs ih =>
      exact (Store.single_adjust_iff (hstocks.identified hs)
        ih host id delta).mpr (hadjust _ id delta hs)

end Service

namespace SchemaGraph

variable (g : SchemaGraph) (l : BundleLibrary) {e : Entity}
    {c c' : BundleConfig}

/-- **The bundle for serial numbers** together with that for stock, which counts
quantities. -/
theorem serviceOf_countsOne [Pattern.Engine] (he : e ∈ g.servedEntities)
    (hserial : (.serialTracking, c) ∈ (Selection.ofEntity l g.modules e).bundles)
    (hstock : (.inventory, c') ∈ (Selection.ofEntity l g.modules e).bundles)
    (hfield :
      c'.text ["quantity_field", "quantityField"] "quantity" = "quantity") :
    (g.serviceOf l e).CountsOne := by
  have hnodup := Selection.chosen_nodup l g.modules e
  have hown : "quantity" ∈ Bundle.serialTracking.ownFields := by decide
  have hplaces : ∀ h, (g.serviceOf l e).Places h
      ((Bundle.serialTracking.fragments c).fragmentsAt h)
      (Fragment.DriftsAt true h "quantity") :=
    EntityPlan.places_drifting (p := EntityPlan.ofEntity l g e)
      hnodup hserial hown (fun _ _ _ => rfl) e.slug
  -- Around the fragments for stock on update stands that for serial numbers,
  -- which only checks.
  have hcounts : (g.serviceOf l e).Places .beforeUpdateValidation
      ((Bundle.inventory.fragments c').fragmentsAt .beforeUpdateValidation)
      (Fragment.DriftsAt true .beforeUpdateValidation "quantity") := by
    refine EntityPlan.places (p := EntityPlan.ofEntity l g e)
      hnodup hstock e.slug _ ?_ ?_
    · intro φ hφ
      refine .away ?_
      rw [CompiledRules.targets_eq_nil _ hφ]
      exact List.not_mem_nil
    · rintro ⟨other, c''⟩ _ _ φ hφ
      by_cases hother : other = .serialTracking
      · subst hother
        have hcheck : (Bundle.serialTracking.fragments c'').fragmentsAt
            .beforeUpdateValidation =
            [.fixedValue "quantity" (.ofNat 1)
              "Serialized items must have quantity of 1"] := rfl
        rw [hcheck, List.mem_singleton] at hφ
        rw [hφ]
        exact .away List.not_mem_nil
      · exact Bundle.driftsAt (Bundle.notMem_ownFields hother hown)
          (fun _ => rfl) hφ
  have hlist :
      (Bundle.inventory.fragments c').fragmentsAt .beforeUpdateValidation =
      [.coerceNumber "quantity" "Quantity must be a number",
          .atLeast "quantity" 0 "Stock cannot be negative"] := by
    rw [← hfield]
    rfl
  rw [hlist] at hcounts
  refine ⟨?_, ⟨_, _, hplaces .beforeCreateValidation⟩,
    hplaces .beforeCreateTransformation,
    ⟨_, hplaces .beforeUpdateValidation⟩, ⟨_, _, hcounts⟩⟩
  intro f hf
  obtain rfl : f = "quantity" := List.mem_singleton.mp hf
  exact g.serviceOf_stable l he (by decide) fun _ φ _ =>
    φ.recomputes_of_notMem (by decide)

/-- **When a row is not a single item.** Single items stay so under a request
exactly when it is no accepted update with a void quantity, and under an
adjustment exactly when it does not lead to another quantity than one; so all
runs lead to single items only if none of both is ever possible.  Runs without
adjustments and without such updates do. -/
theorem serial_items [Pattern.Engine] (he : e ∈ g.servedEntities)
    (hserial : (.serialTracking, c) ∈ (Selection.ofEntity l g.modules e).bundles)
    (hstock : (.inventory, c') ∈ (Selection.ofEntity l g.modules e).bundles)
    (hfield :
      c'.text ["quantity_field", "quantityField"] "quantity" = "quantity") :
    let sv := g.serviceOf l e
    let Run := sv.StockRun "quantity" fun _ => True
    (∀ s host q, Run s → q.Ordered → s.Single e.slug →
        ((sv.after host s q).Single e.slug ↔
          ¬ (sv.Accepts host s q ∧ q.PostsVoid))) ∧
      (∀ s host id delta, Run s → s.Single e.slug →
        (((adjustStock e.slug id "quantity" delta).run
          host Outage.none s).2.Single e.slug ↔
          ¬ s.Unsettles e.slug id delta)) ∧
      ((∀ s, Run s → s.Single e.slug) ↔
        (∀ s host q, Run s → q.Ordered → ¬ (sv.Accepts host s q ∧ q.PostsVoid)) ∧
          ∀ s id delta, Run s → ¬ s.Unsettles e.slug id delta) ∧
      ∀ s, sv.Run (fun q => q.Ordered ∧ ¬ q.PostsVoid) s → s.Single e.slug := by
  intro sv Run
  have hsv : sv.CountsOne := g.serviceOf_countsOne l he hserial hstock hfield
  have hstocks : sv.Stocks "quantity" := g.serviceOf_stocks l he hstock hfield
  have hstep : ∀ s host q, Run s → q.Ordered → s.Single e.slug →
      ((sv.after host s q).Single e.slug ↔
          ¬ (sv.Accepts host s q ∧ q.PostsVoid)) :=
    fun s host q hs hq hsingle =>
      hsv.single_after_iff host (hstocks.identified hs) hsingle hq
  have hadjust : ∀ s host id delta, Run s → s.Single e.slug →
      (((adjustStock e.slug id "quantity" delta).run
        host Outage.none s).2.Single e.slug ↔
        ¬ s.Unsettles e.slug id delta) :=
    fun s host id delta hs hsingle =>
      Store.single_adjust_iff (hstocks.identified hs) hsingle host id delta
  refine ⟨hstep, hadjust, ⟨?_, ?_⟩, ?_⟩
  · intro hall
    refine ⟨fun s host q hs hq => ?_, fun s id delta hs => ?_⟩
    · exact (hstep s host q hs hq (hall s hs)).mp
        (hall _ (.serve host hq trivial hs))
    · have host : Host := ⟨.ofDay 0, fun _ => ""⟩
      exact (hadjust s host id delta hs (hall s hs)).mp
        (hall _ (.adjust host id delta hs))
  · rintro ⟨hrequest, hunsettled⟩ s hs
    exact hsv.single hstocks (fun s host q hs hq _ => hrequest s host q hs hq)
      hunsettled hs
  · intro s hs
    refine hsv.stable.run_keeps
      (fun s host q _ hsingle hq checked stored mode hstores => ?_) hs
    exact (hsv.isOne_iff hq.1 hsingle hstores).mpr hq.2

end SchemaGraph

/-- Devices with serial numbers, and so with stock keeping. -/
def deviceDocument : Document where
  projectName := "devices"
  modules := []
  entities := [
    { slug := "devices", mixins := [.named "serial"],
      fields := [{ name := "serial_number" }] }]

/-- The devices as they are served. -/
def devices : Entity :=
  { slug := "devices", module := some defaultModule, mixins := [.named "serial"]
    fields := [{ name := "serial_number" }] }

/-- The graph of the devices. -/
def deviceGraph : SchemaGraph where
  projectName := "devices"
  modules := ModuleConfig.ofSettings []
  entities := [devices]
  edges := []
  children := []
  warnings := []

/-- The opening of a store room. -/
def opening : Host := ⟨Calendar.Instant.ofDay 0, fun _ => ""⟩

/-- The creation of a device, with a quantity that does not count. -/
def createDevice (id serial : String) : Service.Request :=
  .create [("id", .string id), ("quantity", .ofNat 7),
    ("serial_number", .string serial)]

/-- The bundles of the devices. -/
theorem bundles_devices :
    (Selection.ofEntity .builtin deviceGraph.modules devices).bundles =
    [(.inventory, []), (.serialTracking, [])] := rfl

/-- A device is one item, whatever is posted.  Five of it are refused, and one
as a text is stored as a number. -/
theorem deviceDocument_single :
    deviceDocument.validate = .ok deviceGraph ∧
    devices ∈ deviceGraph.servedEntities ∧
      (Bundle.serialTracking, []) ∈
        (Selection.ofEntity .builtin deviceGraph.modules devices).bundles ∧
      (Bundle.inventory, []) ∈
        (Selection.ofEntity .builtin deviceGraph.modules devices).bundles ∧
      let sv := deviceGraph.serviceOf .builtin devices
      let s := sv.after opening Store.empty (createDevice "x" "A1")
      let five := sv.after opening s (.update "x" [("quantity", .ofNat 5)])
      let last :=
        sv.after opening five (.update "x" [("quantity", .string " 1")])
      last.Single "devices" ∧ (last.rows "devices").map
        (fun row => (row.get? "quantity").map Json.compact) =
        [some "1.0"] := by
  have hserved : devices ∈ deviceGraph.servedEntities := List.mem_cons_self
  have hstock : (Bundle.inventory, []) ∈
      (Selection.ofEntity .builtin deviceGraph.modules devices).bundles :=
    bundles_devices ▸ List.mem_cons_self
  have hserial : (Bundle.serialTracking, []) ∈
      (Selection.ofEntity .builtin deviceGraph.modules devices).bundles :=
    bundles_devices ▸ List.mem_cons_of_mem _ List.mem_cons_self
  refine ⟨rfl, hserved, hserial, hstock, ?_⟩
  intro sv s five last
  have hvoid : ∀ (v : Json) (x : Float), v.isNull = false →
      v.numeric? = some x → x.isFinite = true →
      ¬ IsVoid (some v) := by
    rintro v x hnull hx hfinite (heq | ⟨y, hy, hinfinite⟩)
    · cases heq
      cases hnull
    · obtain rfl : x = y := Option.some.inj (hx.symm.trans hy)
      rw [hfinite] at hinfinite
      cases hinfinite
  have hrun : sv.Run (fun q => q.Ordered ∧ ¬ q.PostsVoid) last := by
    refine .serve opening ⟨List.pairwise_singleton _ _, ?_⟩
      (.serve opening ⟨List.pairwise_singleton _ _, ?_⟩
        (.serve opening ⟨?_, id⟩ .empty))
    · exact hvoid (.string " 1") 1 rfl (by decide) (by decide)
    · exact hvoid (.ofNat 5) 5 rfl (by decide) (by decide)
    · show Dict.Ordered _
      decide
  exact ⟨(deviceGraph.serial_items .builtin hserved hserial hstock rfl).2.2.2
    last hrun, by decide +kernel⟩

/-- **A device can be five items**: an adjustment by four is accepted. -/
theorem deviceDocument_five :
    deviceDocument.validate = .ok deviceGraph ∧
    ∃ e ∈ deviceGraph.servedEntities, ∃ c c',
      (Bundle.serialTracking, c) ∈
        (Selection.ofEntity .builtin deviceGraph.modules e).bundles ∧
        (Bundle.inventory, c') ∈
          (Selection.ofEntity .builtin deviceGraph.modules e).bundles ∧
        c'.text ["quantity_field", "quantityField"] "quantity" = "quantity" ∧
        ∃ s, (deviceGraph.serviceOf .builtin e).StockRun
          "quantity" (fun _ => True) s ∧ ¬ s.Single e.slug := by
  have hcreate : (createDevice "x" "A1").Ordered := by
    show Dict.Ordered _
    decide
  refine ⟨rfl, devices, List.mem_cons_self, [], [], ?_, ?_, rfl, ?_⟩
  · exact bundles_devices ▸ List.mem_cons_of_mem _ List.mem_cons_self
  · exact bundles_devices ▸ List.mem_cons_self
  · exact ⟨_, .adjust opening "x" 4 (.serve opening hcreate trivial .empty),
      by decide +kernel⟩

end ServiceLoom
