import ServiceLoom.Plan.Selection
import Mathlib.Data.List.Induction
import Mathlib.Data.List.Nodup

/-!
# Chosen bundles

An entity requests bundles, first by the table and then by its mixins.  What a
library supplies for a request is the bundle after those that it requires, as
far as they can be located; the names that it cannot locate are reported.  A
selection is made request by request, and a request whose bundle is there
already is passed over.  Nothing is lost by that, because what the bundle
requires was supplied or reported with it (`Carries`).  So a selection holds
what all requests supply, each bundle at the place and with the configuration
where it comes first, and one warning for each name that is missing.

* `Carries.add`, `Carries.foldl_serve` — one request, and a list of them;
* `chosen_ofEntity`, `mem_chosen_iff` — which bundles are chosen for an entity;
* `ofEntity_answers` — the whole selection of an entity.
-/

namespace ServiceLoom

/-! ## First items -/

section FirstOfEach

variable {α κ : Type} [DecidableEq κ]

/-- The items of a list whose key comes there for the first time. -/
def firstOfEach (key : α → κ) (xs : List α) : List α :=
  xs.eraseDupsBy fun a b => key a == key b

variable (key : α → κ)

theorem firstOfEach_cons (x : α) (xs : List α) :
    firstOfEach key (x :: xs) =
      x :: firstOfEach key (xs.filter (key · ≠ key x)) := by
  simp [firstOfEach, List.eraseDupsBy_cons]

/-- The last item of a list counts only if its key is new. -/
theorem firstOfEach_concat (xs : List α) (x : α) :
    firstOfEach key (xs ++ [x]) =
      if key x ∈ xs.map key then firstOfEach key xs
      else firstOfEach key xs ++ [x] := by
  -- What follows the first item is filtered before it is looked at, so the
  -- induction is on the length.
  induction hn : xs.length using Nat.strongRecOn generalizing xs with
  | ind n ih =>
    subst hn
    cases xs with
    | nil => rfl
    | cons a rest =>
        have hlt : (rest.filter (key · ≠ key a)).length < (a :: rest).length :=
          Nat.lt_succ_of_le (List.length_filter_le _ _)
        rw [List.cons_append, firstOfEach_cons, firstOfEach_cons,
          List.filter_append]
        by_cases hx : key x = key a
        · simp [hx]
        · have hmem : key x ∈ (rest.filter (key · ≠ key a)).map key ↔
              key x ∈ (a :: rest).map key := by
            simp only [List.mem_map, List.mem_filter,
              List.mem_cons, decide_eq_true_eq]
            constructor
            · rintro ⟨y, ⟨hy, -⟩, hyx⟩
              exact ⟨y, .inr hy, hyx⟩
            · rintro ⟨y, rfl | hy, hyx⟩
              · exact absurd hyx.symm hx
              · exact ⟨y, ⟨hy, hyx ▸ hx⟩, hyx⟩
          rw [List.filter_cons_of_pos (by simpa using hx),
            List.filter_nil, ih _ hlt _ rfl]
          simp only [hmem]
          split <;> rfl

/-- Items whose keys are there already do not count. -/
theorem firstOfEach_append_of_subset {xs ys : List α}
    (h : ∀ k ∈ ys.map key, k ∈ xs.map key) :
    firstOfEach key (xs ++ ys) = firstOfEach key xs := by
  induction ys using List.reverseRecOn with
  | nil => rw [List.append_nil]
  | append_singleton ys y ih =>
      rw [List.map_append] at h
      have hy : key y ∈ (xs ++ ys).map key := by
        rw [List.map_append]
        exact List.mem_append_left _ (h _ (by simp))
      rw [← List.append_assoc, firstOfEach_concat, if_pos hy]
      exact ih fun k hk => h k (List.mem_append_left _ hk)

/-- The keys of the first items are the keys of the list, each where it comes
first. -/
theorem map_firstOfEach (xs : List α) :
    (firstOfEach key xs).map key = (xs.map key).eraseDups := by
  show _ = firstOfEach id (xs.map key)
  induction xs using List.reverseRecOn with
  | nil => rfl
  | append_singleton xs x ih =>
      rw [firstOfEach_concat, List.map_append, List.map_singleton,
        firstOfEach_concat, List.map_id, apply_ite (List.map key),
        List.map_append, List.map_singleton, ih]
      rfl

/-- No item counts twice. -/
theorem nodup_eraseDups (xs : List κ) : xs.eraseDups.Nodup := by
  show (firstOfEach id xs).Nodup
  induction xs using List.reverseRecOn with
  | nil => exact List.nodup_nil
  | append_singleton xs x ih =>
      rw [firstOfEach_concat]
      split
      · exact ih
      next hnew =>
        rw [← List.concat_eq_append]
        refine ih.concat fun hmem => hnew ?_
        rw [List.map_id]
        exact List.mem_eraseDups.mp hmem

end FirstOfEach

/-! ## Requests and what is supplied for them -/

/-- Bundles require stock keeping only. -/
theorem Bundle.eq_inventory_of_mem_requires {b r : Bundle}
    (h : b ∈ r.requires) : b = .inventory := by
  cases r with
  | batchTracking | serialTracking | location => exact List.mem_singleton.mp h
  | _ => cases h

/-- What is required by a bundle requires nothing itself. -/
theorem Bundle.requires_of_mem_requires {b r : Bundle} (h : b ∈ r.requires) :
    b.requires = [] := by
  rw [eq_inventory_of_mem_requires h]
  rfl

/-- What a library supplies for a requested bundle: those that it requires, and
the bundle. -/
def BundleLibrary.supply (l : BundleLibrary) (b : Bundle) : List Bundle :=
  if l.locates b then b.requires.filter l.locates ++ [b] else []

theorem BundleLibrary.mem_supply_iff {l : BundleLibrary} {b r : Bundle} :
    b ∈ l.supply r ↔ l.locates r = true ∧
      (b = r ∨ b ∈ r.requires ∧ l.locates b = true) := by
  unfold supply
  split
  next h => simp [h, or_comm]
  next h => simp [h]

namespace Selection

/-- What an entity asks for: a bundle with its configuration, or a name that
stands for no bundle. -/
inductive Request where
  | bundle (b : Bundle) (config : BundleConfig)
  | unknown (name : String)

namespace Request

/-- What a mixin asks for. -/
def ofMixin (m : MixinEntry) : Request :=
  match Bundle.ofMixin? m.name with
  | some b => bundle b (m.config?.getD [])
  | none => unknown m.name

/-- What a library supplies for a request, with the configurations that an
entity has for required bundles. -/
def supply (l : BundleLibrary) (e : Entity) : Request →
    List (Bundle × BundleConfig)
  | bundle b config =>
    if l.locates b then (b.requires.filter l.locates).map
      (fun r => (r, configOf e r.name)) ++ [(b, config)]
    else []
  | unknown _ => []

/-- The names that a library cannot locate for a request. -/
def missing (l : BundleLibrary) : Request → List String
  | bundle b _ =>
    if l.locates b then (b.requires.filter fun r => !l.locates r).map (·.name)
    else [b.name]
  | unknown name => [name]

section Bundles

variable {l : BundleLibrary} {b : Bundle} {config : BundleConfig}

theorem supply_of_located {e : Entity} (h : l.locates b = true) :
    (bundle b config).supply l e =
      (b.requires.filter l.locates).map (fun r => (r, configOf e r.name)) ++
        [(b, config)] := if_pos h

theorem supply_of_lost {e : Entity} (h : ¬ l.locates b = true) :
    (bundle b config).supply l e = [] := if_neg h

theorem missing_of_located (h : l.locates b = true) :
    (bundle b config).missing l =
      (b.requires.filter fun r => !l.locates r).map (·.name) := if_pos h

theorem missing_of_lost (h : ¬ l.locates b = true) :
    (bundle b config).missing l = [b.name] := if_neg h

end Bundles

/-- The requested bundle, if there is one. -/
def bundle? : Request → Option Bundle
  | bundle b _ => some b
  | unknown _ => none

/-- The bundles that are supplied for a request do not depend on
configurations. -/
theorem map_supply (l : BundleLibrary) (e : Entity) (r : Request) :
    (r.supply l e).map (·.1) = r.bundle?.toList.flatMap l.supply := by
  cases r with
  | unknown name => rfl
  | bundle b config =>
      simp only [supply, bundle?, Option.toList_some,
        List.flatMap_singleton, BundleLibrary.supply]
      split
      · simp [Function.comp_def]
      · rfl

end Request

/-- What an entity asks for, in order: by the table, configured by its features,
and then by its mixins. -/
def asked (c : ModuleConfig) (e : Entity) : List Request :=
  (selectionRules.filter (·.applies e c)).map
    (fun r => .bundle r.bundle (configOf e r.feature)) ++
    e.mixins.map .ofMixin

/-- The bundles that an entity requests: by the table, and then by its
mixins. -/
def requests (c : ModuleConfig) (e : Entity) : List Bundle :=
  (selectionRules.filter (·.applies e c)).map (·.bundle) ++
    e.mixins.filterMap fun m => Bundle.ofMixin? m.name

theorem requests_eq_filterMap (c : ModuleConfig) (e : Entity) :
    requests c e = (asked c e).filterMap Request.bundle? := by
  have hmixin : Request.bundle? ∘ Request.ofMixin = fun m =>
      Bundle.ofMixin? m.name := by
    funext m
    simp only [Function.comp_apply, Request.ofMixin]
    cases Bundle.ofMixin? m.name <;> rfl
  rw [requests, asked, List.filterMap_append, List.filterMap_map,
    List.filterMap_map, hmixin, ← List.filterMap_eq_map]
  rfl

/-- The warning that a name cannot be located. -/
def notFound (slug name : String) : String :=
  "bundle '" ++ name ++ "' for '" ++ slug ++ "' not found; skipped"

theorem notFound_inj {slug name other : String}
    (h : notFound slug name = notFound slug other) : name = other := by
  have hlist := congrArg String.toList h
  exact String.toList_inj.mp (by simpa [notFound] using hlist)

/-- The step that a selection makes for a request. -/
def serve (l : BundleLibrary) (e : Entity) (s : Selection) : Request → Selection
  | .bundle b config => s.add l e b config
  | .unknown name => s.warn e.slug name

theorem ofEntity_eq_foldl (l : BundleLibrary) (c : ModuleConfig) (e : Entity) :
    ofEntity l c e = (asked c e).foldl (serve l e) empty := by
  have hmixin : addMixin l e = fun s m => serve l e s (.ofMixin m) := by
    funext s m
    unfold addMixin Request.ofMixin
    cases Bundle.ofMixin? m.name <;> rfl
  rw [ofEntity, hmixin, asked, List.foldl_append, List.foldl_map,
    List.foldl_map]
  rfl

/-! ## Selections that carry what was supplied -/

/-- A selection carries what was supplied, each bundle where it comes first, and
warns of each missing name. What a chosen bundle requires stands before it, or
is missing. -/
structure Carries (l : BundleLibrary) (slug : String)
    (s : Selection) (supplied : List (Bundle × BundleConfig))
    (missing : List String) : Prop where
  bundles : s.bundles = firstOfEach (·.1) supplied
  warnings : s.warnings = missing.eraseDups.map (notFound slug)
  located : ∀ b ∈ s.chosen, l.locates b = true
  preceded : ∀ b ∈ s.chosen, ∀ r ∈ b.requires, l.locates r = true →
    [r, b].Sublist s.chosen
  reported : ∀ b ∈ s.chosen, ∀ r ∈ b.requires, l.locates r = false →
    r.name ∈ missing

variable {l : BundleLibrary} {e : Entity} {slug : String} {s : Selection}
  {supplied : List (Bundle × BundleConfig)} {missing : List String}

theorem Carries.empty : Carries l slug empty [] [] :=
  ⟨rfl, rfl, nofun, nofun, nofun⟩

namespace Carries

theorem chosen_eq (h : s.Carries l slug supplied missing) :
    s.chosen = (supplied.map (·.1)).eraseDups := by
  rw [chosen, h.bundles, map_firstOfEach]

theorem mem_chosen (h : s.Carries l slug supplied missing) {b : Bundle} :
    b ∈ s.chosen ↔ b ∈ supplied.map (·.1) := by
  rw [h.chosen_eq, List.mem_eraseDups]

/-- Bundles and names that are there already change nothing. -/
theorem absorb (h : s.Carries l slug supplied missing)
    (more : List (Bundle × BundleConfig))
    (names : List String) (hmore : ∀ b ∈ more.map (·.1), b ∈ s.chosen)
    (hnames : ∀ name ∈ names, name ∈ missing) :
    s.Carries l slug (supplied ++ more) (missing ++ names) where
  bundles := by
    rw [firstOfEach_append_of_subset _ fun b hb => h.mem_chosen.mp (hmore b hb)]
    exact h.bundles
  warnings := by
    have hsame : (missing ++ names).eraseDups = missing.eraseDups :=
      firstOfEach_append_of_subset id (by simpa using hnames)
    rw [hsame]
    exact h.warnings
  located := h.located
  preceded := h.preceded
  reported := fun b hb r hr hlost =>
    List.mem_append_left _ (h.reported b hb r hr hlost)

/-- A new bundle whose required ones are there, or missing, is appended. -/
theorem push (h : s.Carries l slug supplied missing) {b : Bundle}
    (c : BundleConfig) (hnew : b ∉ s.chosen) (hlocated : l.locates b = true)
    (hrequired : ∀ r ∈ b.requires, l.locates r = true → r ∈ s.chosen)
    (hmissing : ∀ r ∈ b.requires, l.locates r = false → r.name ∈ missing) :
    Carries l slug { s with bundles := s.bundles ++ [(b, c)] }
      (supplied ++ [(b, c)]) missing := by
  have hchosen : chosen { s with bundles := s.bundles ++ [(b, c)] } =
      s.chosen ++ [b] := by simp [chosen]
  refine ⟨?_, h.warnings, ?_, ?_, ?_⟩
  · have hkey : b ∉ supplied.map (·.1) := fun hb => hnew (h.mem_chosen.mpr hb)
    rw [firstOfEach_concat, if_neg hkey, ← h.bundles]
  all_goals
    rw [hchosen]
    intro x hx
    rcases List.mem_append.mp hx with hx | hx
  · exact h.located x hx
  · exact List.mem_singleton.mp hx ▸ hlocated
  · exact fun r hr hlocated =>
      (h.preceded x hx r hr hlocated).trans (List.sublist_append_left _ _)
  · obtain rfl := List.mem_singleton.mp hx
    exact fun r hr hlocated =>
      (List.singleton_sublist.mpr (hrequired r hr hlocated)).append
        (List.Sublist.refl [x])
  · exact h.reported x hx
  · obtain rfl := List.mem_singleton.mp hx
    exact hmissing

/-- A warning is given for a name that was not missing before. -/
theorem warn (h : s.Carries l slug supplied missing) (name : String) :
    (s.warn slug name).Carries l slug supplied (missing ++ [name]) := by
  have hgiven : s.warnings.contains (notFound slug name) = true ↔
      name ∈ missing := by
    rw [List.contains_iff_mem, h.warnings, List.mem_map]
    constructor
    · rintro ⟨other, hother, heq⟩
      exact notFound_inj heq ▸ List.mem_eraseDups.mp hother
    · exact fun hname => ⟨name, List.mem_eraseDups.mpr hname, rfl⟩
  have hstep : s.warn slug name =
      if name ∈ missing then s
      else { s with warnings := s.warnings ++ [notFound slug name] } := by
    simp only [Selection.warn, ← hgiven]
    rfl
  rw [hstep]
  by_cases hname : name ∈ missing
  · rw [if_pos hname]
    simpa using h.absorb [] [name] (by simp) (by simpa using hname)
  · rw [if_neg hname]
    refine ⟨h.bundles, ?_, h.located, h.preceded, ?_⟩
    · have hlast : (missing ++ [name]).eraseDups =
          missing.eraseDups ++ [name] := by
        have hconcat := firstOfEach_concat id missing name
        rwa [if_neg (by simpa using hname)] at hconcat
      rw [hlast, List.map_append, ← h.warnings]
      rfl
    · exact fun b hb r hr hlost =>
        List.mem_append_left _ (h.reported b hb r hr hlost)

/-- A bundle that requires nothing is supplied alone, or missing. -/
theorem addAlone (h : s.Carries l slug supplied missing) {b : Bundle}
    (hb : b.requires = []) (c : BundleConfig) :
    (s.addAlone l slug b c).Carries l slug
      (supplied ++ if l.locates b then [(b, c)] else [])
      (missing ++ if l.locates b then [] else [b.name]) := by
  unfold Selection.addAlone
  by_cases hthere : b ∈ s.chosen
  · rw [if_pos (by simpa using hthere)]
    refine h.absorb _ _ ?_ ?_
    · split <;> simp [hthere]
    · simp [h.located b hthere]
  · rw [if_neg (by simpa using hthere)]
    by_cases hlocated : l.locates b = true
    · simpa [hlocated]
        using h.push c hthere hlocated (by simp [hb]) (by simp [hb])
    · simpa [hlocated] using h.warn b.name

/-- Bundles that require nothing are supplied one after the other. -/
theorem foldl_addAlone (h : s.Carries l slug supplied missing)
    (config : Bundle → BundleConfig) (bundles : List Bundle)
    (hbundles : ∀ b ∈ bundles, b.requires = []) :
    (bundles.foldl (fun s b => s.addAlone l slug b (config b)) s).Carries l slug
      (supplied ++ (bundles.filter l.locates).map fun b => (b, config b))
      (missing ++ (bundles.filter fun b => !l.locates b).map (·.name)) := by
  induction bundles generalizing s supplied missing with
  | nil => simpa using h
  | cons b rest ih =>
      rw [List.forall_mem_cons] at hbundles
      have hrest := ih (h.addAlone hbundles.1 (config b)) hbundles.2
      by_cases hlocated : l.locates b = true <;> simpa [hlocated] using hrest

/-- **A request joins what was supplied and what is missing.** -/
theorem add (h : s.Carries l e.slug supplied missing) (b : Bundle)
    (c : BundleConfig) :
    (s.add l e b c).Carries l e.slug
      (supplied ++ (Request.bundle b c).supply l e)
      (missing ++ (Request.bundle b c).missing l) := by
  unfold Selection.add
  by_cases hthere : b ∈ s.chosen
  · -- What the bundle requires came with it, or was reported.
    rw [if_pos (by simpa using hthere), Request.supply_of_located
        (h.located b hthere), Request.missing_of_located (h.located b hthere)]
    refine h.absorb _ _ ?_ ?_
    · intro r hr
      rcases List.mem_append.mp (List.map_append ▸ hr) with hr | hr
      · obtain ⟨hrequired, hlocated⟩ :=
          List.mem_filter.mp (by simpa [Function.comp_def] using hr)
        exact (h.preceded b hthere r hrequired hlocated).subset
          List.mem_cons_self
      · exact List.mem_singleton.mp hr ▸ hthere
    · intro name hname
      obtain ⟨r, hr, rfl⟩ := List.mem_map.mp hname
      obtain ⟨hrequired, hlost⟩ := List.mem_filter.mp hr
      exact h.reported b hthere r hrequired (by simpa using hlost)
  · rw [if_neg (by simpa using hthere)]
    by_cases hlocated : l.locates b = true
    · rw [if_pos hlocated, Request.supply_of_located hlocated,
        Request.missing_of_located hlocated, ← List.append_assoc]
      have hall := h.foldl_addAlone (fun r => configOf e r.name) b.requires
        fun r hr => Bundle.requires_of_mem_requires hr
      refine hall.push c ?_ hlocated ?_ ?_
      · rw [hall.mem_chosen, List.map_append, List.mem_append, not_or]
        refine ⟨fun hmem => hthere (h.mem_chosen.mpr hmem), fun hmem => ?_⟩
        have hself : b ∈ b.requires := by
          simp only [List.map_map, List.mem_map, List.mem_filter] at hmem
          obtain ⟨r, ⟨hr, -⟩, rfl⟩ := hmem
          exact hr
        rw [Bundle.requires_of_mem_requires hself] at hself
        cases hself
      · intro r hr hrlocated
        rw [hall.mem_chosen, List.map_append]
        refine List.mem_append_right _ ?_
        simpa [Function.comp_def] using ⟨hr, hrlocated⟩
      · intro r hr hlost
        refine List.mem_append_right _
          (List.mem_map.mpr ⟨r, List.mem_filter.mpr ⟨hr, ?_⟩, rfl⟩)
        simp [hlost]
    · rw [if_neg hlocated, Request.supply_of_lost hlocated,
        Request.missing_of_lost hlocated, List.append_nil]
      exact h.warn b.name

theorem serve (h : s.Carries l e.slug supplied missing) (r : Request) :
    (s.serve l e r).Carries l e.slug (supplied ++ r.supply l e)
      (missing ++ r.missing l) := by
  cases r with
  | bundle b c => exact h.add b c
  | unknown name =>
      simpa [Selection.serve, Request.supply, Request.missing] using h.warn name

/-- Requests join one after the other. -/
theorem foldl_serve (h : s.Carries l e.slug supplied missing)
    (requests : List Request) :
    (requests.foldl (Selection.serve l e) s).Carries
      l e.slug (supplied ++ requests.flatMap (Request.supply l e))
      (missing ++ requests.flatMap (Request.missing l)) := by
  induction requests generalizing s supplied missing with
  | nil => simpa using h
  | cons r rest ih =>
      rw [List.foldl_cons, List.flatMap_cons, List.flatMap_cons,
        ← List.append_assoc, ← List.append_assoc]
      exact ih (h.serve r)

end Carries

/-! ## The selection of an entity -/

/-- **A selection carries what all requests of its entity supply.** -/
theorem ofEntity_carries (l : BundleLibrary) (c : ModuleConfig) (e : Entity) :
    (ofEntity l c e).Carries l e.slug ((asked c e).flatMap (Request.supply l e))
      ((asked c e).flatMap (Request.missing l)) := by
  rw [ofEntity_eq_foldl]
  exact Carries.empty.foldl_serve (asked c e)

/-- **The chosen bundles are what all requests supply**, each where it comes
first. -/
theorem chosen_ofEntity (l : BundleLibrary) (c : ModuleConfig) (e : Entity) :
    (ofEntity l c e).chosen = ((requests c e).flatMap l.supply).eraseDups := by
  rw [(ofEntity_carries l c e).chosen_eq, requests_eq_filterMap,
    List.filterMap_eq_flatMap_toList, List.flatMap_assoc, List.map_flatMap]
  simp only [Request.map_supply]

/-- No bundle is chosen twice. -/
theorem chosen_nodup (l : BundleLibrary) (c : ModuleConfig) (e : Entity) :
    (ofEntity l c e).chosen.Nodup := by
  rw [chosen_ofEntity]
  exact nodup_eraseDups _

/-- A bundle is chosen when some request supplies it. -/
theorem mem_chosen_iff {c : ModuleConfig} {e : Entity} {b : Bundle} :
    b ∈ (ofEntity l c e).chosen ↔ ∃ r ∈ requests c e, b ∈ l.supply r := by
  rw [chosen_ofEntity, List.mem_eraseDups, List.mem_flatMap]

/-- The order of the mixins does not matter for what is chosen. -/
theorem mem_chosen_reordered {c : ModuleConfig} {e : Entity}
    {mixins : List MixinEntry} (hmixins : mixins.Perm e.mixins) {b : Bundle} :
    b ∈ (ofEntity l c { e with mixins }).chosen ↔
    b ∈ (ofEntity l c e).chosen := by
  have hrequests : (requests c { e with mixins }).Perm (requests c e) :=
    List.Perm.append_left _ (hmixins.filterMap _)
  simp only [mem_chosen_iff, hrequests.mem_iff]

end Selection

/-- Bundles have different names. -/
theorem Bundle.name_injective : Function.Injective Bundle.name := by
  intro b r h
  revert h
  cases b <;> cases r <;> decide

namespace Selection

/-- What the requests of an entity say about its selection. -/
structure Answers (l : BundleLibrary) (c : ModuleConfig) (e : Entity)
    (s : Selection) : Prop where
  /-- Of everything that is supplied, what is the first of its name is chosen,
  as it is configured there. -/
  bundles : s.bundles =
    ((asked c e).flatMap (Request.supply l e)).eraseDupsBy fun p q =>
      p.1.name == q.1.name
  distinct : s.names.Nodup
  /-- A bundle comes after those that it requires. -/
  preceded : ∀ b ∈ s.chosen, ∀ r ∈ b.requires, l.locates r = true →
    [r.name, b.name].Sublist s.names
  /-- Which names are chosen does not depend on the order of the mixins. -/
  unordered : ∀ mixins, mixins.Perm e.mixins →
    ∀ name, name ∈ (ofEntity l c { e with mixins }).names ↔ name ∈ s.names
  /-- There is one warning for each name that is missing. -/
  warnings : s.warnings =
    ((asked c e).flatMap (Request.missing l)).eraseDups.map (notFound e.slug)
  warnings_distinct : s.warnings.Nodup

/-- **The selection of an entity is what its requests say.** -/
theorem ofEntity_answers (l : BundleLibrary) (c : ModuleConfig) (e : Entity) :
    (ofEntity l c e).Answers l c e := by
  have hcarries := ofEntity_carries l c e
  have hkey : (fun p q : Bundle × BundleConfig => p.1.name == q.1.name) =
      fun p q => p.1 == q.1 := by
    funext p q
    exact decide_eq_decide.mpr Bundle.name_injective.eq_iff
  constructor
  case bundles =>
    rw [hkey]
    exact hcarries.bundles
  case distinct => exact (chosen_nodup l c e).map Bundle.name_injective
  case preceded =>
    intro b hb r hr hlocated
    exact (hcarries.preceded b hb r hr hlocated).map Bundle.name
  case unordered =>
    intro mixins hmixins name
    simp only [names, List.mem_map, mem_chosen_reordered hmixins]
  case warnings => exact hcarries.warnings
  case warnings_distinct =>
    rw [hcarries.warnings]
    exact (nodup_eraseDups _).map fun _ _ h => notFound_inj h

end Selection

/-- Shelves with stock in batches.  Their features configure the stock; their
mixins ask for it once more, for serial numbers, for locations, and twice for
something that does not exist. -/
def shelfEntity : Entity where
  slug := "shelves"
  features := [("batch_tracking", .bool true),
    ("inventory", .object [("quantity_field", .string "count")])]
  mixins := [.configured "StockMixin" [],
    .configured "stock_tracking" [("quantity_field", .string "amount")],
    .named "serial", .named "StockMixin", .named " LocationMixin"]

/-- Without the bundle for locations, shelves get stock with the configuration
of the feature, batches and serial numbers, in any order of their mixins, and
two warnings. -/
theorem shelfEntity_answers :
    let l : BundleLibrary := ⟨Bundle.all, ["location"]⟩
    let s := Selection.ofEntity l (.ofSettings []) shelfEntity
    s.names = ["inventory", "batch_tracking", "serial_tracking"] ∧
      (s.bundles.head?.map fun p => p.2.text ["quantity_field"] "quantity") =
        some "count" ∧
      s.warnings = ["bundle 'StockMixin' for 'shelves' not found; skipped",
        "bundle 'location' for 'shelves' not found; skipped"] ∧
      ["inventory", "serial_tracking"].Sublist s.names ∧
      ∀ name, name ∈ (Selection.ofEntity l (.ofSettings [])
        { shelfEntity with mixins := shelfEntity.mixins.reverse }).names ↔
            name ∈ s.names := by
  intro l s
  have hanswers := Selection.ofEntity_answers l (.ofSettings []) shelfEntity
  refine ⟨by decide +kernel, by decide +kernel, by decide +kernel, ?_, ?_⟩
  · exact hanswers.preceded .serialTracking (by decide +kernel)
      .inventory (by decide) (by decide)
  · exact hanswers.unordered _ (List.reverse_perm _)

end ServiceLoom
