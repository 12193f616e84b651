import ServiceLoom.Proofs.Record.Order
import ServiceLoom.Proofs.Template.Weaving
import ServiceLoom.Proofs.Text.Blank
import Mathlib.Data.List.Induction
import Mathlib.Data.Nat.Find

/-!
# Calls to a weaver

From any text to what is woven from it.  A text is no skeleton when one of its
markers has no name, or the name of an earlier one, and the first such line is
reported.  All else is a skeleton, whatever stands in it and however it ends:
only the last line of a text can lack its line break, and if it is a marker it
gets one.  Calls then add texts to hooks and never look into them, so all that
counts in the end is which texts came to a hook, and in which order.

* `segmentsFrom_eq_error_iff` — reading stops at the first fault;
* `segmentsFrom_map_closeMarker` — marker lines may be taken as ended;
* `Weaver.call_takes` — what a run of calls adds;
* `Weaver.parse_call` — the whole way.
-/

namespace ServiceLoom.Template

/-! ## Faults -/

/-- What is wrong with a line of a text: it is a marker without a name, or with
the name of an earlier one.  Lines are counted from 1 in reports. -/
def faultAt? (ls : List (List Char)) (i : Nat) : Option WeaveError :=
  (ls[i]?.bind hookName?).bind fun name =>
    if name = "" then some (.unnamedHook (i + 1))
    else if name ∈ (ls.take i).filterMap hookName? then
      some (.duplicateHook name (i + 1))
    else none

/-- A line beyond the end has no fault. -/
theorem faultAt?_of_le {ls : List (List Char)} {i : Nat} (h : ls.length ≤ i) :
    faultAt? ls i = none := by
  rw [faultAt?, List.getElem?_eq_none h]
  rfl

/-- A fault depends on the line and those before it. -/
theorem faultAt?_append (before : List (List Char)) (line : List Char)
    (after : List (List Char)) :
    faultAt? (before ++ line :: after) before.length =
      (hookName? line).bind fun name =>
        if name = "" then some (.unnamedHook (before.length + 1))
        else if name ∈ before.filterMap hookName? then
          some (.duplicateHook name (before.length + 1))
        else none := by
  rw [faultAt?, List.getElem?_append_right le_rfl, Nat.sub_self, List.take_left]
  rfl

/-- The first fault from a line on. -/
def IsFirstFault (ls : List (List Char)) (start : Nat)
    (err : WeaveError) : Prop :=
  ∃ i, start ≤ i ∧ faultAt? ls i = some err ∧ ∀ j, start ≤ j →
    j < i → faultAt? ls j = none

/-- A fault of the line itself is the first. -/
theorem isFirstFault_here {ls : List (List Char)}
    {start : Nat} {found : WeaveError} (h : faultAt? ls start = some found)
    (err : WeaveError) : IsFirstFault ls start err ↔ found = err := by
  constructor
  · rintro ⟨i, hi, hfault, hfirst⟩
    rcases Nat.eq_or_lt_of_le hi with rfl | hlt
    · exact Option.some.inj (h.symm.trans hfault)
    · cases h.symm.trans (hfirst start le_rfl hlt)
  · rintro rfl
    exact ⟨start, le_rfl, h, fun j hle hlt => absurd hlt (Nat.not_lt.mpr hle)⟩

/-- A line without a fault can be passed over. -/
theorem isFirstFault_next {ls : List (List Char)} {start : Nat}
    (h : faultAt? ls start = none) (err : WeaveError) :
    IsFirstFault ls start err ↔ IsFirstFault ls (start + 1) err := by
  constructor
  · rintro ⟨i, hi, hfault, hfirst⟩
    rcases Nat.eq_or_lt_of_le hi with rfl | hlt
    · cases h.symm.trans hfault
    · exact ⟨i, hlt, hfault, fun j hle => hfirst j (Nat.le_of_succ_le hle)⟩
  · rintro ⟨i, hi, hfault, hfirst⟩
    refine ⟨i, Nat.le_of_succ_le hi, hfault, fun j hle hlt => ?_⟩
    rcases Nat.eq_or_lt_of_le hle with rfl | hpast
    · exact h
    · exact hfirst j hpast hlt

/-- The first fault is there as soon as there is one at all. -/
theorem exists_isFirstFault_iff {ls : List (List Char)} :
    (∃ err, IsFirstFault ls 0 err) ↔ ∃ i err, faultAt? ls i = some err := by
  constructor
  · rintro ⟨err, i, -, hfault, -⟩
    exact ⟨i, err, hfault⟩
  · intro hsome
    classical
    obtain ⟨err, hfault⟩ := Nat.find_spec hsome
    refine ⟨err, Nat.find hsome, Nat.zero_le _, hfault, fun j _ hlt => ?_⟩
    exact Option.eq_none_iff_forall_ne_some.mpr fun other hother =>
      Nat.find_min hsome hlt ⟨other, hother⟩

/-- **Reading stops at the first fault.** `before` are the lines that have been
read; their hooks have been entered. -/
theorem segmentsFrom_eq_error_iff {err : WeaveError}
    {rest before : List (List Char)} {slots : Dict (List String)}
    (hslots : ∀ name, slots.contains name = true ↔
      name ∈ before.filterMap hookName?) (text : String) :
    segmentsFrom (before.length + 1) text slots rest = .error err ↔
      IsFirstFault (before ++ rest) before.length err := by
  induction rest generalizing before slots text with
  | nil =>
      constructor
      · intro h
        cases h
      · rintro ⟨i, hi, hfault, -⟩
        rw [List.append_nil, faultAt?_of_le hi] at hfault
        cases hfault
  | cons line rest ih =>
      have hhere := faultAt?_append before line rest
      have hnext : before ++ line :: rest = (before ++ [line]) ++ rest := by
        simp
      have hlength : before.length + 1 = (before ++ [line]).length := by simp
      rw [segmentsFrom]
      dsimp only
      cases hhook : hookName? line with
      | none =>
          rw [hhook] at hhere
          rw [isFirstFault_next hhere, hnext, hlength]
          refine ih (fun name => ?_) _
          rw [hslots, List.filterMap_append, List.filterMap_cons_none hhook,
            List.filterMap_nil, List.append_nil]
      | some name =>
          rw [hhook, Option.bind_some] at hhere
          dsimp only
          split
          next hempty =>
            rw [if_pos hempty] at hhere
            rw [isFirstFault_here hhere, Except.error.injEq]
          next hfilled =>
            rw [if_neg hfilled] at hhere
            split
            next hold =>
              rw [if_pos ((hslots name).mp hold)] at hhere
              rw [isFirstFault_here hhere, Except.error.injEq]
            next hnew =>
              rw [if_neg (mt (hslots name).mpr hnew)] at hhere
              rw [isFirstFault_next hhere, hnext, hlength]
              have hentered :
                  ∀ other, Dict.contains (slots.insert name []) other = true ↔
                  other ∈ (before ++ [line]).filterMap hookName? := by
                intro other
                rw [contains_insert, hslots, List.filterMap_append,
                  List.filterMap_cons_some hhook]
                simp [or_comm]
              rw [← ih hentered ""]
              cases segmentsFrom (before ++ [line]).length.succ
                  "" (slots.insert name []) rest with
              | error other => exact Iff.rfl
              | ok found => constructor <;> (intro h; cases h)

/-- A text without faults has hooks with names of their own. -/
theorem nodup_of_faultless {ls : List (List Char)}
    (h : ∀ i, faultAt? ls i = none) :
    (ls.filterMap hookName?).Nodup ∧ "" ∉ ls.filterMap hookName? := by
  induction ls using List.reverseRecOn with
  | nil => simp
  | append_singleton before line ih =>
      have hbefore : ∀ i, faultAt? before i = none := by
        intro i
        by_cases hi : i < before.length
        · have hwhole := h i
          rw [faultAt?, List.getElem?_append_left hi,
            List.take_append_of_le_length hi.le] at hwhole
          exact hwhole
        · exact faultAt?_of_le (Nat.not_lt.mp hi)
      obtain ⟨hnodup, hnamed⟩ := ih hbefore
      have hline := h before.length
      rw [faultAt?_append] at hline
      cases hhook : hookName? line with
      | none =>
          rw [List.filterMap_append, List.filterMap_cons_none hhook,
            List.filterMap_nil, List.append_nil]
          exact ⟨hnodup, hnamed⟩
      | some name =>
          rw [hhook, Option.bind_some] at hline
          split at hline
          · cases hline
          next hfilled =>
            split at hline
            · cases hline
            next hnew =>
              rw [List.filterMap_append, List.filterMap_cons_some hhook,
                List.filterMap_nil, ← List.concat_eq_append, List.nodup_concat,
                List.concat_eq_append, List.mem_append, List.mem_singleton]
              exact ⟨⟨hnew, hnodup⟩, not_or.mpr ⟨hnamed, Ne.symm hfilled⟩⟩

/-! ## Lines that end -/

/-- The empty text is no marker. -/
theorem hookName?_nil : hookName? [] = none := by decide

/-- What is given a line break ends with one. -/
theorem getLast?_withLineBreak (s : String) :
    (withLineBreak s).toList.getLast? = some '\n' := by
  unfold withLineBreak
  split
  · assumption
  · simp [String.toList_append]

/-- A line that is followed by a line break if it is a marker. -/
def closeMarker (line : List Char) : List Char :=
  if (hookName? line).isSome then
    (withLineBreak (String.ofList line)).toList
  else line

/-- A line break at its end says nothing about a line. -/
theorem hookName?_withLineBreak (line : List Char) :
    hookName? (withLineBreak (String.ofList line)).toList = hookName? line := by
  have htrim : Text.trimChars (withLineBreak (String.ofList line)).toList =
      Text.trimChars line := by
    unfold withLineBreak
    split
    · rw [String.toList_ofList]
    · rw [String.toList_append, String.toList_ofList]
      exact Text.trimChars_concat (by decide) line
  rw [hookName?, hookName?, htrim]

theorem hookName?_closeMarker (line : List Char) :
    hookName? (closeMarker line) = hookName? line := by
  unfold closeMarker
  split
  · exact hookName?_withLineBreak line
  · rfl

/-- Ended or not, lines open the same hooks. -/
theorem filterMap_map_closeMarker (ls : List (List Char)) :
    (ls.map closeMarker).filterMap hookName? = ls.filterMap hookName? := by
  rw [List.filterMap_map]
  exact List.filterMap_congr fun line _ => hookName?_closeMarker line

/-- A text that ends with a line break has one after what is put before it. -/
theorem withLineBreak_append {s t : String} (h : t.toList ≠ []) :
    withLineBreak (s ++ withLineBreak t) = withLineBreak (s ++ t) := by
  by_cases hend : t.toList.getLast? = some '\n'
  · rw [withLineBreak_eq hend]
  · have hopen : ¬ (s ++ t).toList.getLast? = some '\n' := by
      rw [String.toList_append, List.getLast?_append_of_ne_nil _ h]
      exact hend
    have hclosed : (s ++ (t ++ "\n")).toList.getLast? = some '\n' := by
      simp [String.toList_append]
    rw [withLineBreak, withLineBreak, withLineBreak,
      if_neg hend, if_pos hclosed, if_neg hopen, String.append_assoc]

/-- **Marker lines may be taken as ended**: reading gives the same, for a marker
closes the text before it. -/
theorem segmentsFrom_map_closeMarker (number : Nat) (text : String)
    (slots : Dict (List String)) (rest : List (List Char)) :
    segmentsFrom number text slots (rest.map closeMarker) =
      segmentsFrom number text slots rest := by
  induction rest generalizing number text slots with
  | nil => rfl
  | cons line rest ih =>
      rw [List.map_cons, segmentsFrom, segmentsFrom, hookName?_closeMarker]
      dsimp only
      cases hhook : hookName? line with
      | none =>
          have hline : closeMarker line = line := by simp [closeMarker, hhook]
          rw [hline]
          exact ih _ _ _
      | some name =>
          have hline : String.ofList (closeMarker line) =
              withLineBreak (String.ofList line) := by
            simp [closeMarker, hhook]
          have hfilled : (String.ofList line).toList ≠ [] := by
            rintro hempty
            rw [String.toList_ofList] at hempty
            cases hhook.symm.trans
              ((congrArg hookName? hempty).trans hookName?_nil)
          dsimp only
          rw [hline, withLineBreak_append hfilled, ih]

/-- A line with what stands below it.  A marker line always ends. -/
def expandedLine (content : String → List String) (line : List Char) :
    List String :=
  match hookName? line with
  | none => [String.ofList line]
  | some name => withLineBreak (String.ofList line) :: content name

theorem wovenLine_closeMarker (content : String → List String)
    (line : List Char) :
    wovenLine content (closeMarker line) = expandedLine content line := by
  unfold wovenLine expandedLine
  rw [hookName?_closeMarker]
  cases hhook : hookName? line with
  | none => simp [closeMarker, hhook]
  | some name => simp [closeMarker, hhook]

namespace Weaver

/-- A text is refused for its first fault. -/
theorem parse_eq_error_iff {skeleton : String} {err : WeaveError} :
    parse skeleton = .error err ↔
    IsFirstFault (lines skeleton.toList) 0 err := by
  have hnone : ∀ name, Dict.contains ([] : Dict (List String)) name = true ↔
      name ∈ ([] : List (List Char)).filterMap hookName? :=
        fun name => by simp [Dict.contains]
  have hread : segmentsFrom 1 "" [] (lines skeleton.toList) = .error err ↔
      IsFirstFault (lines skeleton.toList) 0 err :=
        segmentsFrom_eq_error_iff hnone ""
  rw [← hread, parse]
  cases segmentsFrom 1 "" [] (lines skeleton.toList) with
  | error other => constructor <;> (intro h; cases h; rfl)
  | ok found => constructor <;> (intro h; cases h)

/-- The hooks of a skeleton have names of their own. -/
theorem nodup_of_parse {skeleton : String} {w : Weaver}
    (h : parse skeleton = .ok w) :
    (hookNames skeleton).Nodup ∧ "" ∉ hookNames skeleton := by
  refine nodup_of_faultless fun i =>
    Option.eq_none_iff_forall_ne_some.mpr fun err hfault => ?_
  obtain ⟨first, hfirst⟩ := exists_isFirstFault_iff.mpr ⟨i, err, hfault⟩
  cases h.symm.trans (parse_eq_error_iff.mpr hfirst)

/-- What reading a skeleton gives, if it has a hook for methods. -/
theorem found_of_parse {skeleton : String} {w : Weaver}
    (h : parse skeleton = .ok w) (hmethods : methodsHook ∈ hookNames skeleton) :
    FoundIn "" [] ((lines skeleton.toList).map closeMarker) w.segments w.slots ∧
    w.methods = [] ∧ w.warnings = [] := by
  have hnames : ((lines skeleton.toList).map closeMarker).filterMap hookName? =
      hookNames skeleton :=
    filterMap_map_closeMarker _
  have hends : ∀ line ∈ (lines skeleton.toList).map closeMarker,
      (hookName? line).isSome →
      line.getLast? = some '\n' := by
    intro closed hclosed hmarker
    obtain ⟨line, -, rfl⟩ := List.mem_map.mp hclosed
    rw [hookName?_closeMarker] at hmarker
    rw [closeMarker, if_pos hmarker]
    exact getLast?_withLineBreak _
  obtain ⟨hnodup, hnamed⟩ := nodup_of_parse h
  rw [← hnames] at hnodup hnamed hmethods
  obtain ⟨segments, found, hok, hfound⟩ :=
    segmentsFrom_spec hends hnodup hnamed 1 "" []
      (fun _ _ => Bool.false_ne_true) (.inl hmethods)
  rw [segmentsFrom_map_closeMarker] at hok
  rw [parse, hok] at h
  obtain rfl := Except.ok.inj h
  exact ⟨hfound, rfl, rfl⟩

end Weaver

/-! ## Calls -/

/-- A call to a weaver. -/
inductive Call where
  | inject (hook fragment : String)
  | appendMethod (method : String)
deriving DecidableEq, Repr

namespace Call

/-- The hook at which a call registers its text; for methods the hook that
collects them. -/
def hook : Call → String
  | inject hook _ => hook
  | appendMethod _ => methodsHook

/-- The text of a call. -/
def text : Call → String
  | inject _ fragment => fragment
  | appendMethod method => method

/-- What a call makes of a weaver. -/
def run (w : Weaver) : Call → Weaver
  | inject hook fragment => w.inject hook fragment
  | appendMethod method => w.appendMethod method

end Call

/-- The texts that calls register at a hook, in order. -/
def registered (calls : List Call) (hook : String) : List String :=
  (calls.filter (·.hook = hook)).map (·.text)

/-- What is said of a hook that is not there. -/
def missingHook (hook : String) : String :=
  "hook '" ++ hook ++ "' not found in skeleton; fragment skipped"

theorem registered_append (calls others : List Call) (hook : String) :
    registered (calls ++ others) hook = registered calls hook ++
      registered others hook := by
  rw [registered, List.filter_append, List.map_append]
  rfl

/-- Calls at different hooks may change places: each hook is given the same
texts in the same order. -/
theorem registered_swap {a b : Call} (h : a.hook ≠ b.hook)
    (before after : List Call) (hook : String) :
    registered (before ++ a :: b :: after) hook =
      registered (before ++ b :: a :: after) hook := by
  have hpair : registered [a, b] hook = registered [b, a] hook := by
    by_cases ha : a.hook = hook
    · have hb : b.hook ≠ hook := fun hb => h (ha.trans hb.symm)
      simp [registered, ha, hb]
    · by_cases hb : b.hook = hook <;> simp [registered, ha, hb]
  have hsplit : ∀ x y : Call, before ++ x :: y :: after =
      before ++ ([x, y] ++ after) := fun _ _ => rfl
  rw [hsplit, hsplit, registered_append, registered_append,
    registered_append, registered_append, hpair]

namespace Weaver

variable {w w' w'' : Weaver}

/-- Runs calls one after the other. -/
def call (w : Weaver) (calls : List Call) : Weaver := calls.foldl Call.run w

/-- What calls make of a weaver: the texts come to their hooks, and there is a
warning for each call at a hook that is not there.  Nothing else changes. -/
structure Takes (w w' : Weaver) (calls : List Call) : Prop where
  segments : w'.segments = w.segments
  methods : w'.methods = w.methods
  warnings : w'.warnings = w.warnings ++
    (calls.filter fun c => !w.hasHook c.hook).map (missingHook ·.hook)
  slots : ∀ name, w'.slots.get? name =
    (w.slots.get? name).map (· ++ registered calls name)

theorem Takes.refl (w : Weaver) : w.Takes w [] :=
  ⟨rfl, rfl, (List.append_nil _).symm, fun name => by simp [registered]⟩

/-- The hooks stay the same. -/
theorem Takes.hasHook {calls : List Call} (h : w.Takes w' calls)
    (name : String) : w'.hasHook name = w.hasHook name := by
  rw [Weaver.hasHook, Weaver.hasHook, Dict.contains,
    Dict.contains, h.slots, Option.isSome_map]

theorem Takes.trans {calls others : List Call} (h : w.Takes w' calls)
    (h' : w'.Takes w'' others) : w.Takes w'' (calls ++ others) where
  segments := h'.segments.trans h.segments
  methods := h'.methods.trans h.methods
  warnings := by
    rw [h'.warnings, h.warnings, List.filter_append,
      List.map_append, List.append_assoc]
    simp only [h.hasHook]
  slots name := by simp [h'.slots, h.slots, registered_append,
    Function.comp_def, List.append_assoc]

/-- A hook that is not there adds a warning. -/
theorem inject_of_not_hasHook {hook : String} (h : w.hasHook hook = false)
    (fragment : String) :
    w.inject hook fragment =
      { w with warnings := w.warnings ++ [missingHook hook] } := by
  have hnone : w.slots.get? hook = none :=
    Option.isSome_eq_false_iff.mp h |> Option.isNone_iff_eq_none.mp
  rw [inject, hnone]
  rfl

/-- With a hook for methods every call is an injection. -/
theorem run_eq_inject (h : w.hasHook methodsHook = true) (c : Call) :
    c.run w = w.inject c.hook c.text := by
  cases c with
  | inject hook fragment => rfl
  | appendMethod method => exact appendMethod_eq_inject h method

/-- **One call** comes to its hook, or is warned about. -/
theorem run_takes (h : w.hasHook methodsHook = true) (c : Call) :
    w.Takes (c.run w) [c] := by
  rw [run_eq_inject h]
  cases hhook : w.hasHook c.hook with
  | true =>
      have hgathers := inject_gathers hhook c.text
      refine ⟨hgathers.segments, hgathers.methods,
        by simp [hgathers.warnings, hhook], fun name => ?_⟩
      rw [hgathers.slots]
      by_cases heq : c.hook = name <;> simp [registered, heq]
  | false =>
      rw [inject_of_not_hasHook hhook]
      refine ⟨rfl, rfl, by simp [hhook], fun name => ?_⟩
      by_cases heq : c.hook = name
      · have hnone : w.slots.get? name = none := by
          rw [← heq]
          exact Option.isNone_iff_eq_none.mp
            (Option.isSome_eq_false_iff.mp hhook)
        simp [hnone]
      · simp [registered, heq]

/-- **Any run of calls** does what its calls do. -/
theorem call_takes (h : w.hasHook methodsHook = true) (calls : List Call) :
    w.Takes (w.call calls) calls := by
  induction calls generalizing w with
  | nil => exact Takes.refl w
  | cons c rest ih =>
      have hfirst := run_takes h c
      exact hfirst.trans (ih ((hfirst.hasHook _).trans h))

/-- Injections at different hooks may change places, if one of the hooks is
there. -/
theorem inject_comm {hook other : String} (hne : hook ≠ other)
    (h : w.hasHook hook = true ∨ w.hasHook other = true) (s t : String) :
    (w.inject hook s).inject other t = (w.inject other t).inject hook s := by
  cases hslot : w.slots.get? hook with
  | none =>
      cases hother : w.slots.get? other with
      | none => simp [Weaver.hasHook, Dict.contains, hslot, hother] at h
      | some texts =>
          simp [inject, hslot, hother, Dict.get?_insert_of_ne _ _ hne]
  | some texts =>
      cases hother : w.slots.get? other with
      | none =>
          simp [inject, hslot, hother, Dict.get?_insert_of_ne _ _ (Ne.symm hne)]
      | some others =>
          simp [inject, hslot, hother, Dict.get?_insert_of_ne _ _ hne,
            Dict.get?_insert_of_ne _ _ (Ne.symm hne), Dict.insert_comm _ hne]

/-- So may calls, in the middle of a run. -/
theorem call_swap (hmethods : w.hasHook methodsHook = true)
    {a b : Call} (hne : a.hook ≠ b.hook)
    (h : w.hasHook a.hook = true ∨ w.hasHook b.hook = true)
    (before after : List Call) :
    w.call (before ++ a :: b :: after) =
      w.call (before ++ b :: a :: after) := by
  have hbefore := call_takes hmethods before
  have hmethods' : (w.call before).hasHook methodsHook = true :=
    (hbefore.hasHook _).trans hmethods
  have hafter : ∀ c :
      Call, (c.run (w.call before)).hasHook methodsHook = true :=
    fun c => ((run_takes hmethods' c).hasHook _).trans hmethods'
  rw [← hbefore.hasHook, ← hbefore.hasHook b.hook] at h
  have hswap : b.run (a.run (w.call before)) =
      a.run (b.run (w.call before)) := by
    rw [run_eq_inject (hafter a), run_eq_inject (hafter b),
      run_eq_inject hmethods', run_eq_inject hmethods', inject_comm hne h]
  rw [call, call, List.foldl_append, List.foldl_append, List.foldl_cons,
    List.foldl_cons, List.foldl_cons, List.foldl_cons]
  exact congrArg (after.foldl Call.run) hswap

end Weaver

/-- What a skeleton has become after calls. -/
structure Outcome (skeleton : String) (calls : List Call)
    (w : Weaver) : Prop where
  /-- The lines in order, and below the marker of a hook exactly the texts that
  were registered there, in the order of the calls, each as it is and with a
  line break at its end. -/
  woven : w.woven = String.join ((lines skeleton.toList).flatMap
    (expandedLine fun name => (registered calls name).map withLineBreak))
  /-- One warning for each call at a hook that is not there. -/
  warnings : w.warnings =
    (calls.filter (·.hook ∉ hookNames skeleton)).map (missingHook ·.hook)
  /-- No text opens a hook, whatever it looks like. -/
  hasHook_iff : ∀ name, w.hasHook name = true ↔ name ∈ hookNames skeleton
  /-- A further fragment for a hook that is not there adds its warning and
  nothing else. -/
  inject_missing : ∀ hook fragment, hook ∉ hookNames skeleton →
    w.inject hook fragment =
      { w with warnings := w.warnings ++ [missingHook hook] }

namespace Weaver

variable {skeleton : String} {w : Weaver}

/-- The hooks of a skeleton are those of its markers. -/
theorem hasHook_iff_of_parse (h : parse skeleton = .ok w)
    (hmethods : methodsHook ∈ hookNames skeleton) (name : String) :
    w.hasHook name = true ↔ name ∈ hookNames skeleton := by
  obtain ⟨hfound, -, -⟩ := found_of_parse h hmethods
  rw [Weaver.hasHook, Dict.contains, hfound.get?_found,
    filterMap_map_closeMarker, ← hookNames]
  split <;> simp [*]

/-- What calls make of a skeleton. -/
theorem outcome_of_parse (h : parse skeleton = .ok w)
    (hmethods : methodsHook ∈ hookNames skeleton) (calls : List Call) :
    Outcome skeleton calls (w.call calls) := by
  obtain ⟨hfound, hnone, hsilent⟩ := found_of_parse h hmethods
  have hhooks := hasHook_iff_of_parse h hmethods
  have htakes := call_takes ((hhooks _).mpr hmethods) calls
  have hiff : ∀ name, (w.call calls).hasHook name = true ↔
      name ∈ hookNames skeleton :=
    fun name => by rw [htakes.hasHook, hhooks]
  refine ⟨?_, ?_, hiff, fun hook fragment hmissing => ?_⟩
  · rw [woven_of_found hfound htakes.segments (htakes.methods.trans hnone)
      htakes.slots, List.flatMap_map]
    exact congrArg String.join (List.flatMap_congr fun line _ =>
      wovenLine_closeMarker _ line)
  · rw [htakes.warnings, hsilent, List.nil_append]
    refine congrArg _ (List.filter_congr fun c _ => ?_)
    simp [← hhooks]
  · exact inject_of_not_hasHook
      (Bool.eq_false_iff.mpr (mt (hiff hook).mp hmissing)) fragment

/-- **From a text to what is woven.** A text is refused exactly when one of its
markers has no name or repeats the name of an earlier one, and the first such
line is reported.  If it is accepted and has a hook for methods, then after any
calls its lines stand in order, with what was registered at a hook right below
the marker.  Calls at different hooks may change places: the text stays the same
and the warnings are rearranged, and if only one of the two is warned about or
neither, nothing at all is different. -/
theorem parse_call (skeleton : String) :
    (∀ err, parse skeleton = .error err ↔
      IsFirstFault (lines skeleton.toList) 0 err) ∧
    ((∃ err, parse skeleton = .error err) ↔
      ∃ i err, faultAt? (lines skeleton.toList) i = some err) ∧
    ∀ w, parse skeleton = .ok w → methodsHook ∈ hookNames skeleton →
      (∀ calls, Outcome skeleton calls (w.call calls)) ∧
      ∀ a b : Call, a.hook ≠ b.hook → ∀ before after,
        (w.call (before ++ a :: b :: after)).woven =
          (w.call (before ++ b :: a :: after)).woven ∧
        (w.call (before ++ a :: b :: after)).warnings.Perm
          (w.call (before ++ b :: a :: after)).warnings ∧
        (a.hook ∈ hookNames skeleton ∨ b.hook ∈ hookNames skeleton →
          w.call (before ++ a :: b :: after) =
            w.call (before ++ b :: a :: after)) := by
  refine ⟨fun err => parse_eq_error_iff, ?_, fun w h hmethods =>
    ⟨outcome_of_parse h hmethods, ?_⟩⟩
  · rw [← exists_isFirstFault_iff]
    exact exists_congr fun err => parse_eq_error_iff
  · intro a b hne before after
    have hfirst := outcome_of_parse h hmethods (before ++ a :: b :: after)
    have hsecond := outcome_of_parse h hmethods (before ++ b :: a :: after)
    have hhooks := hasHook_iff_of_parse h hmethods
    refine ⟨?_, ?_, fun hdeclared => ?_⟩
    · rw [hfirst.woven, hsecond.woven]
      simp only [registered_swap hne]
    · rw [hfirst.warnings, hsecond.warnings]
      exact ((List.Perm.swap b a after).append_left before |>.filter _).map _
    · exact call_swap ((hhooks _).mpr hmethods) hne
        (hdeclared.imp (hhooks _).mpr (hhooks _).mpr) before after

end Weaver

/-- A text with nested and adjacent markers and other line breaks, whose last
marker has no line break. -/
def nestedSkeleton : String :=
  "fn f\r\n    // @HOOK: ONE\r\n  // @HOOK:ADDITIONAL_METHODS \nend\n// @HOOK: LAST"

/-- Calls at all hooks of the text and at another one.  One text looks like a
marker. -/
def nestedCalls : List Call :=
  [.inject "ONE" "first", .appendMethod "// @HOOK: OTHER",
    .inject "OTHER" "lost", .inject "LAST" "last\n", .inject "ONE" "second"]

/-- What is woven from the text, and that it is the same when the middle calls
change places. -/
theorem nestedSkeleton_woven : ∃ w, Weaver.parse nestedSkeleton = .ok w ∧
      methodsHook ∈ hookNames nestedSkeleton ∧
    (w.call nestedCalls).woven =
      "fn f\r\n    // @HOOK: ONE\r\nfirst\nsecond\n  // @HOOK:ADDITIONAL_METHODS \n" ++
      "// @HOOK: OTHER\nend\n// @HOOK: LAST\nlast\n" ∧
    (w.call nestedCalls).warnings =
      ["hook 'OTHER' not found in skeleton; fragment skipped"] ∧
    (w.call nestedCalls).hasHook "OTHER" = false ∧
    w.call nestedCalls = w.call [.inject "ONE" "first",
      .appendMethod "// @HOOK: OTHER", .inject "LAST" "last\n",
      .inject "OTHER" "lost", .inject "ONE" "second"] := by
  obtain ⟨w, hw⟩ : ∃ w, Weaver.parse nestedSkeleton = .ok w := ⟨_, rfl⟩
  have hnames : hookNames nestedSkeleton = ["ONE", methodsHook, "LAST"] := by
    decide +kernel
  have hmethods : methodsHook ∈ hookNames nestedSkeleton := by
    rw [hnames]
    decide
  obtain ⟨-, -, hparsed⟩ := Weaver.parse_call nestedSkeleton
  obtain ⟨hcalls, hswap⟩ := hparsed w hw hmethods
  have houtcome := hcalls nestedCalls
  refine ⟨w, hw, hmethods, ?_, ?_, ?_, ?_⟩
  · exact houtcome.woven.trans (by decide +kernel)
  · exact houtcome.warnings.trans (by rw [hnames]; decide +kernel)
  · exact Bool.eq_false_iff.mpr
      (mt (houtcome.hasHook_iff "OTHER").mp (by rw [hnames]; decide))
  · exact (hswap (.inject "OTHER" "lost") (.inject "LAST" "last\n") (by decide)
      [.inject "ONE" "first",
        .appendMethod "// @HOOK: OTHER"] [.inject "ONE" "second"]).2.2
      (.inr (by rw [hnames]; decide))

end ServiceLoom.Template
