import ServiceLoom.Proofs.Operation.Adjustments
import ServiceLoom.Proofs.Store.Faults

/-!
# Moving stock

A move takes a quantity from a row and then gives it: to the first row that the
filter for its item and location finds, or to a row that is opened.  That is up
to four calls, two of which write.

What the quantity is does not matter for where it goes, so the row that a move
gives to is the one that the filter finds before anything is taken
(`Move.destination?_taken`).  A move that is answered therefore leaves one of
three lists of rows behind (`Move.Gives`, `Move.exists_answered`): what was
taken is back where it was, or in another row, or in one that is opened for it.

A move can fail in the middle.  Then what was taken is not given to any row;
otherwise a move that fails leaves all rows as they were (`Move.failed`).

Rows are of one item when they name the same item or none.  The filter asks for
the item only if the row that is taken from names one.  So a move of a row that
does stays within its item, and a move of one that does not can give to a row of
any item (`Move.sameItem_iff`).
-/

namespace ServiceLoom

/-! ## Rows with another quantity -/

/-- Rows with the same entries under the names of a filter agree with it
alike. -/
theorem Access.agrees_congr {filter row other : Record}
    (h : ∀ e ∈ filter, row.get? e.1 = other.get? e.1) :
    agrees filter row = agrees filter other := by
  rw [Bool.eq_iff_iff, agrees, agrees, List.all_eq_true, List.all_eq_true]
  refine forall₂_congr fun e he => ?_
  dsimp only
  rw [h e he]

namespace Record

/-- A row with another quantity. -/
def recounted (row : Record) (x : Float) (now : Json) : Record :=
  row.patched [("quantity", .ofFloat x)] now

variable {row item : Record} {x : Float} {now : Json}

theorem get?_quantity_recounted :
    (row.recounted x now).get? "quantity" = some (.ofFloat x) := by
  rw [recounted, get?_patched (by decide)]
  exact Dict.get?_insert_self row _ _

theorem get?_recounted {name : String} (hquantity : name ≠ "quantity")
    (hupdated : name ≠ "updated_at") :
    (row.recounted x now).get? name = row.get? name :=
  get?_patched_single row _ _ hquantity hupdated

@[simp] theorem id?_recounted : (row.recounted x now).id? = row.id? :=
  id?_patched _ _ _

/-- Where an item is looked for, and whether it is the item, does not depend on
the quantity. -/
theorem agrees_recounted (location : String) :
    Access.agrees (targetFilter item location) (row.recounted x now) =
    Access.agrees (targetFilter item location) row := by
  refine Access.agrees_congr fun e he => ?_
  have hname : e.1 = "location_id" ∨ e.1 = "sku" := by
    unfold targetFilter at he
    split at he
    · rcases List.mem_cons.mp he with rfl | he
      · exact Or.inl rfl
      · exact Or.inr (congrArg Prod.fst (List.mem_singleton.mp he))
    · exact Or.inl (congrArg Prod.fst (List.mem_singleton.mp he))
  rcases hname with hname | hname <;> rw [hname] <;> exact get?_recounted
      (by decide) (by decide)

/-- A row that is opened for an item has the entries of the item, but for those
that are its own. -/
theorem get?_opened {location id name : String} (hsystem : name ∉ systemFields)
    (hlocation : name ≠ "location_id") (hquantity : name ≠ "quantity") :
    ((movedRow item location x).stamped id now).get? name = item.get? name := by
  obtain ⟨hid, hcreated, hupdated⟩ := ne_of_notMem_systemFields hsystem
  rw [get?_stamped hsystem, movedRow, Dict.get?_insert_of_ne _ _ hquantity,
    Dict.get?_insert_of_ne _ _ hlocation]
  show (((item.erase "id").erase "created_at").erase "updated_at").get? name = _
  rw [Dict.get?_erase_of_ne _ hupdated, Dict.get?_erase_of_ne _ hcreated,
    Dict.get?_erase_of_ne _ hid]

/-- A row that is opened has the quantity that is given to it. -/
theorem get?_quantity_opened {location id : String} :
    ((movedRow item location x).stamped id now).get? "quantity" =
      some (.ofFloat x) := by
  rw [get?_stamped (by decide), movedRow, Dict.get?_insert_self]

/-- A row that is opened is at the location. -/
theorem get?_location_opened {location id : String} :
    ((movedRow item location x).stamped id now).get? "location_id" =
      some (.string location) := by
  rw [get?_stamped (by decide), movedRow,
    Dict.get?_insert_of_ne _ _ (by decide), Dict.get?_insert_self]

end Record

/-! ## Calls of a move -/

/-- A quantity of a row that is to be moved to a location. -/
structure Move where
  slug : String
  id : String
  location : String
  quantity : Float

namespace Move

variable (m : Move)

/-- The moving. -/
def procedure : Access Unit := moveStock m.slug m.id m.location m.quantity

/-- The row that a move takes from. -/
def source? (s : Store) : Option Record := s.find? m.slug m.id

/-- The row that a move gives to, if it does not open one. -/
def destination? (s : Store) (item : Record) : Option Record :=
  (s.rows m.slug).find? (Access.agrees (targetFilter item m.location))

/-- A row after the quantity is taken from it. -/
def debited (h : Host) (row : Record) : Record :=
  row.recounted (row.amount "quantity" - m.quantity) h.stamp

/-- A row after the quantity is given to it. -/
def credited (h : Host) (row : Record) : Record :=
  row.recounted (row.amount "quantity" + m.quantity) h.stamp

/-- What is left of a move of an item once the quantity is taken. -/
def giving (item : Record) : Access Unit := do
  match ← Access.matching m.slug (targetFilter item m.location) with
  | target :: _ =>
    let _ ← Access.patch m.slug (target.id?.getD "")
      [("quantity", .ofFloat (target.amount "quantity" + m.quantity))]
    .done ()
  | [] =>
    let _ ← Access.insert m.slug (movedRow item m.location m.quantity)
    .done ()

/-- A store after the quantity of a move is taken from an item. -/
def taken (h : Host) (s : Store) (item : Record) : Store :=
  (s.update h m.slug m.id
    [("quantity", .ofFloat (item.amount "quantity" - m.quantity))]).2

/-- A store after the quantity of a move is given to a row. -/
def given (h : Host) (s : Store) (row : Record) : Store :=
  (s.update h m.slug (row.id?.getD "")
    [("quantity", .ofFloat (row.amount "quantity" + m.quantity))]).2

/-- A move gets to take its quantity: there is a row for it that has enough, and
neither the look-up fails nor the first write. -/
def GetsToTake (m : Move) (s : Store) (faults : Faults) : Prop :=
  (∃ item, m.source? s = some item ∧ ¬ item.amount "quantity" < m.quantity) ∧
    faults 0 = false ∧ faults 1 = false

variable {m} {h : Host} {faults : Faults} {s t : Store} {item target : Record}
    {answer : Except Failure Unit}

/-- **A move** looks for its row and takes from it, if there is enough. -/
theorem runWith_procedure : m.procedure.runWith h faults s =
    if faults 0 then (.error (Call.findById.failure m.slug), s)
    else match m.source? s with
      | none => (.error (.refused (missingRow m.slug m.id)), s)
      | some item =>
        if item.amount "quantity" < m.quantity then
          (.error
            (.refused (.invalid "quantity" "Insufficient quantity to move")), s)
        else if faults 1 then (.error (Call.update.failure m.slug), s)
        else (m.giving item).runWith h faults.rest.rest (m.taken h s item) := by
  rw [procedure, moveStock, Access.runWith_row?_bind, source?]
  split
  · rfl
  · cases s.find? m.slug m.id with
    | none => rfl
    | some item =>
        dsimp only
        split
        · rfl
        · exact Access.runWith_patch_bind _ _

/-- **The two ways of a move.** It fails and leaves the store as it is, or it
takes and goes on to give. -/
theorem procedure_cases (hrun : m.procedure.runWith h faults s = (answer, t)) :
    (¬ m.GetsToTake s faults ∧ (∃ f, answer = .error f) ∧ t = s) ∨
      m.GetsToTake s faults ∧ ∃ item, m.source? s = some item ∧
        ¬ item.amount "quantity" < m.quantity ∧
        (m.giving item).runWith h faults.rest.rest (m.taken h s item) =
          (answer, t) := by
  rw [runWith_procedure] at hrun
  split at hrun
  next hfirst =>
    cases hrun
    refine .inl ⟨?_, ⟨_, rfl⟩, rfl⟩
    rintro ⟨-, hnone, -⟩
    cases hfirst.symm.trans hnone
  next hfirst =>
    cases hfound : m.source? s with
    | none =>
        rw [hfound] at hrun
        cases hrun
        refine .inl ⟨?_, ⟨_, rfl⟩, rfl⟩
        rintro ⟨⟨item, hitem, -⟩, -⟩
        cases hfound.symm.trans hitem
    | some item =>
        rw [hfound] at hrun
        dsimp only at hrun
        split at hrun
        next hshort =>
          cases hrun
          refine .inl ⟨?_, ⟨_, rfl⟩, rfl⟩
          rintro ⟨⟨other, hother, henough⟩, -⟩
          obtain rfl := Option.some.inj (hfound.symm.trans hother)
          exact henough hshort
        next henough =>
          split at hrun
          next hsecond =>
            cases hrun
            refine .inl ⟨?_, ⟨_, rfl⟩, rfl⟩
            rintro ⟨-, -, hnone⟩
            cases hsecond.symm.trans hnone
          next hsecond =>
            exact .inr ⟨⟨⟨item, hfound, henough⟩, by
              simpa using hfirst, by simpa using hsecond⟩, item, rfl, henough,
              hrun⟩

/-- Giving looks for a row of the item at the location, and patches it or opens
one. -/
theorem runWith_giving : (m.giving item).runWith h faults s =
    if faults 0 then (.error (Call.findAll.failure m.slug), s)
    else match m.destination? s item with
      | some target =>
          if faults 1 then (.error (Call.update.failure m.slug), s)
            else (.ok (), m.given h s target)
      | none =>
        if faults 1 then (.error (Call.create.failure m.slug), s)
        else match s.create h m.slug (movedRow item m.location m.quantity) with
          | (.ok _, left) => (.ok (), left)
          | (.error e, left) => (.error (.refused e), left) := by
  rw [giving, Access.runWith_matching_bind, destination?, ← List.head?_filter]
  split
  · rfl
  · cases (s.rows m.slug).filter
        (Access.agrees (targetFilter item m.location)) with
    | nil => exact Access.runWith_insert_bind _ _
    | cons target _ => exact Access.runWith_patch_bind _ _

/-- **The three ways of giving.** It fails as the store does and leaves the
rows, or the row that is found gets the quantity, or a row is opened with it. -/
theorem giving_cases (hrun : (m.giving item).runWith h faults s = (answer, t)) :
    ((∃ text, answer = .error (.refused (.storage text))) ∧
      ∀ slug, t.rows slug = s.rows slug) ∨
      (answer = .ok () ∧ ∃ target, m.destination? s item = some target ∧
        t = m.given h s target) ∨
      answer = .ok () ∧ m.destination? s item = none ∧
        (∃ id, t.rows m.slug = s.rows m.slug ++
          [(movedRow item m.location m.quantity).stamped id h.stamp]) ∧
        ∀ slug, slug ≠ m.slug → t.rows slug = s.rows slug := by
  rw [runWith_giving] at hrun
  split at hrun
  · cases hrun
    exact .inl ⟨⟨_, rfl⟩, fun _ => rfl⟩
  cases hdest : m.destination? s item with
  | some target =>
      rw [hdest] at hrun
      dsimp only at hrun
      split at hrun
      · cases hrun
        exact .inl ⟨⟨_, rfl⟩, fun _ => rfl⟩
      · cases hrun
        exact .inr (.inl ⟨rfl, target, rfl, rfl⟩)
  | none =>
      rw [hdest] at hrun
      dsimp only at hrun
      split at hrun
      · cases hrun
        exact .inl ⟨⟨_, rfl⟩, fun _ => rfl⟩
      · have hcases :=
          s.create_cases h m.slug (movedRow item m.location m.quantity)
        have hstorage := @Store.exists_storage_of_create
            s h m.slug (movedRow item m.location m.quantity)
        generalize s.create h m.slug (movedRow item m.location m.quantity) =
            made at hrun hcases hstorage
        obtain ⟨outcome, left⟩ := made
        rcases hcases with ⟨⟨e, rfl⟩, hsame⟩ | ⟨id, rfl, -, hopened, hothers⟩
        · cases hrun
          obtain ⟨text, rfl⟩ := hstorage rfl
          exact .inl ⟨⟨text, rfl⟩, hsame⟩
        · cases hrun
          exact .inr (.inr ⟨rfl, rfl, ⟨id, hopened⟩, hothers⟩)

/-! ## What moves leave behind -/

/-- A move takes from a row that has enough, at a position. -/
structure Takes (m : Move) (s : Store) (item : Record) (i : ℕ) : Prop where
  found : m.source? s = some item
  standing : (s.rows m.slug)[i]? = some item
  enough : ¬ item.amount "quantity" < m.quantity

/-- What a move leaves behind that has taken its quantity and has not given
it. -/
structure Debited (m : Move) (h : Host) (s t : Store) (item : Record)
    (i : ℕ) : Prop extends m.Takes s item i where
  rows : t.rows m.slug = (s.rows m.slug).set i (m.debited h item)
  others : ∀ slug, slug ≠ m.slug → t.rows slug = s.rows slug

/-- The rows of its collection that a move leaves behind when it gives what it
has taken. -/
inductive Gives (m : Move) (h : Host) (s : Store) (item : Record) (i : ℕ) :
  List Record → Prop
  /-- The quantity goes back to the row that it was taken from. -/
  | back (destination : m.destination? s item = some item) :
      Gives m h s item i ((s.rows m.slug).set i (m.credited h (m.debited h item)))
  /-- The quantity goes to another row. -/
  | across {target : Record} {j : ℕ}
      (destination : m.destination? s item = some target)
      (standing : (s.rows m.slug)[j]? = some target)
        (apart : target.id? ≠ item.id?) :
      Gives m h s item i
        (((s.rows m.slug).set i (m.debited h item)).set j (m.credited h target))
  /-- The quantity goes to a row that is opened for it. -/
  | opening {id : String} (destination : m.destination? s item = none) :
      Gives m h s item i ((s.rows m.slug).set i (m.debited h item) ++
        [(movedRow item m.location m.quantity).stamped id h.stamp])

/-- What a move leaves behind that is answered. -/
structure Answered (m : Move) (h : Host) (s t : Store) (item : Record)
    (i : ℕ) : Prop
    extends m.Takes s item i where
  gives : m.Gives h s item i (t.rows m.slug)
  others : ∀ slug, slug ≠ m.slug → t.rows slug = s.rows slug

/-- Taking changes the row where it stands. -/
theorem exists_debited (h : Host) (hfound : m.source? s = some item)
    (henough : ¬ item.amount "quantity" < m.quantity) :
    ∃ i, m.Debited h s (m.taken h s item) item i := by
  obtain ⟨i, -, hstanding, hrows⟩ := s.update_at h hfound _
  exact ⟨i, ⟨hfound, hstanding, henough⟩, hrows, fun slug hslug =>
    s.rows_update_of_ne h _ _ hslug⟩

/-- **The destination is where it was** before the quantity is taken.  If it is
the row that the quantity is taken from, it is found with what is left. -/
theorem destination?_taken (h : Host) (hrows : Identified (s.rows m.slug))
    (hfound : m.source? s = some item) :
    m.destination? (m.taken h s item) item =
      (m.destination? s item).map fun row =>
        if row.hasId m.id then m.debited h item else row := by
  rcases s.update_cases h m.slug m.id
      [("quantity", .ofFloat (item.amount "quantity" - m.quantity))] hrows with
    ⟨hnone, -⟩ | ⟨row, hrow, -, hmap, -⟩
  · cases hfound.symm.trans hnone
  · obtain rfl := Option.some.inj (hrow.symm.trans hfound)
    obtain ⟨hmem, hid⟩ := s.find?_some hrow
    -- The filter asks for nothing that taking changes.
    have hsame : ∀ other ∈ s.rows m.slug,
        Access.agrees (targetFilter row m.location)
          (if other.hasId m.id then m.debited h row else other) =
          Access.agrees (targetFilter row m.location) other := by
      intro other hother
      split
      next hotherid =>
        obtain rfl := hrows.eq_of_id hmem hother hid (beq_iff_eq.mp hotherid)
        exact Record.agrees_recounted m.location
      · rfl
    rw [destination?, taken, hmap, List.find?_map,
      destination?, ← List.head?_filter, ← List.head?_filter]
    refine congrArg (Option.map _ ∘ List.head?) ?_
    exact List.filter_congr hsame

/-- A patch of an identified row, with the position at which it stands. -/
theorem update_standing (h : Host) {slug id : String} {row : Record} {i : ℕ}
    (hrows : Identified (s.rows slug)) (hrow : (s.rows slug)[i]? = some row)
    (hid : row.id? = some id) (patch : Record) :
    (s.update h slug id patch).2.rows slug =
      (s.rows slug).set i (row.patched patch h.stamp) := by
  have hfind : s.find? slug id = some row :=
    hrows.find?_hasId_eq (List.mem_of_getElem? hrow) hid
  obtain ⟨j, hposition, -, hset⟩ := s.update_at h hfind patch
  obtain rfl :=
    Option.some.inj (hposition.symm.trans (Store.position_eq hrows hrow hid))
  exact hset

/-- Giving to a row that is found: the one that the quantity is taken from, with
what is left, or another. -/
theorem Debited.gives_found
    {left : Store} {i : ℕ} (hdebited : m.Debited h s left item i)
    (hrows : Identified (s.rows m.slug)) (hleft : Identified (left.rows m.slug))
    (htarget : m.destination? s item = some target) {row : Record}
    (hrow : row = if target.hasId m.id then m.debited h item else target) :
    m.Gives h s item i ((m.given h left row).rows m.slug) := by
  obtain ⟨hitem, hid⟩ := s.find?_some hdebited.found
  have hmem : target ∈ s.rows m.slug := List.mem_of_find?_eq_some htarget
  by_cases htaken : target.hasId m.id = true
  -- What is left is patched again where it stands, and of two patches at one
  -- position the second remains.
  · obtain rfl := hrows.eq_of_id hmem hitem (beq_iff_eq.mp htaken) hid
    have hstands : (left.rows m.slug)[i]? = some (m.debited h target) := by
      rw [hdebited.rows, List.getElem?_set_self
        (List.getElem?_eq_some_iff.mp hdebited.standing).1]
    have hdebitedId : (m.debited h target).id? = some m.id :=
      Record.id?_recounted.trans hid
    rw [hrow, if_pos htaken, given, hdebitedId, Option.getD_some,
      update_standing h hleft hstands hdebitedId, hdebited.rows, List.set_set]
    exact .back htarget
  · obtain ⟨targetId, htargetId⟩ :=
      Option.isSome_iff_exists.mp (hrows.id_isSome target hmem)
    have hapart : target.id? ≠ item.id? :=
      fun hsame => htaken (beq_iff_eq.mpr (hsame.trans hid))
    obtain ⟨j, hj⟩ := List.mem_iff_getElem?.mp hmem
    have hne : i ≠ j := by
      rintro rfl
      exact hapart
        (congrArg _ (Option.some.inj (hj.symm.trans hdebited.standing)))
    have hstands : (left.rows m.slug)[j]? = some target := by
      rw [hdebited.rows, List.getElem?_set_ne hne, hj]
    rw [hrow, if_neg htaken, given, htargetId, Option.getD_some,
      update_standing h hleft hstands htargetId, hdebited.rows]
    exact .across htarget hj hapart

/-- **What a move leaves behind that is answered**, whatever calls could have
failed. -/
theorem exists_answered (hrows : Identified (s.rows m.slug))
    (hrun : m.procedure.runWith h faults s = (.ok (), t)) :
    ∃ item i, m.Answered h s t item i := by
  rcases procedure_cases hrun with
      ⟨-, ⟨f, hfails⟩, -⟩ | ⟨-, item, hfound, henough, hgiving⟩
  · cases hfails
  obtain ⟨i, hdebited⟩ := exists_debited h hfound henough
  refine ⟨item, i, hdebited.toTakes, ?_, ?_⟩
  · have hdest := destination?_taken h hrows hfound
    rcases giving_cases hgiving with
        ⟨⟨text, hfails⟩, -⟩ | ⟨-, row, hrow, rfl⟩ | ⟨-, hnone, ⟨id, hopened⟩, -⟩
    · cases hfails
    · obtain ⟨target, htarget, rfl⟩ :=
        Option.map_eq_some_iff.mp (hdest.symm.trans hrow)
      exact hdebited.gives_found hrows
        (Store.identified_update hrows hrows h _ _) htarget rfl
    · rw [hopened, hdebited.rows]
      exact .opening (Option.map_eq_none_iff.mp (hdest.symm.trans hnone))
  · intro slug hslug
    refine Eq.trans ?_ (hdebited.others slug hslug)
    rcases giving_cases hgiving with
        ⟨-, hsame⟩ | ⟨-, row, -, rfl⟩ | ⟨-, -, -, hothers⟩
    · exact hsame slug
    · exact Store.rows_update_of_ne _ h _ _ hslug
    · exact hothers slug hslug

/-- **What a move leaves behind that is answered**, with an outage of some
calls. -/
theorem exists_answered_of_run
    {outage : Outage} (hrows : Identified (s.rows m.slug))
    (hrun : m.procedure.run h outage s = (.ok (), t)) :
    ∃ item i, m.Answered h s t item i := by
  obtain ⟨faults, hfaults⟩ := Access.exists_faults h outage m.procedure s
  exact exists_answered hrows (hfaults.trans hrun)

/-! ## Moves that fail -/

/-- **What a move leaves behind that fails.** If it got to take the quantity,
the quantity is taken and not given: all else is as it was, and the failure is
one of the store.  Otherwise every collection is as it was. -/
theorem failed {f : Failure}
    (hrun : m.procedure.runWith h faults s = (.error f, t)) :
    (m.GetsToTake s faults → (∃ item i, m.Debited h s t item i) ∧
      ∃ text, f = .refused (.storage text)) ∧
      (¬ m.GetsToTake s faults → ∀ slug, t.rows slug = s.rows slug) := by
  rcases procedure_cases hrun with
      ⟨hnot, -, rfl⟩ | ⟨htakes, item, hfound, henough, hgiving⟩
  · exact ⟨fun htakes => absurd htakes hnot, fun _ _ => rfl⟩
  refine ⟨fun _ => ?_, fun hnot => absurd htakes hnot⟩
  obtain ⟨i, hdebited⟩ := exists_debited h hfound henough
  rcases giving_cases hgiving with ⟨⟨text, hfails⟩, hsame⟩ | ⟨hok, -⟩ | ⟨hok, -⟩
  · refine ⟨⟨item, i, hdebited.toTakes, ?_, ?_⟩, text, Except.error.inj hfails⟩
    · rw [hsame, hdebited.rows]
    · exact fun slug hslug => (hsame slug).trans (hdebited.others slug hslug)
  · cases hok
  · cases hok

/-- Five parts at the front. -/
def fiveInFront : Store :=
  (Store.empty.create Tally.morning "parts" [("id", .string "x"),
    ("location_id", .string "front"),
    ("quantity", .ofFloat 5)]).2

/-- Two of the parts go to the back. -/
def twoToBack : Move := ⟨"parts", "x", "back", 2⟩

/-- The fourth call fails, which is to open the row at the back. -/
def fourthFails : Faults := (· == 3)

/-- The two parts are taken and not given. -/
theorem twoToBack_half_done :
    (twoToBack.procedure.runWith Tally.morning fourthFails fiveInFront).1 =
      .error (.refused (.storage "create parts failed")) ∧
    ∃ item i, twoToBack.Debited Tally.morning fiveInFront
      (twoToBack.procedure.runWith Tally.morning fourthFails fiveInFront).2
        item i := by
  have hfails :
      (twoToBack.procedure.runWith Tally.morning fourthFails fiveInFront).1 =
      .error (.refused (.storage "create parts failed")) := by decide +kernel
  have htakes : twoToBack.GetsToTake fiveInFront fourthFails :=
    ⟨⟨_, rfl, by decide +kernel⟩, rfl, rfl⟩
  exact ⟨hfails, ((failed (Prod.ext hfails rfl)).1 htakes).1⟩

/-- **A move that fails can have taken its quantity**: it is not so that every
collection is as it was. -/
theorem twoToBack_not_undone :
    ¬ ∀ f t, twoToBack.procedure.runWith Tally.morning fourthFails fiveInFront =
      (.error f, t) →
      ∀ slug, t.rows slug = fiveInFront.rows slug := by
  intro h
  have hfails :
      twoToBack.procedure.runWith Tally.morning fourthFails fiveInFront =
      (.error (.refused (.storage "create parts failed")),
        (twoToBack.procedure.runWith Tally.morning fourthFails fiveInFront).2) :=
    Prod.ext (by decide +kernel) rfl
  have hsame := congrArg (List.map Tally.ofParts.count?) (h _ _ hfails "parts")
  have hbefore : (fiveInFront.rows "parts").map Tally.ofParts.count? =
      [some 5] := by decide +kernel
  have hafter : ((twoToBack.procedure.runWith Tally.morning
      fourthFails fiveInFront).2.rows "parts").map
      Tally.ofParts.count? = [some 3] := by decide +kernel
  rw [hafter, hbefore] at hsame
  revert hsame
  decide +kernel

end Move

/-! ## Items -/

/-- Two rows are of one item: neither names one, or both name it with one
text. -/
def SameItem (row other : Record) : Prop :=
  (row.get? "sku").map Json.plainText = (other.get? "sku").map Json.plainText

instance (row other : Record) : Decidable (SameItem row other) :=
  inferInstanceAs (Decidable (_ = _))

theorem SameItem.of_get?_eq {row other : Record}
    (h : other.get? "sku" = row.get? "sku") : SameItem row other := by
  rw [SameItem, h]

theorem SameItem.trans {row other third : Record} (h : SameItem row other)
    (h' : SameItem other third) : SameItem row third := Eq.trans h h'

/-- A row of the item of a row that names none names none. -/
theorem SameItem.eq_none {row other : Record} (h : SameItem row other)
    (hrow : row.get? "sku" = none) : other.get? "sku" = none := by
  rw [SameItem, hrow] at h
  exact Option.map_eq_none_iff.mp h.symm

namespace Move

variable {m : Move} {h : Host} {s t : Store} {item target new : Record}
    {rows : List Record} {i : ℕ}

/-- The quantity of a row is not part of its item. -/
theorem sameItem_debited : SameItem item (m.debited h item) :=
  .of_get?_eq (Record.get?_recounted (by decide) (by decide))

theorem sameItem_credited : SameItem target (m.credited h target) :=
  .of_get?_eq (Record.get?_recounted (by decide) (by decide))

/-- The filter of a row that names its item finds rows of the item. -/
theorem sameItem_destination (hdest : m.destination? s item = some target)
    (hnamed : item.get? "sku" ≠ none) : SameItem item target := by
  obtain ⟨sku, hsku⟩ := Option.ne_none_iff_exists'.mp hnamed
  have hagrees : Access.agrees (targetFilter item m.location) target = true :=
    List.find?_some hdest
  rw [targetFilter, hsku, Access.agrees, List.all_eq_true] at hagrees
  have htext :=
    hagrees ("sku", sku) (List.mem_cons_of_mem _ (List.mem_singleton_self _))
  rw [SameItem, hsku]
  exact (beq_iff_eq.mp htext).symm

/-- **A row after a move** was there before, or is of the item that is moved, or
is the one that is given to. -/
theorem Gives.mem_cases (hgives : m.Gives h s item i rows) (hnew : new ∈ rows) :
    new ∈ s.rows m.slug ∨ SameItem item new ∨
      ∃ target ∈ s.rows m.slug, m.destination? s item = some target ∧
        new = m.credited h target := by
  cases hgives with
  | back hdest =>
      rcases List.mem_or_eq_of_mem_set hnew with hold | rfl
      · exact .inl hold
      · exact .inr (.inl (sameItem_debited.trans sameItem_credited))
  | across hdest hstanding hapart =>
      rcases List.mem_or_eq_of_mem_set hnew with hnew | rfl
      · rcases List.mem_or_eq_of_mem_set hnew with hold | rfl
        · exact .inl hold
        · exact .inr (.inl sameItem_debited)
      · exact .inr (.inr ⟨_, List.mem_of_getElem? hstanding, hdest, rfl⟩)
  | opening hdest =>
      rcases List.mem_append.mp hnew with hnew | hnew
      · rcases List.mem_or_eq_of_mem_set hnew with hold | rfl
        · exact .inl hold
        · exact .inr (.inl sameItem_debited)
      · rw [List.mem_singleton.mp hnew]
        exact .inr (.inl (.of_get?_eq
          (Record.get?_opened (by decide) (by decide) (by decide))))

/-- The row that is given to is there with its new quantity. -/
theorem Gives.credited_mem (hgives : m.Gives h s item i rows)
    (hdest : m.destination? s item = some target)
    (hapart : target.id? ≠ item.id?) : m.credited h target ∈ rows := by
  cases hgives with
  | back hback =>
      exact absurd (congrArg _ (Option.some.inj (hdest.symm.trans hback))) hapart
  | @across other j hother hstanding _ =>
      obtain rfl := Option.some.inj (hdest.symm.trans hother)
      have hlt := (List.getElem?_eq_some_iff.mp hstanding).1
      exact List.mem_set (by rwa [List.length_set]) _
  | opening hnone => cases hdest.symm.trans hnone

/-- A move gives to a row of another item: the row that it takes from names no
item, and the row that it gives to does and gets another quantity. -/
def Strays (m : Move) (s : Store) : Prop :=
  ∃ item target, m.source? s = some item ∧ m.destination? s item = some target ∧
    item.get? "sku" = none ∧
    target.get? "sku" ≠ none ∧ target.get? "quantity" ≠
      some (.ofFloat (target.amount "quantity" + m.quantity))

theorem strays_iff (hfound : m.source? s = some item) : m.Strays s ↔
    ∃ target, m.destination? s item = some target ∧
      item.get? "sku" = none ∧ target.get? "sku" ≠ none ∧
      target.get? "quantity" ≠
        some (.ofFloat (target.amount "quantity" + m.quantity)) := by
  constructor
  · rintro ⟨other, target, hother, hstrays⟩
    obtain rfl := Option.some.inj (hfound.symm.trans hother)
    exact ⟨target, hstrays⟩
  · exact fun ⟨target, hstrays⟩ => ⟨item, target, hfound, hstrays⟩

/-- **A move that does not stray** changes the quantities of rows of its item
only. -/
theorem Gives.sameItem (hgives : m.Gives h s item i rows)
    (htakes : m.Takes s item i) (hstays : ¬ m.Strays s) (hnew : new ∈ rows)
    (hdiffers : ∀ old ∈ s.rows m.slug, old.id? = new.id? →
      new.get? "quantity" ≠ old.get? "quantity") : SameItem item new := by
  rcases hgives.mem_cases hnew with hold | hsame | ⟨target, hmem, hdest, rfl⟩
  · exact absurd rfl (hdiffers new hold rfl)
  · exact hsame
  · have hquantity : target.get? "quantity" ≠
        some (.ofFloat (target.amount "quantity" + m.quantity)) := by
      intro hkept
      exact hdiffers target hmem Record.id?_recounted.symm
        (Record.get?_quantity_recounted.trans hkept.symm)
    refine SameItem.trans ?_ sameItem_credited
    by_cases hnamed : item.get? "sku" = none
    · by_cases htarget : target.get? "sku" = none
      · exact .of_get?_eq (htarget.trans hnamed.symm)
      · exact absurd ((strays_iff htakes.found).mpr
          ⟨target, hdest, hnamed, htarget, hquantity⟩) hstays
    · exact sameItem_destination hdest hnamed

/-- **A move that strays** changes the quantity of a row of another item. -/
theorem Gives.exists_of_strays (hgives : m.Gives h s item i rows)
    (htakes : m.Takes s item i) (hrows : Identified (s.rows m.slug))
    (hstrays : m.Strays s) :
    ∃ new ∈ rows, (∀ old ∈ s.rows m.slug, old.id? = new.id? →
      new.get? "quantity" ≠ old.get? "quantity") ∧
      ¬ SameItem item new := by
  obtain ⟨target, hdest, hnone, hnamed, hchanged⟩ :=
    (strays_iff htakes.found).mp hstrays
  have hmem : target ∈ s.rows m.slug := List.mem_of_find?_eq_some hdest
  have hapart : target.id? ≠ item.id? := by
    intro hsame
    obtain rfl :=
      hrows.eq_of_id?_eq hmem (List.mem_of_getElem? htakes.standing) hsame
    exact hnamed hnone
  refine ⟨m.credited h target, hgives.credited_mem hdest hapart, ?_, ?_⟩
  · intro old hold hid hquantity
    obtain rfl := hrows.eq_of_id?_eq hold hmem (hid.trans Record.id?_recounted)
    exact hchanged (hquantity.symm.trans Record.get?_quantity_recounted)
  · exact fun hsame =>
      hnamed ((hsame.trans sameItem_credited.symm).eq_none hnone)

/-- **Moves within an item.** A move that is answered changes the quantities of
rows of its own item only, and opens rows of it only, exactly when it does not
stray.  No move of a row that names its item does. -/
theorem sameItem_iff {outage : Outage} (hs : s.Written)
    (hrun : m.procedure.run h outage s = (.ok (), t)) :
    ∃ item, m.source? s = some item ∧ (item.get? "sku" ≠ none → ¬ m.Strays s) ∧
      ((∀ new ∈ t.rows m.slug, (∀ old ∈ s.rows m.slug, old.id? = new.id? →
        new.get? "quantity" ≠ old.get? "quantity") →
        SameItem item new) ↔ ¬ m.Strays s) ∧
      ∀ slug, slug ≠ m.slug → t.rows slug = s.rows slug := by
  have hrows := hs.identified m.slug
  obtain ⟨item, i, hanswered⟩ := exists_answered_of_run hrows hrun
  have htakes := hanswered.toTakes
  refine ⟨item, htakes.found, ?_, ⟨?_, ?_⟩, hanswered.others⟩
  · intro hnamed hstrays
    obtain ⟨target, -, hnone, -⟩ := (strays_iff htakes.found).mp hstrays
    exact hnamed hnone
  · intro hall hstrays
    obtain ⟨new, hnew, hdiffers, hother⟩ :=
      hanswered.gives.exists_of_strays htakes hrows hstrays
    exact hother (hall new hnew hdiffers)
  · exact fun hstays new hnew hdiffers =>
      hanswered.gives.sameItem htakes hstays hnew hdiffers

/-- Nuts at the back, and at the front bolts and a part that names no item. -/
def workshop : Store :=
  (((Store.empty.create Tally.morning "parts"
      [("id", .string "n"), ("location_id", .string "back"),
        ("quantity", .ofFloat 5), ("sku", .string "nut")]).2.create
    Tally.morning "parts"
      [("id", .string "b"), ("location_id", .string "front"),
        ("quantity", .ofFloat 3), ("sku", .string "bolt")]).2.create
    Tally.morning "parts" [("id", .string "x"),
      ("location_id", .string "front"), ("quantity", .ofFloat 3)]).2

/-- Two bolts go to the back. -/
def boltsToBack : Move := ⟨"parts", "b", "back", 2⟩

/-- The part that names no item goes to the back. -/
def unnamedToBack : Move := ⟨"parts", "x", "back", 2⟩

theorem workshop_written : workshop.Written :=
  ((Store.Written.empty.create Tally.morning "parts" _).create
    Tally.morning "parts" _).create Tally.morning "parts" _

/-- A row is opened for the bolts at the back, and the nuts stay as they are. -/
theorem boltsToBack_sameItem :
    (boltsToBack.procedure.run Tally.morning Outage.none workshop).1 = .ok () ∧
      ¬ boltsToBack.Strays workshop ∧
    ((boltsToBack.procedure.run Tally.morning Outage.none workshop).2.rows
      "parts").map Tally.ofParts.count? =
      [some 5, some 1, some 3, some 2] := by
  have hanswered : (boltsToBack.procedure.run Tally.morning
      Outage.none workshop).1 = .ok () := by decide +kernel
  obtain ⟨item, hfound, hstays, -⟩ :=
    sameItem_iff workshop_written (Prod.ext hanswered rfl)
  have hnamed : (boltsToBack.source? workshop).all
      (fun item => (item.get? "sku").isSome) = true := by decide +kernel
  rw [hfound, Option.all_some] at hnamed
  exact ⟨hanswered, hstays (Option.isSome_iff_ne_none.mp hnamed),
    by decide +kernel⟩

/-- **Nuts are counted for a part that is none.** The part names no item, and
what is moved goes to the nuts. -/
theorem unnamedToBack_strays :
    workshop.Written ∧
    (unnamedToBack.procedure.run Tally.morning Outage.none workshop).1 = .ok () ∧
    ∃ item ∈ unnamedToBack.source? workshop, ∃ old ∈ workshop.rows "parts",
      ∃ new ∈ (unnamedToBack.procedure.run Tally.morning
        Outage.none workshop).2.rows "parts",
        new.id? = old.id? ∧ Tally.ofParts.count? old = some 5 ∧
          Tally.ofParts.count? new = some 7 ∧
          ¬ SameItem item new :=
  ⟨workshop_written, by decide +kernel, by decide +kernel⟩

end Move

end ServiceLoom
