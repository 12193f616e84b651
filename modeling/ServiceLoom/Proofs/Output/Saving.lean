import ServiceLoom.Output.FileTree
import Mathlib.Data.List.Basic

/-!
# What saving does to a file tree

Where a path leads does not depend on the tree, only whether something blocks
the way.  So what a run of writes leaves at a place is a matter of the paths
that lead there.  A path of names leads further down from wherever it starts,
and nothing is refused that has such a path.

* `placeOf_joinPath` — a path of names leads below the directory;
* `FileTree.write_content?` — what one write leaves at a place;
* `FileTree.save_content?` — what a run of writes leaves there, whether it fails
  or not;
* `FileTree.save_ne_refused` — what is never refused.
-/

namespace ServiceLoom

/-! ## Parts of paths -/

theorem pathParts_append (a b : String) :
    pathParts (a ++ "/" ++ b) = pathParts a ++ pathParts b := by
  have hslash : "/".toList = ['/'] := rfl
  rw [pathParts, String.toList_append, String.toList_append, hslash,
    List.append_assoc, List.singleton_append, List.splitOn_append_cons_self,
    List.map_append]
  rfl

/-- A text without slashes is one part. -/
theorem pathParts_eq_singleton {s : String} (h : '/' ∉ s.toList) :
    pathParts s = [s] := by
  rw [pathParts, List.splitOn_eq_singleton h, List.map_singleton,
    String.ofList_toList]

theorem pathParts_ne_nil (path : String) : pathParts path ≠ [] :=
  mt List.map_eq_nil_iff.mp (List.splitOn_ne_nil _ _)

/-- A path is known by its parts. -/
theorem pathParts_inj {a b : String} : pathParts a = pathParts b ↔ a = b := by
  refine ⟨fun heq => ?_, congrArg pathParts⟩
  have hsplit : a.toList.splitOn '/' = b.toList.splitOn '/' :=
    List.map_injective_iff.mpr (fun _ _ => String.ofList_inj.mp) heq
  refine String.toList_inj.mp ?_
  calc
    a.toList = ['/'].intercalate (a.toList.splitOn '/') :=
      (List.intercalate_splitOn '/').symm
    _ = ['/'].intercalate (b.toList.splitOn '/') := by rw [hsplit]
    _ = b.toList := List.intercalate_splitOn '/'

/-! ## Places of paths -/

/-- Where parts of a path lead when nothing blocks the way.  There is no place
outside of the tree. -/
def placeFrom (start : Option Place) (parts : List String) : Option Place :=
  parts.foldl (fun p part => p.bind (FileTree.step · part)) start

/-- Where a path leads. -/
def placeOf (path : String) : Option Place :=
  placeFrom (if isAbsolutePath path then none else some []) (pathParts path)

/-- Each part of the path names something within its directory. -/
def IsNamePath (path : String) : Prop :=
  ∀ part ∈ pathParts path, FileTree.isName part = true

theorem placeFrom_none (parts : List String) : placeFrom none parts = none := by
  induction parts with
  | nil => rfl
  | cons part rest ih => exact ih

theorem placeFrom_append (start : Option Place) (parts more : List String) :
    placeFrom start (parts ++ more) = placeFrom (placeFrom start parts) more :=
  List.foldl_append

/-- Names lead further down. -/
theorem placeFrom_names {parts : List String}
    (h : ∀ part ∈ parts, FileTree.isName part = true) (start : Option Place) :
    placeFrom start parts = start.map (· ++ parts) := by
  cases start with
  | none => exact placeFrom_none parts
  | some p =>
      induction parts generalizing p with
      | nil => simp [placeFrom]
      | cons part rest ih =>
          have hpart := h part List.mem_cons_self
          have hstep : FileTree.step p part = some (p ++ [part]) := by
            simp only [FileTree.isName, Bool.and_eq_true,
              decide_eq_true_eq] at hpart
            simp [FileTree.step, hpart]
          rw [placeFrom, List.foldl_cons, Option.bind_some, hstep, ← placeFrom,
            ih fun other hother => h other (List.mem_cons_of_mem _ hother)]
          simp

/-- A path of names does not start at the root. -/
theorem IsNamePath.not_absolute {path : String} (h : IsNamePath path) :
    isAbsolutePath path = false := by
  rw [isAbsolutePath, decide_eq_false_iff_not]
  intro hroot
  cases hchars : path.toList with
  | nil =>
      rw [hchars] at hroot
      cases hroot
  | cons c rest =>
      rw [hchars] at hroot
      obtain rfl := Option.some.inj hroot
      have hempty : "" ∈ pathParts path := by
        rw [pathParts, hchars, ← List.nil_append ('/' :: rest),
          List.splitOn_append_cons_self]
        exact List.mem_map.mpr ⟨[], List.mem_append_left _ (by simp), rfl⟩
      have hname := h "" hempty
      revert hname
      decide

/-- A path of names cannot lead out of where it starts. -/
theorem IsNamePath.not_mayEscape {path : String} (h : IsNamePath path) :
    mayEscape path = false := by
  rw [mayEscape, h.not_absolute, Bool.false_or, Bool.eq_false_iff]
  intro hup
  have hname := h ".." (List.contains_iff_mem.mp hup)
  revert hname
  decide

/-- Whether a path starts at the root is seen at its front. -/
theorem isAbsolutePath_append {s : String} (h : s ≠ "") (t : String) :
    isAbsolutePath (s ++ t) = isAbsolutePath s := by
  rw [isAbsolutePath, isAbsolutePath, String.toList_append]
  cases hchars : s.toList with
  | nil => exact absurd (String.toList_eq_nil_iff.mp hchars) h
  | cons c rest => rfl

/-- A slash at the end leads nowhere. -/
theorem placeFrom_slash (start : Option Place) (s : String) :
    placeFrom start (pathParts (s ++ "/")) = placeFrom start (pathParts s) := by
  have hempty : pathParts "" = [""] := pathParts_eq_singleton nofun
  have hstay : ∀ p : Place, FileTree.step p "" = some p :=
    fun p => if_pos (.inl rfl)
  rw [← String.append_empty (s := s ++ "/"), pathParts_append,
    hempty, placeFrom_append]
  cases placeFrom start (pathParts s) with
  | none => rfl
  | some p => exact hstay p

/-- What follows a slash leads on from before it. -/
theorem placeOf_slash_append (s path : String) :
    placeOf (s ++ "/" ++ path) =
      placeFrom (placeOf (s ++ "/")) (pathParts path) := by
  have hne : s ++ "/" ≠ "" := by
    intro heq
    have hchars := congrArg String.toList heq
    rw [String.toList_append] at hchars
    exact List.append_ne_nil_of_right_ne_nil _ (List.cons_ne_nil _ _) hchars
  rw [placeOf, placeOf, isAbsolutePath_append hne,
    pathParts_append, placeFrom_append, placeFrom_slash]

/-- **A path of names leads below the directory** that it is joined to. -/
theorem placeOf_joinPath {path : String} (h : IsNamePath path)
    (directory : String) :
    placeOf (joinPath directory path) =
      (placeOf directory).map (· ++ pathParts path) := by
  rw [← placeFrom_names h]
  unfold joinPath
  split
  next hempty =>
    rw [hempty, placeOf, h.not_absolute]
    rfl
  next hne =>
    split
    next hslash =>
      obtain ⟨s, rfl⟩ : ∃ s, directory = s ++ "/" := by
        obtain ⟨cs, hcs⟩ := List.getLast?_eq_some_iff.mp hslash
        exact ⟨String.ofList cs, by rw [← String.toList_inj,
          hcs, String.toList_append, String.toList_ofList]; rfl⟩
      exact placeOf_slash_append s path
    next =>
      have hsame : placeOf (directory ++ "/") = placeOf directory := by
        rw [placeOf, placeOf, isAbsolutePath_append hne, placeFrom_slash]
      rw [placeOf_slash_append, hsame]

/-! ## Contents -/

namespace FileTree

variable {t t' : FileTree} {p : Place} {path content : String}

/-- Replacing what is at a place changes no other place. -/
theorem find?_replaced (files : List (Place × String)) (p q : Place)
    (content : String) :
    ((files.map fun f =>
      if f.1 = p then (p, content) else f).find? (·.1 = q)).map (·.2) =
      if p = q then (files.find? (·.1 = p)).map fun _ => content
      else (files.find? (·.1 = q)).map (·.2) := by
  induction files with
  | nil => simp
  | cons f rest ih =>
      rw [List.map_cons, List.find?_cons, List.find?_cons, List.find?_cons]
      by_cases hp : f.1 = p
      · by_cases hq : p = q
        · simp [hp, hq]
        · have hne : f.1 ≠ q := fun heq => hq (hp.symm.trans heq)
          simpa [hp, hq] using ih
      · rw [if_neg hp]
        by_cases hq : f.1 = q
        · have hne : p ≠ q := fun heq => hp (hq.trans heq.symm)
          simp [hq, hne]
        · simpa [hp, hq] using ih

/-- What is put at a place is there, and all else stays. -/
theorem content?_put (t : FileTree) (p q : Place) (content : String) :
    (t.put p content).content? q = if p = q then some content
      else t.content? q := by
  rw [put]
  split
  next hfile =>
    obtain ⟨old, hold⟩ := Option.isSome_iff_exists.mp hfile
    obtain ⟨f, hf, -⟩ := Option.map_eq_some_iff.mp hold
    rw [content?, find?_replaced, hf]
    rfl
  next hfree =>
    have hnone : t.files.find? (·.1 = p) = none := by
      rw [isFile, content?, Option.isSome_map] at hfree
      exact Option.not_isSome_iff_eq_none.mp hfree
    rw [content?, List.find?_append]
    by_cases hq : p = q
    · rw [← hq, hnone, if_pos rfl]
      simp
    · rw [if_neg hq, content?]
      simp [hq]

/-- What follows the parts of a path does not depend on what is in the way,
unless that blocks it. -/
theorem enter_eq_some {part : String} {start next : Option Place}
    (h : t.enter part start = some next) : next = start.bind (step · part) := by
  cases start with
  | none => exact (Option.some.inj h).symm
  | some p =>
      rw [enter] at h
      split at h
      · cases h
      · exact (Option.some.inj h).symm

theorem enterAll_eq_some {parts : List String} {start directory : Option Place}
    (h : t.enterAll start parts = some directory) :
    directory = placeFrom start parts := by
  induction parts generalizing start with
  | nil => exact (Option.some.inj h).symm
  | cons part rest ih =>
      rw [enterAll] at h
      obtain ⟨next, hnext, hrest⟩ := Option.bind_eq_some_iff.mp h
      rw [ih hrest, enter_eq_some hnext]
      rfl

/-- **One write** puts the content where the path leads, if that is in the tree,
and changes nothing else. -/
theorem write_content? (h : t.write path content = .ok t') (q : Place) :
    t'.content? q = if placeOf path = some q then some content
      else t.content? q := by
  obtain ⟨front, name, hparts⟩ :
      ∃ front name, pathParts path = front ++ [name] := by
    obtain hnil | ⟨front, name, hconcat⟩ :=
      List.eq_nil_or_concat (pathParts path)
    · exact absurd hnil (pathParts_ne_nil path)
    · exact ⟨front, name, hconcat.trans List.concat_eq_append⟩
  rw [write] at h
  dsimp only at h
  rw [hparts, List.dropLast_concat, List.getLast?_concat, Option.getD_some] at h
  rw [placeOf, hparts, placeFrom_append]
  split at h
  · cases h
  next directory hdirectory =>
    rw [← enterAll_eq_some hdirectory]
    split at h
    · cases h
    · split at h
      · cases h
      next hname =>
        have hplace : placeFrom directory [name] = none :=
          (enter_eq_some hname).symm
        cases h
        rw [hplace, if_neg nofun]
      next place hname =>
        have hplace : placeFrom directory [name] = some place :=
          (enter_eq_some hname).symm
        split at h
        · cases h
        · cases h
          rw [hplace, content?_put]
          simp only [Option.some.injEq]

/-- Writing fails for what is in the way only. -/
theorem write_ne_refused (t : FileTree) (path content other : String) :
    t.write path content ≠ .error (.refused other) := by
  intro h
  rw [write] at h
  dsimp only at h
  split at h
  · cases h
  · split at h
    · cases h
    · split at h
      · cases h
      · cases h
      · split at h <;> cases h

variable {directory : String} {files : List GeneratedFile}

/-- **Saving one file**: it is refused, it cannot be written, or it is written
and the rest is saved. -/
theorem save_cons_cases (t : FileTree) (directory : String) (f : GeneratedFile)
    (rest : List GeneratedFile) :
    (mayEscape f.path = true ∧
      t.save directory (f :: rest) = (t, .error (.refused f.path))) ∨
    (∃ err, t.write (joinPath directory f.path) f.content = .error err ∧
      t.save directory (f :: rest) = (t, .error err)) ∨
    ∃ next, t.write (joinPath directory f.path) f.content = .ok next ∧
      t.save directory (f :: rest) = ((next.save directory rest).1,
        (next.save directory rest).2.map (joinPath directory f.path :: ·)) := by
  rw [save]
  cases hescapes : mayEscape f.path with
  | true => exact .inl ⟨rfl, rfl⟩
  | false =>
      rw [if_neg Bool.false_ne_true]
      dsimp only
      cases hwrite : t.write (joinPath directory f.path) f.content with
      | error err => exact .inr (.inl ⟨err, rfl, rfl⟩)
      | ok next => exact .inr (.inr ⟨next, rfl, rfl⟩)

/-- **Nothing is refused** that has a path of names. -/
theorem save_ne_refused (hfiles : ∀ f ∈ files, IsNamePath f.path) (t : FileTree)
    (directory path : String) :
    (t.save directory files).2 ≠ .error (.refused path) := by
  induction files generalizing t with
  | nil => exact nofun
  | cons f rest ih =>
      obtain ⟨hf, hrest⟩ := List.forall_mem_cons.mp hfiles
      rcases save_cons_cases t directory f rest with
          ⟨hescapes, -⟩ | ⟨err, hwrite, hsave⟩ | ⟨next, -, hsave⟩
      · cases hescapes.symm.trans hf.not_mayEscape
      · rw [hsave]
        intro heq
        exact write_ne_refused t _ _ path
          (hwrite.trans (congrArg _ (Except.error.inj heq)))
      · rw [hsave]
        have hnext := ih hrest next
        cases hresult : (next.save directory rest).2 with
        | ok paths => exact nofun
        | error err =>
            rw [hresult] at hnext
            exact fun heq => hnext (congrArg _ (Except.error.inj heq))

/-- Whether saving fails or not, a place to which all files that come there
bring one content is as it was, or has that content. -/
theorem save_kept
    (h : ∀ f ∈ files, placeOf (joinPath directory f.path) = some p →
      f.content = content) (t : FileTree) :
    (t.save directory files).1.content? p = t.content? p ∨
      (t.save directory files).1.content? p = some content := by
  induction files generalizing t with
  | nil => exact .inl rfl
  | cons f rest ih =>
      obtain ⟨hf, hrest⟩ := List.forall_mem_cons.mp h
      rcases save_cons_cases t directory f rest with
          ⟨-, hsave⟩ | ⟨err, -, hsave⟩ | ⟨next, hwrite, hsave⟩
      · exact .inl (congrArg (·.1.content? p) hsave)
      · exact .inl (congrArg (·.1.content? p) hsave)
      · rw [hsave]
        refine (ih hrest next).elim (fun hkept => ?_) .inr
        dsimp only
        rw [hkept, write_content? hwrite]
        split
        next hplace => exact .inr (congrArg some (hf hplace))
        next => exact .inl rfl

/-- If saving succeeds, a place to which a file comes has its content, if no
other file brings another one there. -/
theorem save_content?
    (h : ∀ f ∈ files, placeOf (joinPath directory f.path) = some p →
      f.content = content)
    (hcomes : ∃ f ∈ files, placeOf (joinPath directory f.path) = some p)
    {t : FileTree} {paths : List String}
    (hsaved : (t.save directory files).2 = .ok paths) :
    (t.save directory files).1.content? p = some content := by
  induction files generalizing t paths with
  | nil =>
      obtain ⟨f, hf, -⟩ := hcomes
      cases hf
  | cons f rest ih =>
      obtain ⟨hf, hrest⟩ := List.forall_mem_cons.mp h
      rcases save_cons_cases t directory f rest with
          ⟨-, hsave⟩ | ⟨err, -, hsave⟩ | ⟨next, hwrite, hsave⟩
      · rw [hsave] at hsaved
        cases hsaved
      · rw [hsave] at hsaved
        cases hsaved
      · rw [hsave] at hsaved ⊢
        dsimp only at hsaved ⊢
        by_cases hlater :
          ∃ f ∈ rest, placeOf (joinPath directory f.path) = some p
        · cases hresult : (next.save directory rest).2 with
          | ok others => exact ih hrest hlater hresult
          | error err =>
              rw [hresult] at hsaved
              cases hsaved
        · -- The file itself is the last that comes to the place.
          obtain ⟨other, hmem, hplace⟩ := hcomes
          obtain rfl : other = f := (List.mem_cons.mp hmem).resolve_right
              fun hin => hlater ⟨other, hin, hplace⟩
          have hhere : next.content? p = some content := by
            rw [write_content? hwrite, if_pos hplace, hf hplace]
          exact (save_kept hrest next).elim (·.trans hhere) id

end FileTree

end ServiceLoom
