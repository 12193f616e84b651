import ServiceLoom.Command.Run
import ServiceLoom.Pattern.Builtin
import ServiceLoom.Proofs.Generation.Files
import ServiceLoom.Proofs.Output.Saving
import ServiceLoom.Proofs.Template.LegalNames

/-!
# Where generated files come to lie

Slugs come into paths by the names of modules only, and these have no slashes
and no dots.  So whatever the slugs are, there are no other paths than those of
the manifest, of the two indices and of modules beside them.  All of them lead
below the output directory, none is refused, and no module is written in the
place of an index.

* `isGeneratedPath_of_mem` — which paths there are;
* `Document.saved_in_place` — what saving makes of them;
* `Command.Arguments.run_ne_refused` — no run is refused.
-/

namespace ServiceLoom

open Template

/-- The name of the file of a module: small letters, digits and underscores, and
not the name of an index. -/
structure IsModuleStem (name : String) : Prop where
  ne_empty : name ≠ ""
  chars : ∀ c ∈ name.toList, isNameChar c = true
  ne_index : name ≠ "mod"

/-- The paths that generated files have. -/
inductive IsGeneratedPath : String → Prop where
  | manifest : IsGeneratedPath "schema.json"
  | index {folder : String} : folder ∈ moduleFolders →
      IsGeneratedPath (modulePath folder "mod")
  | module {folder name : String} : folder ∈ moduleFolders → IsModuleStem name →
      IsGeneratedPath (modulePath folder name)

/-- The name of a module is one of a file, whatever the slug. -/
theorem isModuleStem_moduleName (slug : String) :
    IsModuleStem (moduleName slug) where
  ne_empty := (moduleName_identifier slug).ne_empty
  chars _ hc := isNameChar_of_mem hc
  ne_index := moduleName_ne_mod slug

/-! ## Parts of the paths -/

/-- A folder of modules lies in the folder of sources. -/
theorem exists_folder_eq {folder : String} (h : folder ∈ moduleFolders) :
    ∃ name ∈ ["services",
      "routes"], folder = "src" ++ "/" ++ (name ++ "/") := by
  revert folder
  decide

/-- The file of a module has a name that is none of a directory's own. -/
theorem isName_append_extension (name : String) :
    FileTree.isName (name ++ ".rs") = true := by
  have hlong : ∀ s : String, s.length < 3 → name ++ ".rs" ≠ s := by
    rintro s hs rfl
    rw [String.length_append] at hs
    exact absurd hs (Nat.not_lt.mpr (Nat.le_add_left 3 _))
  simp only [FileTree.isName, Bool.and_eq_true, decide_eq_true_eq]
  exact ⟨⟨hlong "" (by decide), hlong "." (by decide)⟩, hlong ".." (by decide)⟩

/-- The path of a module is one of names, if its name has no slash. -/
theorem isNamePath_modulePath {folder name : String}
    (h : folder ∈ moduleFolders) (hname : '/' ∉ name.toList) :
    IsNamePath (modulePath folder name) := by
  obtain ⟨kind, hkind, rfl⟩ := exists_folder_eq h
  have hplain : ∀ kind ∈ ["services", "routes"], '/' ∉ kind.toList ∧
      FileTree.isName kind = true := by decide
  obtain ⟨hslash, hisName⟩ := hplain kind hkind
  have hfile : '/' ∉ (name ++ ".rs").toList := by
    rw [String.toList_append, List.mem_append]
    exact not_or.mpr ⟨hname, by decide⟩
  have hsplit : modulePath ("src" ++ "/" ++ (kind ++ "/")) name =
      "src" ++ "/" ++ (kind ++ "/" ++ (name ++ ".rs")) := by
    simp only [modulePath, String.append_assoc]
  have hparts : pathParts (modulePath ("src" ++ "/" ++ (kind ++ "/")) name) =
      ["src", kind, name ++ ".rs"] := by
    rw [hsplit, pathParts_append, pathParts_append, pathParts_eq_singleton hslash,
      pathParts_eq_singleton hfile, pathParts_eq_singleton (by decide)]
    rfl
  rw [IsNamePath, hparts]
  exact List.forall_mem_cons.mpr ⟨by decide,
    List.forall_mem_cons.mpr
      ⟨hisName, List.forall_mem_singleton.mpr (isName_append_extension name)⟩⟩

/-- **Generated paths are paths of names**, so they lead below the directory
that they are joined to. -/
theorem IsGeneratedPath.isNamePath {path : String} (h : IsGeneratedPath path) :
    IsNamePath path := by
  cases h with
  | manifest =>
      rw [IsNamePath, pathParts_eq_singleton (by decide)]
      decide
  | index hfolder => exact isNamePath_modulePath hfolder (by decide)
  | module hfolder hstem =>
      refine isNamePath_modulePath hfolder fun hslash => ?_
      have hchar := hstem.chars '/' hslash
      revert hchar
      decide

/-- Two paths of names that lead to one place below a directory are the same. -/
theorem eq_of_placeOf_joinPath
    {a b directory : String} {p : Place} (ha : IsNamePath a)
    (hb : IsNamePath b) (hplace : placeOf (joinPath directory a) = some p)
    (hother : placeOf (joinPath directory b) = some p) : a = b := by
  rw [placeOf_joinPath ha] at hplace
  rw [placeOf_joinPath hb] at hother
  obtain ⟨start, hstart, rfl⟩ := Option.map_eq_some_iff.mp hplace
  rw [hstart, Option.map_some, Option.some.injEq] at hother
  exact (pathParts_inj.mp (List.append_cancel_left hother)).symm

/-! ## What is generated and saved -/

/-- **Which paths there are**, whatever the slugs. -/
theorem isGeneratedPath_of_mem {g : SchemaGraph} {path : String}
    (h : path ∈ (g.moduleNames ++ ["mod"]).map (modulePath "src/services/") ++
      ((g.moduleNames ++ ["mod"]).map (modulePath "src/routes/") ++
      ["schema.json"])) : IsGeneratedPath path := by
  have hfolder : ∀ folder ∈ moduleFolders,
      path ∈ (g.moduleNames ++ ["mod"]).map (modulePath folder) →
      IsGeneratedPath path := by
    intro folder hfolder hpath
    obtain ⟨name, hname, rfl⟩ := List.mem_map.mp hpath
    rcases List.mem_append.mp hname with hname | hname
    · obtain ⟨e, -, rfl⟩ := List.mem_map.mp hname
      exact .module hfolder (isModuleStem_moduleName e.slug)
    · rw [List.mem_singleton.mp hname]
      exact .index hfolder
  rcases List.mem_append.mp h with h | h
  · exact hfolder _ (by decide) h
  · rcases List.mem_append.mp h with h | h
    · exact hfolder _ (by decide) h
    · rw [List.mem_singleton.mp h]
      exact .manifest

/-- What saving files below a directory makes of the index of a folder: at its
place there is what was there before or the index itself, also when saving
fails, and the index when it does not. -/
structure IndexSaved (t : FileTree) (directory : String)
    (files : List GeneratedFile) (folder index : String) : Prop where
  kept : ∀ p, placeOf (joinPath directory (modulePath folder "mod")) = some p →
    (t.save directory files).1.content? p = t.content? p ∨
      (t.save directory files).1.content? p = some index
  saved : ∀ p, placeOf (joinPath directory (modulePath folder "mod")) =
    some p → ∀ paths,
    (t.save directory files).2 = .ok paths →
      (t.save directory files).1.content? p = some index

/-- No generated file but the index itself comes to its place. -/
theorem Generation.IndexedBy.indexSaved {out : Generation} {folder index : String}
    (h : out.IndexedBy folder index) (hfolder : folder ∈ moduleFolders)
    (hpaths : ∀ f ∈ out.files, IsGeneratedPath f.path) (t : FileTree)
    (directory : String) : IndexSaved t directory out.files folder index := by
  have halone : ∀ p,
      placeOf (joinPath directory (modulePath folder "mod")) = some p →
      ∀ f ∈ out.files, placeOf (joinPath directory f.path) = some p →
          f.content = index :=
    fun p hp f hf hplace => h.alone f hf
      (eq_of_placeOf_joinPath (hpaths f hf).isNamePath
        (IsGeneratedPath.index hfolder).isNamePath hplace hp)
  refine ⟨fun p hp => FileTree.save_kept (halone p hp) t,
    fun p hp paths hsaved => ?_⟩
  exact FileTree.save_content? (halone p hp) ⟨_, h.mem, hp⟩ hsaved

/-- **Where the files of an accepted document come to lie**, whatever its slugs.
Files are generated, and all have the paths of the manifest, of an index, or of
a module in one of the two folders.  Below any directory of any file tree none
of them is refused, each leads to a place below the directory, and none is
written over an index. -/
theorem Document.saved_in_place [Pattern.Engine] (d : Document)
    (config : ModuleConfig) (l : BundleLibrary) :
    ∀ g, d.validateWith config = .ok g → ∃ out, g.generate l = .ok out ∧
      (∀ f ∈ out.files, IsGeneratedPath f.path) ∧
      ∀ (t : FileTree) (directory : String),
        (∀ path, (t.save directory out.files).2 ≠ .error (.refused path)) ∧
        (∀ f ∈ out.files,
          placeOf (joinPath directory f.path) =
            (placeOf directory).map (· ++ pathParts f.path)) ∧
        ∀ folder ∈ moduleFolders, ∃ index, out.IndexedBy folder index ∧
          IndexSaved t directory out.files folder index := by
  intro g _
  obtain ⟨out, hout, hpaths, hindices⟩ := g.exists_generated l
  have hgenerated : ∀ f ∈ out.files, IsGeneratedPath f.path :=
    fun f hf => isGeneratedPath_of_mem (hpaths ▸ List.mem_map_of_mem hf)
  refine ⟨out, hout, hgenerated, fun t directory =>
    ⟨fun path => ?_, fun f hf => ?_, fun folder hfolder => ?_⟩⟩
  · exact FileTree.save_ne_refused (fun f hf => (hgenerated f hf).isNamePath)
      t directory path
  · exact placeOf_joinPath (hgenerated f hf).isNamePath directory
  · obtain ⟨index, hindexed, -⟩ := hindices folder hfolder
    exact ⟨index, hindexed, hindexed.indexSaved hfolder hgenerated t directory⟩

/-- Slugs that look like paths out of the output directory, to an index, and to
the file of another slug. -/
def pathsDocument : Document where
  projectName := "paths"
  modules := []
  entities := [{ slug := "../../etc/passwd" }, { slug := "mod" },
    { slug := "C:\\Ωμέγα" }, { slug := "..." }]

/-- They come to lie beside the indices, and the index of the services is as it
was generated. -/
theorem pathsDocument_saved : ∃ g out, pathsDocument.validate = .ok g ∧
      g.generate .builtin = .ok out ∧
    out.files.map (·.path) = [
      "src/services/______etc_passwd.rs", "src/services/mod_.rs",
        "src/services/c_______.rs", "src/services/___.rs",
      "src/services/mod.rs",
      "src/routes/______etc_passwd.rs", "src/routes/mod_.rs",
        "src/routes/c_______.rs", "src/routes/___.rs",
      "src/routes/mod.rs", "schema.json"] ∧
    (∀ f ∈ out.files, IsGeneratedPath f.path) ∧
    (∀ path, ((FileTree.mk []).save "out" out.files).2 ≠ .error (.refused path)) ∧
    ∃ index, ⟨"src/services/mod.rs", index⟩ ∈ out.files ∧
      ∀ paths, ((FileTree.mk []).save "out" out.files).2 = .ok paths →
        ((FileTree.mk []).save "out" out.files).1.content? ["out",
          "src", "services", "mod.rs"] = some index := by
  have hview : (pathsDocument.validate.toOption.map (·.moduleNames)) =
      some ["______etc_passwd", "mod_", "c_______", "___"] := by
    decide +kernel
  obtain ⟨g, haccepted, hnames⟩ := exists_eq_ok_of_seen hview
  obtain ⟨out, hout, hgenerated, hsaved⟩ :=
    Document.saved_in_place pathsDocument _ .builtin g haccepted
  obtain ⟨same, hsame, hpaths, -⟩ := g.exists_generated .builtin
  obtain rfl := Except.ok.inj (hout.symm.trans hsame)
  rw [hnames] at hpaths
  obtain ⟨hrefused, -, hindices⟩ := hsaved ⟨[]⟩ "out"
  obtain ⟨index, hindexed, hindex⟩ := hindices "src/services/" (by decide)
  refine ⟨g, out, haccepted, hout, hpaths.trans (by decide +kernel),
    hgenerated, hrefused, index, hindexed.mem, ?_⟩
  exact hindex.saved ["out", "src", "services", "mod.rs"] (by decide +kernel)

namespace Command

/-- What a run generates has generated paths. -/
theorem Arguments.isGeneratedPath_of_generate [Pattern.Engine] {a : Arguments}
    {s : Settings} {schema : String} {made : Generation}
    (h : a.generate s schema = .ok made) :
    ∀ f ∈ made.files, IsGeneratedPath f.path := by
  rw [Arguments.generate] at h
  split at h
  · cases h
  · split at h
    · cases h
    next g _ =>
      obtain ⟨out, hout, hpaths, -⟩ := g.exists_generated (a.library s)
      rw [hout] at h
      obtain rfl := Except.ok.inj h
      exact fun f hf => isGeneratedPath_of_mem (hpaths ▸ List.mem_map_of_mem hf)

/-- Nothing is written while the settings are read. -/
theorem Arguments.settings_ne_unwritten (a : Arguments) (file : SettingsFile)
    (e : WriteError) : a.settings file ≠ .error (.unwritten e) := by
  intro h
  unfold Arguments.settings at h
  split at h
  · cases h
  · cases h
  · split at h <;> cases h

/-- Nothing is written while files are generated. -/
theorem Arguments.generate_ne_unwritten [Pattern.Engine] (a : Arguments)
    (s : Settings) (schema : String) (e : WriteError) :
    a.generate s schema ≠ .error (.unwritten e) := by
  intro h
  rw [Arguments.generate] at h
  split at h
  · cases h
  · split at h
    · cases h
    · split at h <;> cases h

/-- **No run is refused**: whatever the command line is and whatever the tree
holds, nothing that a run generates has a path that might lead out of the output
directory. -/
theorem Arguments.run_ne_refused [Pattern.Engine] (a : Arguments) (t : FileTree)
    (path : String) : (a.run t).2 ≠ some (.unwritten (.refused path)) := by
  rw [Arguments.run]
  split
  next e hsettings =>
    exact fun heq => a.settings_ne_unwritten _ _
      (hsettings.trans (congrArg _ (Option.some.inj heq)))
  next s _ =>
    split
    · nofun
    · nofun
    next schema _ =>
      split
      next e hgenerate =>
        exact fun heq => a.generate_ne_unwritten s
          schema _ (hgenerate.trans (congrArg _ (Option.some.inj heq)))
      next made hgenerate =>
        split
        · nofun
        · have hpaths : ∀ f ∈ made.files, IsNamePath f.path :=
            fun f hf =>
              (Arguments.isGeneratedPath_of_generate hgenerate f hf).isNamePath
          have hsaved := FileTree.save_ne_refused hpaths t (a.outputDir s) path
          split
          · nofun
          next e hresult =>
            intro heq
            rw [hresult] at hsaved
            exact hsaved
              (congrArg _ (RunError.unwritten.inj (Option.some.inj heq)))

end Command

end ServiceLoom
