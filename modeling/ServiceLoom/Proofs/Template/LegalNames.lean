import ServiceLoom.Proofs.Template.Identifier
import ServiceLoom.Text.Blank

/-!
# Names that generated code may use

The name of a module has to be an identifier of the generated language, and none
of the words that the language keeps for itself.  Folding and what is added to
names see to the first for any slug.  They see to the second only for the words
that they know: a slug that folds to another reserved word, or to an underscore,
is taken for a name as it is.  Type names start with a capital letter where they
can, with an added one where not, and are always free.

* `moduleName_identifier` — module names are written with the right characters;
* `protect_legal_iff` — which texts become names that may be used;
* `names_legal_iff` — which slugs do.
-/

namespace ServiceLoom.Template

/-- The words that cannot name anything: those in use, and those that are kept
for later. -/
def reservedWords : List String :=
  ["as", "async", "await", "break", "const", "continue", "crate", "dyn", "else",
    "enum", "extern", "false", "fn", "for", "if", "impl", "in", "let", "loop",
    "match", "mod", "move", "mut", "pub", "ref", "return", "self", "Self",
    "static", "struct", "super", "trait", "true", "type", "unsafe", "use",
    "where", "while", "abstract", "become", "box", "do", "final", "macro",
    "override", "priv", "try", "typeof", "unsized", "virtual", "yield"]

/-- The reserved words in small letters to which nothing is added. -/
def unguardedWords : List String :=
  ["true", "false", "abstract", "become", "do", "final", "macro", "override",
    "priv", "try", "typeof", "unsized", "virtual"]

/-- A text of letters, digits and underscores that does not start with a
digit. -/
structure IsIdentifier (name : String) : Prop where
  ne_empty : name ≠ ""
  chars : ∀ c ∈ name.toList, c.isAlphanum = true ∨ c = '_'
  starts : ∀ c, name.toList.head? = some c → c.isDigit = false

/-- A name that a module may have. -/
structure IsLegalModuleName (name : String) : Prop
    extends IsIdentifier name where
  not_lone : name ≠ "_"
  not_reserved : name ∉ reservedWords

/-- A text of letters and digits that starts with a letter. -/
structure IsTypePrefix (name : String) : Prop where
  ne_empty : name ≠ ""
  chars : ∀ c ∈ name.toList, c.isAlphanum = true
  starts : ∀ c, name.toList.head? = some c → c.isAlpha = true

/-! ## Characters -/

/-- A character of a folded slug: a small letter, a digit or an underscore. -/
def isNameChar (c : Char) : Bool := c.isLower || c.isDigit || c == '_'

theorem isNameChar_moduleChar (c : Char) : isNameChar (moduleChar c) = true :=
  forall_moduleChar (P := fun c => isNameChar c = true) (by decide +kernel) c

/-- A module name is written in small letters, digits and underscores. -/
theorem isNameChar_of_mem {slug : String} {c : Char}
    (h : c ∈ (moduleName slug).toList) : isNameChar c = true := by
  rw [← moduleChar_of_mem h]
  exact isNameChar_moduleChar c

theorem isNameChar_of_mem_folded {slug : String} {c : Char}
    (h : c ∈ (folded slug).toList) : isNameChar c = true := by
  rw [folded, String.toList_ofList] at h
  obtain ⟨d, -, rfl⟩ := List.mem_map.mp h
  exact isNameChar_moduleChar d

/-! ## What is added to names -/

/-- A text that is not given a letter has characters, and the first is no
digit. -/
theorem needsLetter_eq_false_iff {cs : List Char} :
    needsLetter cs = false ↔ cs ≠ [] ∧ ∀ c, cs.head? = some c →
      c.isDigit = false := by
  cases cs with
  | nil => simp [needsLetter]
  | cons c rest => simp [needsLetter]

/-- What is added to a text makes it start with a letter or an underscore. -/
theorem needsLetter_protect (s : String) :
    needsLetter (protect s).toList = false := by
  rcases protect_cases s with (⟨-, hadded⟩ | ⟨hkeyword, hadded⟩) | hself
  · rw [hadded, needsLetter_letter]
  · rw [hadded]
    exact (keywords_spelled s hkeyword).2.2.1
  · rw [hself]
    exact (protect_eq_self_iff.mp hself).1

/-- **Module names are identifiers**, whatever the slug. -/
theorem moduleName_identifier (slug : String) :
    IsIdentifier (moduleName slug) := by
  have hstarts := needsLetter_protect (folded slug)
  rw [← moduleName_eq_protect] at hstarts
  obtain ⟨hne, hfirst⟩ := needsLetter_eq_false_iff.mp hstarts
  refine ⟨fun hempty => hne (hempty ▸ rfl), fun c hc => ?_, hfirst⟩
  have hname := isNameChar_of_mem hc
  rw [isNameChar, Bool.or_eq_true, beq_iff_eq] at hname
  refine hname.imp_left fun h => ?_
  rcases Bool.or_eq_true_iff.mp h with hlower | hdigit
  · have halpha : c.isAlpha = true := Bool.or_eq_true_iff.mpr (.inr hlower)
    simp [Char.isAlphanum, halpha]
  · simp [Char.isAlphanum, hdigit]

/-- No reserved word has an underscore in it, and the words that are known are
no others. -/
theorem reservedWords_spelled :
    (∀ w ∈ reservedWords, '_' ∉ w.toList ∧
      (w ∈ keywords ∨ w = "Self" ∨ w ∈ unguardedWords)) ∧
    (∀ w ∈ unguardedWords, w ∈ reservedWords ∧ w ∉ keywords ∧
      needsLetter w.toList = false) := by
  decide +kernel

/-- What becomes of a text by an addition has an underscore and something
besides. -/
theorem Becomes.underscore {a b : String} (h : Becomes a b) :
    '_' ∈ b.toList ∧ b ≠ "_" := by
  rcases h with ⟨-, rfl⟩ | ⟨hkeyword, rfl⟩
  · refine ⟨?_, fun heq => ?_⟩
    · rw [String.toList_append]
      exact List.mem_append_left _ (by decide)
    · have hchars := congrArg String.toList heq
      rw [String.toList_append] at hchars
      cases hchars
  · refine ⟨?_, fun heq => ?_⟩
    · rw [String.toList_append]
      exact List.mem_append_right _ (by decide)
    · have hempty : a = "" := by simpa using heq
      rw [hempty] at hkeyword
      revert hkeyword
      decide

/-- **Which texts become names that may be used**: all but an underscore and the
reserved words that are not known, among texts without capital letters. -/
theorem protect_legal_iff {s : String} (hself : s ≠ "Self") :
    protect s ≠ "_" ∧ protect s ∉ reservedWords ↔
    s ≠ "_" ∧ s ∉ unguardedWords := by
  obtain ⟨hreserved, hunguarded⟩ := reservedWords_spelled
  rcases protect_cases s with hbecomes | hkept
  · -- What was added to has an underscore and more, and so it is no reserved
    -- word.
    have hadded := hbecomes.underscore
    refine iff_of_true ⟨hadded.2, fun hmem => (hreserved _ hmem).1 hadded.1⟩ ?_
    rcases hbecomes with ⟨hletter, -⟩ | ⟨hkeyword, -⟩
    · refine ⟨fun heq => ?_, fun hmem => ?_⟩
      · rw [heq] at hletter
        revert hletter
        decide
      · rw [(hunguarded s hmem).2.2] at hletter
        cases hletter
    · refine ⟨fun heq => ?_, fun hmem => (hunguarded s hmem).2.1 hkeyword⟩
      rw [heq] at hkeyword
      revert hkeyword
      decide
  · have hother : s ∉ keywords := (protect_eq_self_iff.mp hkept).2
    rw [hkept]
    refine and_congr_right fun _ =>
      not_congr ⟨fun hmem => ?_, fun hmem => (hunguarded s hmem).1⟩
    exact ((hreserved s hmem).2.resolve_left hother).resolve_left hself

/-! ## Names of slugs -/

/-- Letters and digits that are not given a letter start with one. -/
theorem isTypePrefix_ofList {cs : List Char}
    (hchars : ∀ c ∈ cs, c.isAlphanum = true) (hneeds : needsLetter cs = false) :
    IsTypePrefix (String.ofList cs) := by
  obtain ⟨hne, hfirst⟩ := needsLetter_eq_false_iff.mp hneeds
  refine ⟨fun hempty => hne ?_, ?_, fun c hc => ?_⟩
  · rw [← String.toList_ofList (l := cs), hempty, String.toList_empty]
  · rwa [String.toList_ofList]
  · rw [String.toList_ofList] at hc
    have halnum := hchars c (List.mem_of_mem_head? hc)
    rwa [Char.isAlphanum, hfirst c hc, Bool.or_false] at halnum

/-- **Type names are free**: they are made of letters and digits and start with
a letter, whatever the slug. -/
theorem typeName_isTypePrefix (slug : String) :
    IsTypePrefix (typeName slug) := by
  have hchars : ∀ c ∈ (Names.pascal slug).toList.filter Char.isAlphanum,
      c.isAlphanum = true :=
    fun c hc => (List.mem_filter.mp hc).2
  unfold typeName
  dsimp only
  cases hneeds :
      needsLetter ((Names.pascal slug).toList.filter Char.isAlphanum) with
  | true =>
      exact isTypePrefix_ofList (List.forall_mem_cons.mpr ⟨by decide, hchars⟩) rfl
  | false => exact isTypePrefix_ofList hchars hneeds

/-- **Which slugs give names that may be used.** For any slug, the module name
is an identifier in small letters, and the type name is free.  The module name
may be used exactly when the slug does not fold to an underscore or to one of
the reserved words that are not known. -/
theorem names_legal_iff (slug : String) :
    IsIdentifier (moduleName slug) ∧
    (moduleName slug).toList.all isNameChar = true ∧
      IsTypePrefix (typeName slug) ∧
      (IsLegalModuleName (moduleName slug) ↔
        folded slug ≠ "_" ∧ folded slug ∉ unguardedWords) := by
  have hidentifier := moduleName_identifier slug
  have hself : folded slug ≠ "Self" := by
    intro heq
    have hcapital := @isNameChar_of_mem_folded slug 'S' (by rw [heq]; decide)
    revert hcapital
    decide
  refine ⟨hidentifier, List.all_eq_true.mpr fun c hc =>
    isNameChar_of_mem hc, typeName_isTypePrefix slug, ?_⟩
  rw [← protect_legal_iff hself, ← moduleName_eq_protect]
  exact ⟨fun h => ⟨h.not_lone, h.not_reserved⟩, fun h => ⟨hidentifier, h.1, h.2⟩⟩

/-- Slugs that are not blank, and whose modules cannot be declared: a reserved
word is left as it is, and a hyphen becomes a lone underscore. -/
theorem abstract_not_legal : Text.isBlank "abstract" = false ∧
    moduleName "abstract" = "abstract" ∧
    ¬ IsLegalModuleName (moduleName "abstract") ∧
    Text.isBlank "-" = false ∧ moduleName "-" = "_" ∧
    ¬ IsLegalModuleName (moduleName "-") := by
  have hword : moduleName "abstract" = "abstract" := by decide +kernel
  have hlone : moduleName "-" = "_" := by decide +kernel
  refine ⟨by decide +kernel, hword, fun h => ?_, by decide +kernel,
    hlone, fun h => h.not_lone hlone⟩
  refine h.not_reserved ?_
  rw [hword]
  decide

end ServiceLoom.Template
