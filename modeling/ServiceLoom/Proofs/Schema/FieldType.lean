import ServiceLoom.Proofs.Text.Blank
import ServiceLoom.Schema.FieldType

/-!
# Names of field types

A field type is read without outer blanks and case, and written under its own
name.  Reading that name gives the type again (`FieldType.ofName_name_ofName`),
since a name that is not known is kept trimmed and in lower case.
-/

namespace ServiceLoom

namespace Text

/-- A capital letter becomes another letter, and all else stays. -/
theorem toNat_toLower (c : Char) :
    (65 ≤ c.toNat ∧ c.toNat ≤ 90 ∧ c.toLower.toNat = c.toNat + 32) ∨
      c.toLower = c := by
  unfold Char.toLower
  split
  next hcapital =>
    obtain ⟨hfrom, hto⟩ := hcapital
    have hfrom : 65 ≤ c.toNat := hfrom
    have hto : c.toNat ≤ 90 := hto
    refine .inl ⟨hfrom, hto, ?_⟩
    show (c.toNat + 32) % 4294967296 = c.toNat + 32
    omega
  next => exact .inr rfl

/-- A letter is not blank in either case. -/
theorem isBlankChar_toLower (c : Char) :
    isBlankChar c.toLower = isBlankChar c := by
  rcases toNat_toLower c with ⟨hfrom, hto, hlower⟩ | hsame
  · have hblank : ∀ n, 65 ≤ n → n ≤ 122 → ∀ d : Char, d.toNat = n →
        isBlankChar d = false := by
      rintro n hn hn' d rfl
      simp [isBlankChar]
      omega
    rw [hblank _ (by omega) (by omega) c.toLower hlower,
      hblank _ hfrom (by omega) c rfl]
  · rw [hsame]

theorem toLower_toLower (c : Char) : c.toLower.toLower = c.toLower := by
  rcases toNat_toLower c with ⟨hfrom, hto, hlower⟩ | hsame
  · rcases toNat_toLower c.toLower with ⟨-, hto', -⟩ | hsame
    · omega
    · exact hsame
  · rw [hsame, hsame]

/-- A trimmed text in lower case is one already. -/
theorem lowerAscii_trim_lowerAscii_trim (s : String) :
    lowerAscii (trim (lowerAscii (trim s))) = lowerAscii (trim s) := by
  simp only [lowerAscii, trim, String.toList_ofList]
  rw [trimChars_map isBlankChar_toLower, trimChars_trimChars, List.map_map]
  exact congrArg String.ofList (List.map_congr_left fun c _ => toLower_toLower c)

end Text

/-- Names that differ in case and outer blanks stand for one type. -/
theorem FieldType.ofName_congr {a b : String}
    (h : Text.lowerAscii (Text.trim a) = Text.lowerAscii (Text.trim b)) :
    ofName a = ofName b := by
  unfold ofName
  rw [h]

/-- **The name of a type that was read stands for that type.** -/
theorem FieldType.ofName_name_ofName (raw : String) :
    ofName (ofName raw).name = ofName raw := by
  have hfixed := Text.lowerAscii_trim_lowerAscii_trim raw
  have hsame : ofName (Text.lowerAscii (Text.trim raw)) = ofName raw :=
    ofName_congr hfixed
  rw [← hsame]
  generalize Text.lowerAscii (Text.trim raw) = read at hfixed
  cases htype : ofName read with
  | other name =>
      have hname : name = read := by
        unfold ofName at htype
        rw [hfixed] at htype
        split at htype <;> cases htype
        rfl
      rw [FieldType.name, hname, htype, hname]
  | _ => decide +kernel

end ServiceLoom
