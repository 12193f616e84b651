import ServiceLoom.Proofs.Calendar.Digits
import ServiceLoom.Proofs.Decimal.Whole
import ServiceLoom.Proofs.Json.Numeral

/-!
# What the text of a float says

The text of a float denotes the shortest decimal of the float, whichever way its
digits are laid out (`Layout.exactMagnitude?_magnitude`).  As a float is known
by its shortest decimal, it is known by its text
(`Layout.value?_eq_of_write_eq`).
-/

namespace ServiceLoom.Decimal

open Json (IsDigits EndsDigits endsDigits_nil endsDigits_cons)

/-- The number that a numeral without a sign denotes, exactly. -/
def exactMagnitude? (cs : List Char) : Option ℚ :=
  let whole := cs.takeWhile Char.isDigit
  let (fraction, rest) := splitFraction (cs.dropWhile Char.isDigit)
  (readExponent? rest).map fun e =>
    (natOfDigits (whole ++ fraction) : ℚ) * 10 ^ (e - (fraction.length : ℤ))

/-! ## Reading exactly -/

section Reading

variable {whole fraction rest digits : List Char}

theorem exactMagnitude?_point (hwhole : IsDigits whole)
    (hfraction : IsDigits fraction) (hrest : EndsDigits rest) :
    exactMagnitude? (whole ++ '.' :: (fraction ++ rest)) =
      (readExponent? rest).map fun e => (natOfDigits (whole ++ fraction) : ℚ) *
        10 ^ (e - (fraction.length : ℤ)) := by
  have hpoint : EndsDigits ('.' :: (fraction ++ rest)) :=
    endsDigits_cons (by decide) _
  obtain ⟨htaken, hleft⟩ := Json.span_digits_append hwhole.2 hpoint
  obtain ⟨htaken', hleft'⟩ := Json.span_digits_append hfraction.2 hrest
  rw [exactMagnitude?, htaken, hleft, splitFraction, htaken', hleft']

theorem exactMagnitude?_plain (hwhole : IsDigits whole)
    (hrest : EndsDigits rest) (hpoint : ∀ tail, rest ≠ '.' :: tail) :
    exactMagnitude? (whole ++ rest) = (readExponent? rest).map fun e =>
      (natOfDigits whole : ℚ) * 10 ^ e := by
  obtain ⟨htaken, hleft⟩ := Json.span_digits_append hwhole.2 hrest
  have hsplit : splitFraction rest = ([], rest) := by
    unfold splitFraction
    split
    next tail => exact absurd rfl (hpoint tail)
    next => rfl
  rw [exactMagnitude?, htaken, hleft, hsplit]
  simp

/-- What starts with a minus sign denotes nothing without it. -/
theorem exactMagnitude?_minus (cs : List Char) :
    exactMagnitude? ('-' :: cs) = none := rfl

/-- Digits have no sign in front. -/
theorem splitSign_digits (h : IsDigits digits) :
    splitSign digits = (false, digits) := by
  unfold splitSign
  split
  next => cases h.2 _ List.mem_cons_self
  next => cases h.2 _ List.mem_cons_self
  next => rfl

/-- An exponent is read with its sign. -/
theorem readExponent?_of_splitSign {cs : List Char} {negative : Bool}
    (hsign : splitSign cs = (negative, digits)) (h : IsDigits digits) :
    readExponent? ('e' :: cs) = some (if negative then -(natOfDigits digits : ℤ)
      else natOfDigits digits) := by
  have hall : digits ≠ [] ∧ digits.all Char.isDigit = true :=
    ⟨h.1, List.all_eq_true.mpr h.2⟩
  simp [readExponent?, hsign, hall]

end Reading

/-! ## Digits in base ten -/

theorem natOfDigits_natDigits (n : ℕ) :
    natOfDigits (Layout.natDigits n) = n := by
  rw [natOfDigits_eq_ofDigitChars, Layout.natDigits,
    Nat.ofDigitChars_ten_toDigits]

theorem natOfDigits_zeros_append (k : ℕ) (digits : List Char) :
    natOfDigits (Layout.zeros k ++ digits) = natOfDigits digits := by
  rw [natOfDigits_eq_ofDigitChars, natOfDigits_eq_ofDigitChars, Layout.zeros,
    Nat.ofDigitChars_append, Nat.ofDigitChars_replicate_zero, Nat.mul_zero]

theorem natOfDigits_append_zeros (digits : List Char) (k : ℕ) :
    natOfDigits (digits ++ Layout.zeros k) = natOfDigits digits * 10 ^ k := by
  rw [natOfDigits_eq_ofDigitChars, natOfDigits_eq_ofDigitChars, Layout.zeros,
    Nat.ofDigitChars_append, Nat.ofDigitChars_replicate_zero, Nat.mul_comm]

/-- Digits alone denote what they are read as. -/
theorem exactMagnitude?_digits {digits : List Char} (h : IsDigits digits) :
    exactMagnitude? digits = some (natOfDigits digits : ℚ) := by
  have hread := exactMagnitude?_plain h endsDigits_nil nofun
  rw [List.append_nil, readExponent?, Option.map_some,
    zpow_zero, mul_one] at hread
  exact hread

/-- A fraction of zero adds nothing. -/
theorem exactMagnitude?_pointZero {digits : List Char} (h : IsDigits digits) :
    exactMagnitude? (digits ++ ['.', '0']) = some (natOfDigits digits : ℚ) := by
  have hread := exactMagnitude?_point h isDigits_zero endsDigits_nil
  have hshift : natOfDigits (digits ++ ['0']) = natOfDigits digits * 10 ^ 1 :=
    natOfDigits_append_zeros digits 1
  have htenth : (10 : ℚ) * 10 ^ (0 - (1 : ℤ)) = 1 := by norm_num
  rw [List.append_nil, readExponent?, Option.map_some, hshift,
    pow_one, Nat.cast_mul, Nat.cast_ofNat, mul_assoc, List.length_singleton,
    Nat.cast_one, htenth, mul_one] at hread
  exact hread

namespace Layout

variable {l : Layout} {digits : List Char}

/-- **Digits that are written positionally** denote what they do with the point
after so many places. -/
theorem exactMagnitude?_positional (h : IsDigits digits) (places : ℤ) :
    exactMagnitude? (l.positional digits places) =
      some ((natOfDigits digits : ℚ) * 10 ^ (places - (digits.length : ℤ))) := by
  unfold positional
  split
  next hplaces =>
    have hvalue : natOfDigits (['0'] ++ (zeros (-places).toNat ++ digits)) =
        natOfDigits digits := by
      rw [← List.append_assoc]
      exact natOfDigits_zeros_append ((-places).toNat + 1) digits
    have hlength : (0 : ℤ) - (zeros (-places).toNat ++ digits).length =
        places - digits.length := by
      rw [List.length_append, zeros, List.length_replicate]
      omega
    have hread := exactMagnitude?_point isDigits_zero
        (isDigits_zeros_append (-places).toNat h) endsDigits_nil
    rw [List.append_nil, hvalue, readExponent?, Option.map_some,
      hlength] at hread
    rw [← hread]
    simp
  next hplaces =>
    split
    next hlength =>
      have hwhole := isDigits_append_zeros h (places.toNat - digits.length)
      have hvalue :
          (natOfDigits (digits ++ zeros (places.toNat - digits.length)) : ℚ) =
          natOfDigits digits * 10 ^ (places - (digits.length : ℤ)) := by
        have hexponent : ((places.toNat - digits.length : ℕ) : ℤ) =
            places - digits.length := by omega
        rw [natOfDigits_append_zeros, Nat.cast_mul,
          Nat.cast_pow, Nat.cast_ofNat, ← zpow_natCast, hexponent]
      split
      · exact (exactMagnitude?_pointZero hwhole).trans (congrArg some hvalue)
      · rw [List.append_nil]
        exact (exactMagnitude?_digits hwhole).trans (congrArg some hvalue)
    next hlength =>
      have hread :=
        exactMagnitude?_point (isDigits_take h (n := places.toNat) (by omega))
          (isDigits_drop h (n := places.toNat) (by omega)) endsDigits_nil
      have hexponent : (0 : ℤ) - (digits.drop places.toNat).length =
          places - digits.length := by
        rw [List.length_drop]
        omega
      rw [List.append_nil, List.take_append_drop, readExponent?,
        Option.map_some, hexponent] at hread
      rw [← hread]
      simp

/-- The exponent of the first digit is read. -/
theorem readExponent?_exponent (l : Layout) (first : ℤ) :
    readExponent? ('e' :: (if first < 0 then '-' :: natDigits first.natAbs
      else (if l.exponentPlus then ['+'] else []) ++ natDigits first.natAbs)) =
        some first := by
  have hdigits : IsDigits (natDigits first.natAbs) := isDigits_toDigits _
  split
  next hneg =>
    have habs : -(first.natAbs : ℤ) = first := by omega
    have hsign : splitSign ('-' :: natDigits first.natAbs) =
        (true, natDigits first.natAbs) := rfl
    rw [readExponent?_of_splitSign hsign hdigits, if_pos rfl,
      natOfDigits_natDigits, habs]
  next hpos =>
    have habs : (first.natAbs : ℤ) = first := by omega
    have hsign : splitSign
        ((if l.exponentPlus then ['+'] else []) ++ natDigits first.natAbs) =
        (false, natDigits first.natAbs) := by
      split
      · rfl
      · exact splitSign_digits hdigits
    rw [readExponent?_of_splitSign hsign hdigits, if_neg Bool.false_ne_true,
      natOfDigits_natDigits, habs]

/-- **Digits that are written with an exponent** denote what they do with the
point after the first. -/
theorem exactMagnitude?_scientific (h : IsDigits digits) (first : ℤ) :
    exactMagnitude? (l.scientific digits first) =
      some ((natOfDigits digits : ℚ) *
        10 ^ (first + 1 - (digits.length : ℤ))) := by
  have hfirst := readExponent?_exponent l first
  have hone : IsDigits (digits.take 1) := isDigits_take h (by decide)
  have hpos : digits.length ≠ 0 :=
    fun hzero => h.1 (List.length_eq_zero_iff.mp hzero)
  unfold scientific
  dsimp only
  rw [List.append_assoc, List.append_assoc]
  generalize hexponent :
      (['e'] ++ (if first < 0 then '-' :: natDigits first.natAbs
    else (if l.exponentPlus then ['+'] else []) ++
      natDigits first.natAbs)) = exponent
  have hends : EndsDigits exponent := hexponent ▸ endsDigits_cons (by decide) _
  have hread : readExponent? exponent = some first := hexponent ▸ hfirst
  split
  next hempty =>
    have hnil : digits.drop 1 = [] := List.isEmpty_iff.mp hempty
    have hall : digits.take 1 = digits := by
      rw [← List.append_nil (digits.take 1), ← hnil, List.take_append_drop]
    have hlength : first + 1 - (digits.length : ℤ) = first := by
      have hle := List.drop_eq_nil_iff.mp hnil
      omega
    rw [List.nil_append,
      exactMagnitude?_plain hone hends (by subst hexponent; exact nofun),
      hread, hall, hlength]
    rfl
  next hmore =>
    have hlength : first - ((digits.drop 1).length : ℤ) =
        first + 1 - digits.length := by
      rw [List.length_drop]
      omega
    have hrest : IsDigits (digits.drop 1) :=
      ⟨fun hnil => hmore (List.isEmpty_iff.mpr hnil),
        fun c hc => h.2 c (List.mem_of_mem_drop hc)⟩
    rw [List.cons_append, exactMagnitude?_point hone hrest hends, hread,
      Option.map_some, List.take_append_drop, hlength]

/-- **The digits of a positive number** denote it, positionally or with an
exponent. -/
theorem exactMagnitude?_magnitude (l : Layout) (d : Digits) :
    exactMagnitude? (l.magnitude d) = some d.value := by
  have hdigits : IsDigits (natDigits d.coefficient) := isDigits_toDigits _
  have hfirst : d.exponent + (natDigits d.coefficient).length - 1 +
      1 - ((natDigits d.coefficient).length : ℤ) =
      d.exponent := by omega
  unfold magnitude Digits.value
  dsimp only
  split
  · rw [exactMagnitude?_positional hdigits, natOfDigits_natDigits, hfirst]
  · rw [exactMagnitude?_scientific hdigits, natOfDigits_natDigits, hfirst]

/-- The text without a sign denotes zero, or the shortest decimal. -/
theorem exactMagnitude?_unsigned (l : Layout) (b : Binary) :
    exactMagnitude? (l.unsigned b) =
    some (if b.mantissa = 0 then 0
      else (shortest l.tie b.mantissa b.exponent).value) := by
  unfold unsigned
  split
  · have htext : (if l.wholeFraction then ['0', '.', '0'] else ['0']) =
        l.positional ['0'] 1 := by
      unfold positional
      cases l.wholeFraction <;> rfl
    have hvalue : natOfDigits ['0'] = 0 := rfl
    rw [htext, exactMagnitude?_positional isDigits_zero,
      hvalue, Nat.cast_zero, zero_mul]
  · exact exactMagnitude?_magnitude l _

end Layout

/-! ## Texts and floats -/

/-- Numbers whose texts agree up to the sign have one absolute value. -/
theorem Layout.magnitude_eq_of_unsigned_eq {l : Layout}
    {b c : Binary} (hb : b.mantissa ≠ 0 → Canonical b.mantissa b.exponent)
    (hc : c.mantissa ≠ 0 → Canonical c.mantissa c.exponent)
    (h : l.unsigned b = l.unsigned c) : b.magnitude = c.magnitude := by
  have hvalue : ∀ {b : Binary},
      (b.mantissa ≠ 0 → Canonical b.mantissa b.exponent) → b.mantissa ≠ 0 →
      (shortest l.tie b.mantissa b.exponent).value ≠ 0 := by
    intro b hb hpos
    have hcoefficient :=
      ((hb hpos).holds_shortest (Nat.pos_of_ne_zero hpos) l.tie).2
    exact mul_ne_zero (Nat.cast_ne_zero.mpr hcoefficient)
      (zpow_ne_zero _ (by norm_num))
  have hexact := congrArg exactMagnitude? h
  rw [exactMagnitude?_unsigned, exactMagnitude?_unsigned,
    Option.some_inj] at hexact
  by_cases hb0 : b.mantissa = 0 <;> by_cases hc0 : c.mantissa = 0
  · simp [Binary.magnitude, hb0, hc0]
  · rw [if_pos hb0, if_neg hc0] at hexact
    exact absurd hexact.symm (hvalue hc hc0)
  · rw [if_neg hb0, if_pos hc0] at hexact
    exact absurd hexact (hvalue hb hb0)
  · rw [if_neg hb0, if_neg hc0] at hexact
    exact (hb hb0).eq_of_value_shortest_eq (hc hc0)
      (Nat.pos_of_ne_zero hb0) (Nat.pos_of_ne_zero hc0) hexact

/-- **A finite float is known by its text**, in any layout. -/
theorem Layout.value?_eq_of_write_eq {l : Layout} {x y : Float}
    (hx : x.isFinite = true) (hy : y.isFinite = true)
    (h : l.write x = l.write y) : value? x = value? y := by
  obtain ⟨b, hb, hbcanonical⟩ := exists_reading_eq hx
  obtain ⟨c, hc, hccanonical⟩ := exists_reading_eq hy
  have htext := congrArg String.toList h
  rw [l.toList_write hb, l.toList_write hc] at htext
  rw [value?_of_reading hb, value?_of_reading hc, Binary.value, Binary.value]
  -- A text without a sign does not start with one.
  have hsign : ∀ b c : Binary, '-' :: l.unsigned b ≠ l.unsigned c := by
    intro b c heq
    have hexact := congrArg exactMagnitude? heq
    rw [exactMagnitude?_minus, exactMagnitude?_unsigned] at hexact
    cases hexact
  cases hbsign : b.negative <;> cases hcsign :
    c.negative <;> rw [hbsign, hcsign] at htext
  case false.false =>
    exact congrArg
      some (magnitude_eq_of_unsigned_eq hbcanonical hccanonical htext)
  case true.true =>
    have hunsigned : l.unsigned b = l.unsigned c :=
      List.tail_eq_of_cons_eq htext
    exact congrArg (fun q => some (-q))
      (magnitude_eq_of_unsigned_eq hbcanonical hccanonical hunsigned)
  case true.false => exact absurd htext (hsign b c)
  case false.true => exact absurd htext.symm (hsign c b)

/-! ## Integers and floats of documents -/

/-- The digits of a number of a document are marked by a point or an
exponent. -/
theorem exists_mark_magnitude (d : Digits) :
    ∃ c ∈ documentLayout.magnitude d, c = '.' ∨ c = 'e' := by
  rw [Layout.magnitude]
  split
  · rw [Layout.positional]
    split
    · exact ⟨'.', by simp, .inl rfl⟩
    · split
      · exact ⟨'.', by simp [documentLayout], .inl rfl⟩
      · exact ⟨'.', by simp, .inl rfl⟩
  · exact ⟨'e', by simp [Layout.scientific], .inr rfl⟩

/-- So is a finite float. -/
theorem exists_mark_write {x : Float} (hx : x.isFinite = true) :
    ∃ c ∈ (documentLayout.write x).toList, c = '.' ∨ c = 'e' := by
  obtain ⟨b, hreading, -⟩ := exists_reading_eq hx
  obtain ⟨c, hc, hmark⟩ : ∃ c ∈ documentLayout.unsigned b, c = '.' ∨
      c = 'e' := by
    unfold Layout.unsigned
    split
    · exact ⟨'.', by decide, .inl rfl⟩
    · exact exists_mark_magnitude _
  refine ⟨c, ?_, hmark⟩
  rw [documentLayout.toList_write hreading]
  split
  · exact List.mem_cons_of_mem _ hc
  · exact hc

/-- The text of an integer is a sign and digits. -/
theorem isDigit_of_mem_toString {n : Int} {c : Char}
    (hc : c ∈ (toString n).toList) : c = '-' ∨ c.isDigit = true := by
  have hdigit : ∀ m : Nat, c ∈ (Nat.repr m).toList → c.isDigit = true := by
    intro m hm
    rw [Nat.toList_repr] at hm
    exact Nat.isDigit_of_mem_toDigits (by decide) (by decide) hm
  cases n with
  | ofNat m => exact .inr (hdigit m hc)
  | negSucc m =>
      have hc : c ∈ ("-" ++ Nat.repr (m + 1)).toList := hc
      rw [String.toList_append, List.mem_append] at hc
      exact hc.imp List.mem_singleton.mp (hdigit (m + 1))

/-- **The text of a float in a document** is not that of an integer. -/
theorem write_ne_toString {x : Float} (hx : x.isFinite = true) (n : Int) :
    documentLayout.write x ≠ toString n := by
  intro heq
  obtain ⟨c, hc, hmark⟩ := exists_mark_write hx
  rcases isDigit_of_mem_toString (heq ▸ hc) with rfl | hdigit
  · simp at hmark
  · rcases hmark with rfl | rfl <;> cases hdigit

end ServiceLoom.Decimal
