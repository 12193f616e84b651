import ServiceLoom.Json.Basic
import ServiceLoom.Proofs.Decimal.Shortest

/-!
# Numerals of documents

A numeral has an optional sign, digits without a zero in front of others, an
optional fraction and an optional exponent.  Every number is written as one: an
integer by its digits, a float positionally or with an exponent.  A reader that
takes as much of a text as the grammar allows stops behind the numeral, unless a
character follows that would go on with it.

* `Number.isNumeral_text` — what is written is a numeral;
* `Json.numeral?_append` — what is read of it.
-/

namespace ServiceLoom

namespace Json

/-! ## The grammar -/

/-- Digits, at least one. -/
def IsDigits (ds : List Char) : Prop := ds ≠ [] ∧ ∀ c ∈ ds, c.isDigit = true

/-- Digits of which the first is no zero, unless it is the only one. -/
def IsWhole (ds : List Char) : Prop :=
  IsDigits ds ∧ (ds.head? = some '0' → ds = ['0'])

/-- A sign of a numeral, or none. -/
inductive IsSign : List Char → Prop
  | none : IsSign []
  | minus : IsSign ['-']

/-- A fraction, or none. -/
inductive IsFraction : List Char → Prop
  | none : IsFraction []
  | point {ds : List Char} (h : IsDigits ds) : IsFraction ('.' :: ds)

/-- An exponent, or none. -/
inductive IsExponent : List Char → Prop
  | none : IsExponent []
  | plain {ds : List Char} (h : IsDigits ds) : IsExponent ('e' :: ds)
  | plus {ds : List Char} (h : IsDigits ds) : IsExponent ('e' :: '+' :: ds)
  | minus {ds : List Char} (h : IsDigits ds) : IsExponent ('e' :: '-' :: ds)

/-- A numeral. -/
inductive IsNumeral : List Char → Prop
  | parts {sign whole fraction exponent : List Char}
      (hsign : IsSign sign) (hwhole : IsWhole whole)
      (hfraction : IsFraction fraction) (hexponent : IsExponent exponent) :
      IsNumeral (sign ++ (whole ++ (fraction ++ exponent)))

/-! ## The reader -/

/-- As many digits as there are, at least one, and what follows them. -/
def digits? (cs : List Char) : Option (List Char × List Char) :=
  if cs.takeWhile Char.isDigit = [] then none
  else some (cs.takeWhile Char.isDigit, cs.dropWhile Char.isDigit)

/-- The digits before a point. -/
def whole? (cs : List Char) : Option (List Char × List Char) := do
  let (ds, rest) ← digits? cs
  if ds.head? = some '0' ∧ ds ≠ ['0'] then none else some (ds, rest)

/-- A fraction, if a point follows. -/
def fraction? : List Char → Option (List Char × List Char)
  | '.' :: rest => (digits? rest).map fun (ds, rest) => ('.' :: ds, rest)
  | cs => some ([], cs)

/-- The digits of an exponent, behind its sign. -/
def exponentDigits? : List Char → Option (List Char × List Char)
  | '+' :: rest => (digits? rest).map fun (ds, rest) => ('+' :: ds, rest)
  | '-' :: rest => (digits? rest).map fun (ds, rest) => ('-' :: ds, rest)
  | cs => digits? cs

/-- An exponent, if its letter follows. -/
def exponentPart? : List Char → Option (List Char × List Char)
  | 'e' :: rest =>
      (exponentDigits? rest).map fun (ds, rest) => ('e' :: ds, rest)
  | 'E' :: rest =>
      (exponentDigits? rest).map fun (ds, rest) => ('E' :: ds, rest)
  | cs => some ([], cs)

/-- A numeral behind its sign. -/
def magnitude? (cs : List Char) : Option (List Char × List Char) := do
  let (whole, rest) ← whole? cs
  let (fraction, rest) ← fraction? rest
  let (exponent, rest) ← exponentPart? rest
  some (whole ++ (fraction ++ exponent), rest)

/-- A numeral at the front of a text, and what follows it. -/
def numeral? : List Char → Option (List Char × List Char)
  | '-' :: rest => (magnitude? rest).map fun (cs, rest) => ('-' :: cs, rest)
  | cs => magnitude? cs

/-- What follows is no digit. -/
def EndsDigits (rest : List Char) : Prop :=
  ∀ c, rest.head? = some c → c.isDigit = false

/-- What follows goes on with no numeral. -/
structure EndsNumeral (rest : List Char) : Prop where
  digits : EndsDigits rest
  point : ∀ tail, rest ≠ '.' :: tail
  small : ∀ tail, rest ≠ 'e' :: tail
  capital : ∀ tail, rest ≠ 'E' :: tail

section Reading

variable {ds cs rest : List Char}

/-- Digits end where no digit follows. -/
theorem span_digits_append (h : ∀ c ∈ ds, c.isDigit = true)
    (hrest : EndsDigits rest) :
    (ds ++ rest).takeWhile Char.isDigit = ds ∧
      (ds ++ rest).dropWhile Char.isDigit = rest := by
  have hstop : rest.takeWhile Char.isDigit = [] ∧
      rest.dropWhile Char.isDigit = rest := by
    cases rest with
    | nil => exact ⟨rfl, rfl⟩
    | cons c tail =>
        have hc : ¬ c.isDigit = true := ne_true_of_eq_false (hrest c rfl)
        exact ⟨List.takeWhile_cons_of_neg hc, List.dropWhile_cons_of_neg hc⟩
  rw [List.takeWhile_append_of_pos h, List.dropWhile_append_of_pos h,
    hstop.1, hstop.2, List.append_nil]
  exact ⟨rfl, rfl⟩

/-- **Digits are read** up to what is no digit. -/
theorem digits?_append (h : IsDigits ds) (hrest : EndsDigits rest) :
    digits? (ds ++ rest) = some (ds, rest) := by
  obtain ⟨htaken, hleft⟩ := span_digits_append h.2 hrest
  rw [digits?, htaken, hleft, if_neg h.1]

theorem whole?_append (h : IsWhole ds) (hrest : EndsDigits rest) :
    whole? (ds ++ rest) = some (ds, rest) := by
  obtain ⟨hdigits, hzero⟩ := h
  rw [whole?, digits?_append hdigits hrest]
  exact if_neg fun hboth => hboth.2 (hzero hboth.1)

theorem endsDigits_nil : EndsDigits [] := nofun

/-- What starts with a character that is no digit ends digits. -/
theorem endsDigits_cons {c : Char} (hc : c.isDigit = false) (rest : List Char) :
    EndsDigits (c :: rest) := by
  rintro d ⟨⟩
  exact hc

theorem fraction?_append {fraction : List Char} (h : IsFraction fraction)
    (hrest : EndsDigits rest) (hpoint : ∀ tail, rest ≠ '.' :: tail) :
    fraction? (fraction ++ rest) = some (fraction, rest) := by
  cases h with
  | none =>
      rw [List.nil_append, fraction?]
      exact hpoint
  | point hdigits =>
      rw [List.cons_append, fraction?, digits?_append hdigits hrest]
      rfl

/-- Digits do not start with a sign. -/
theorem exponentDigits?_append (h : IsDigits ds) (hrest : EndsDigits rest) :
    exponentDigits? (ds ++ rest) = some (ds, rest) := by
  have hread := digits?_append h hrest
  obtain ⟨hne, hdigit⟩ := h
  cases ds with
  | nil => exact absurd rfl hne
  | cons d ds =>
      have hd := hdigit d List.mem_cons_self
      rw [← hread, List.cons_append, exponentDigits?]
      · rintro tail ⟨⟩
        cases hd
      · rintro tail ⟨⟩
        cases hd

theorem exponentPart?_append {exponent : List Char} (h : IsExponent exponent)
    (hrest : EndsNumeral rest) :
    exponentPart? (exponent ++ rest) = some (exponent, rest) := by
  cases h with
  | none =>
      rw [List.nil_append, exponentPart?]
      · exact hrest.small
      · exact hrest.capital
  | plain hdigits =>
      rw [List.cons_append, exponentPart?,
        exponentDigits?_append hdigits hrest.digits]
      rfl
  | plus hdigits | minus hdigits =>
      rw [List.cons_append, List.cons_append, exponentPart?,
        exponentDigits?, digits?_append hdigits hrest.digits]
      rfl

/-- What follows the fraction goes on with no fraction. -/
theorem ends_exponent_append {exponent : List Char} (h : IsExponent exponent)
    (hrest : EndsNumeral rest) :
    EndsDigits (exponent ++ rest) ∧ ∀ tail, exponent ++ rest ≠ '.' :: tail := by
  cases h with
  | none => exact ⟨hrest.digits, hrest.point⟩
  | plain | plus | minus => exact ⟨endsDigits_cons (by decide) _, nofun⟩

theorem endsDigits_fraction_append {fraction : List Char}
    (h : IsFraction fraction) (hrest : EndsDigits rest) :
    EndsDigits (fraction ++ rest) := by
  cases h with
  | none => exact hrest
  | point => exact endsDigits_cons (by decide) _

/-- **A numeral is read**, as it is written, if what follows does not go on with
it. -/
theorem numeral?_append (h : IsNumeral cs) (hrest : EndsNumeral rest) :
    numeral? (cs ++ rest) = some (cs, rest) := by
  obtain ⟨hsign, hwhole, hfraction, hexponent⟩ := h
  next sign whole fraction exponent =>
  obtain ⟨hdigits, hpoint⟩ := ends_exponent_append hexponent hrest
  have hmagnitude : magnitude? (whole ++ (fraction ++ exponent) ++ rest) =
      some (whole ++ (fraction ++ exponent), rest) := by
    rw [List.append_assoc, List.append_assoc, magnitude?,
      whole?_append hwhole (endsDigits_fraction_append hfraction hdigits)]
    show (fraction? (fraction ++ (exponent ++ rest))).bind _ = _
    rw [fraction?_append hfraction hdigits hpoint]
    show (exponentPart? (exponent ++ rest)).bind _ = _
    rw [exponentPart?_append hexponent hrest]
    rfl
  cases hsign with
  | minus =>
      show numeral? ('-' :: (whole ++ (fraction ++ exponent) ++ rest)) = _
      rw [numeral?, hmagnitude]
      rfl
  | none =>
      rw [List.nil_append, ← hmagnitude, numeral?]
      -- A magnitude starts with a digit.
      obtain ⟨⟨hne, hdigit⟩, -⟩ := hwhole
      cases whole with
      | nil => exact absurd rfl hne
      | cons d ds =>
          rintro tail ⟨⟩
          cases hdigit _ List.mem_cons_self

end Reading

end Json

/-! ## What is written -/

open Json

/-- The digits of a natural number are digits. -/
theorem isDigits_toDigits (n : Nat) : IsDigits (Nat.toDigits 10 n) :=
  ⟨Nat.toDigits_ne_nil, fun _ hc =>
    Nat.isDigit_of_mem_toDigits (show 0 < 10 by decide) (by decide) hc⟩

theorem isDigits_zero : IsDigits ['0'] := isDigits_toDigits 0

/-- Only zero starts with a zero. -/
theorem head?_toDigits_ne {n : Nat} (hn : n ≠ 0) :
    (Nat.toDigits 10 n).head? ≠ some '0' := by
  induction n using Nat.strongRecOn with
  | ind n ih =>
      by_cases hlt : n < 10
      · rw [Nat.toDigits_of_lt_base hlt]
        have hsmall : ∀ d < 10, d ≠ 0 →
            [Nat.digitChar d].head? ≠ some '0' := by decide
        exact hsmall n hlt hn
      · have hfront := ih (n / 10) (by omega) (by omega)
        rw [Nat.toDigits_of_base_le (by decide) (by omega),
          List.head?_append_of_ne_nil _ Nat.toDigits_ne_nil]
        exact hfront

theorem isWhole_toDigits (n : Nat) : IsWhole (Nat.toDigits 10 n) := by
  refine ⟨isDigits_toDigits n, ?_⟩
  intro hzero
  by_cases hn : n = 0
  · rw [hn]
    rfl
  · exact absurd hzero (head?_toDigits_ne hn)

/-- An integer is written as a numeral. -/
theorem isNumeral_toString_int (n : Int) : IsNumeral (toString n).toList := by
  have hplain : ∀ m :
      Nat, Nat.toDigits 10 m = Nat.toDigits 10 m ++ ([] ++ []) := fun m => by
    rw [List.append_nil, List.append_nil]
  cases n with
  | ofNat m =>
      have htext : (toString (Int.ofNat m)).toList =
          [] ++ (Nat.toDigits 10 m ++ ([] ++ [])) := by
        rw [List.nil_append, ← hplain]
        exact String.toList_ofList
      rw [htext]
      exact .parts .none (isWhole_toDigits m) .none .none
  | negSucc m =>
      have htext : (toString (Int.negSucc m)).toList =
          ['-'] ++ (Nat.toDigits 10 (m + 1) ++ ([] ++ [])) := by
        rw [← hplain]
        show ("-" ++ Nat.repr (m + 1)).toList = _
        rw [String.toList_append]
        exact congrArg _ String.toList_ofList
      rw [htext]
      exact .parts .minus (isWhole_toDigits _) .none .none

namespace Decimal.Layout

variable {l : Layout} {digits : List Char}

theorem isDigits_zeros_append (n : Nat) (h : IsDigits digits) :
    IsDigits (zeros n ++ digits) := by
  refine ⟨fun hnil => h.1 (List.append_eq_nil_iff.mp hnil).2, ?_⟩
  intro c hc
  rcases List.mem_append.mp hc with hc | hc
  · rw [List.eq_of_mem_replicate hc]
    rfl
  · exact h.2 c hc

theorem isDigits_append_zeros (h : IsDigits digits) (n : Nat) :
    IsDigits (digits ++ zeros n) := by
  refine ⟨fun hnil => h.1 (List.append_eq_nil_iff.mp hnil).1, ?_⟩
  intro c hc
  rcases List.mem_append.mp hc with hc | hc
  · exact h.2 c hc
  · rw [List.eq_of_mem_replicate hc]
    rfl

theorem isDigits_take (h : IsDigits digits) {n : Nat} (hn : n ≠ 0) :
    IsDigits (digits.take n) := by
  refine ⟨fun hnil => ?_, fun c hc => h.2 c (List.mem_of_mem_take hc)⟩
  rcases List.take_eq_nil_iff.mp hnil with hzero | hempty
  · exact hn hzero
  · exact h.1 hempty

theorem isDigits_drop (h : IsDigits digits) {n : Nat} (hn : n < digits.length) :
    IsDigits (digits.drop n) := by
  refine ⟨fun hnil => ?_, fun c hc => h.2 c (List.mem_of_mem_drop hc)⟩
  have hle := List.drop_eq_nil_iff.mp hnil
  omega

/-- Digits without a zero in front are written positionally. -/
theorem isNumeral_positional (h : IsDigits digits)
    (hhead : digits.head? ≠ some '0') (places : Int) :
    ∃ whole fraction, l.positional digits places = whole ++ fraction ∧
      IsWhole whole ∧ IsFraction fraction := by
  unfold positional
  split
  · refine ⟨['0'], '.' :: (zeros (-places).toNat ++ digits),
      by simp, ⟨isDigits_zero, fun _ => rfl⟩, ?_⟩
    exact .point (isDigits_zeros_append _ h)
  next hplaces =>
    split
    · refine ⟨_, _, rfl, ⟨isDigits_append_zeros h _, fun hhead' => ?_⟩, ?_⟩
      · rw [List.head?_append_of_ne_nil _ h.1] at hhead'
        exact absurd hhead' hhead
      · split
        · exact .point isDigits_zero
        · exact .none
    next hlength =>
      refine ⟨digits.take places.toNat, '.' :: digits.drop places.toNat, by simp,
        ⟨isDigits_take h (by omega), fun hhead' => ?_⟩,
          .point (isDigits_drop h (by omega))⟩
      rw [List.head?_take, if_neg (by omega)] at hhead'
      exact absurd hhead' hhead

/-- Digits without a zero in front are written with an exponent. -/
theorem isNumeral_scientific (h : IsDigits digits)
    (hhead : digits.head? ≠ some '0') (first : Int) :
    ∃ whole fraction exponent, l.scientific digits first =
      whole ++ (fraction ++ exponent) ∧ IsWhole whole ∧
      IsFraction fraction ∧ IsExponent exponent := by
  have hfirst := isDigits_toDigits first.natAbs
  refine ⟨digits.take 1, if (digits.drop 1).isEmpty then []
    else '.' :: digits.drop 1, 'e' ::
    (if first < 0 then '-' :: natDigits first.natAbs
      else (if l.exponentPlus then ['+'] else []) ++ natDigits first.natAbs),
        ?_, ?_, ?_, ?_⟩
  · unfold scientific
    simp only [List.append_assoc, List.singleton_append]
  · refine ⟨isDigits_take h (by decide), fun hhead' => ?_⟩
    rw [List.head?_take, if_neg (by decide)] at hhead'
    exact absurd hhead' hhead
  · split
    · exact .none
    next hmore =>
      refine .point ⟨fun hnil => hmore (by rw [hnil]; rfl),
        fun c hc => h.2 c (List.mem_of_mem_drop hc)⟩
  · split
    · exact .minus hfirst
    · split
      · exact .plus hfirst
      · exact .plain hfirst

/-- A positive number is written as a numeral without a sign. -/
theorem isNumeral_magnitude {d : Digits} (hd : d.coefficient ≠ 0) :
    ∃ whole fraction exponent,
    l.magnitude d = whole ++ (fraction ++ exponent) ∧
    IsWhole whole ∧ IsFraction fraction ∧ IsExponent exponent := by
  have hdigits := isDigits_toDigits d.coefficient
  have hhead := head?_toDigits_ne hd
  unfold magnitude
  dsimp only
  split
  · obtain ⟨whole, fraction, htext, hwhole, hfraction⟩ :=
      isNumeral_positional (l := l) hdigits hhead _
    exact ⟨whole, fraction, [],
      by rw [List.append_nil]; exact htext, hwhole, hfraction, .none⟩
  · exact isNumeral_scientific hdigits hhead _

/-- **A finite float is written as a numeral**, in any layout. -/
theorem isNumeral_write {x : Float} (hx : x.isFinite = true) (l : Layout) :
    IsNumeral (l.write x).toList := by
  obtain ⟨b, hreading, hcanonical⟩ := exists_reading_eq hx
  have hbody : ∃ whole fraction exponent, l.unsigned b =
      whole ++ (fraction ++ exponent) ∧ IsWhole whole ∧
      IsFraction fraction ∧ IsExponent exponent := by
    unfold unsigned
    split
    · split
      · exact ⟨['0'], ['.', '0'], [], rfl, ⟨isDigits_zero, fun _ => rfl⟩,
          .point isDigits_zero, .none⟩
      · exact ⟨['0'], [], [], rfl, ⟨isDigits_zero, fun _ => rfl⟩, .none, .none⟩
    next hmantissa =>
      exact isNumeral_magnitude ((hcanonical hmantissa).holds_shortest
        (Nat.pos_of_ne_zero hmantissa) _).2
  obtain ⟨whole, fraction, exponent, htext, hwhole, hfraction, hexponent⟩ :=
    hbody
  rw [l.toList_write hreading, htext]
  split
  · exact .parts .minus hwhole hfraction hexponent
  · exact .parts .none hwhole hfraction hexponent

end Decimal.Layout

/-- **A number is written as a numeral.** -/
theorem Number.isNumeral_text (n : Number) : IsNumeral n.text.toList := by
  cases n with
  | integer n bounds => exact isNumeral_toString_int n
  | float x finite => exact Decimal.Layout.isNumeral_write finite _

end ServiceLoom
