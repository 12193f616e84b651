import ServiceLoom.Text.Literal
import Mathlib.Data.Nat.Digits.Defs

/-!
# Reading string literals

Between the quotes of a literal a backslash starts an escape, a bare carriage
return is not allowed, and every other character stands for itself.  A reader of
such literals gets back the text that was written (`Text.Literal.read?_encode`),
whatever its characters and whatever follows the closing quote.
-/

namespace ServiceLoom.Text

/-! ## Hexadecimal numerals -/

/-- The number that hexadecimal digits denote. -/
def hexValue? (digits : List Char) : Option Nat :=
  digits.foldlM (fun n c => (hexDigit? c).map (n * 16 + ·)) 0

theorem hexDigit?_digitChar :
    ∀ d < 16, hexDigit? (Nat.digitChar d) = some d := by decide

/-- A numeral is read back as the number of which it was made. -/
theorem hexValue?_hexDigits (n : Nat) : hexValue? (hexDigits n) = some n := by
  induction n using Nat.strongRecOn with
  | ind n ih =>
      rcases Nat.lt_or_ge n 16 with hlt | hge
      · rw [hexDigits, Nat.toDigits_of_lt_base hlt, hexValue?]
        simp [hexDigit?_digitChar n hlt]
      · have hdigit : hexDigit? (Nat.digitChar (n % 16)) = some (n % 16) :=
          hexDigit?_digitChar _ (Nat.mod_lt _ (by decide))
        have hfront : hexValue? (Nat.toDigits 16 (n / 16)) = some (n / 16) :=
          ih (n / 16) (Nat.div_lt_self (by omega) (by decide))
        rw [hexValue?] at hfront
        rw [hexDigits, Nat.toDigits_of_base_le (by decide) hge,
          hexValue?, List.foldlM_append, hfront]
        simp [hdigit, Nat.div_add_mod']

/-- A numeral is made of the sixteen digits. -/
theorem exists_digitChar_of_mem_hexDigits {n : Nat} {c : Char}
    (h : c ∈ hexDigits n) : ∃ d < 16, c = Nat.digitChar d := by
  induction n using Nat.strongRecOn with
  | ind n ih =>
      rcases Nat.lt_or_ge n 16 with hlt | hge
      · rw [hexDigits, Nat.toDigits_of_lt_base hlt] at h
        exact ⟨n, hlt, List.mem_singleton.mp h⟩
      · rw [hexDigits, Nat.toDigits_of_base_le (by decide) hge] at h
        rcases List.mem_append.mp h with h | h
        · exact ih (n / 16) (Nat.div_lt_self (by omega) (by decide)) h
        · exact ⟨n % 16, Nat.mod_lt _ (by decide), List.mem_singleton.mp h⟩

namespace Literal

/-! ## The reader -/

/-- The character with a code point. -/
def scalar? (n : Nat) : Option Char :=
  if n.isValidChar then some (Char.ofNat n) else none

/-- The character that one to six hexadecimal digits denote. -/
def codePoint? (digits : List Char) : Option Char :=
  if 1 ≤ digits.length ∧ digits.length ≤ 6 then
    (hexValue? digits).bind scalar?
  else none

/-- The character for which an escape stands, and what follows; the backslash
has been read. -/
def unescape? : List Char → Option (Char × List Char)
  | '"' :: rest => some ('"', rest)
  | '\x27' :: rest => some ('\x27', rest)
  | '\\' :: rest => some ('\\', rest)
  | 't' :: rest => some ('\t', rest)
  | 'r' :: rest => some ('\r', rest)
  | 'n' :: rest => some ('\n', rest)
  | '0' :: rest => some ('\x00', rest)
  | 'u' :: '\x7b' :: rest =>
    match rest.dropWhile (· ≠ '\x7d') with
    | _ :: after =>
        (codePoint? (rest.takeWhile (· ≠ '\x7d'))).map fun c => (c, after)
    | [] => none
  | _ => none

/-- What follows an escape is shorter than the escape and what follows. -/
theorem length_lt_of_unescape? {cs rest : List Char} {c : Char}
    (h : unescape? cs = some (c, rest)) : rest.length < cs.length := by
  unfold unescape? at h
  split at h
  case h_8 cs =>
    have hle := (List.dropWhile_suffix (· ≠ '\x7d') (l := cs)).length_le
    split at h
    next first after heq =>
      rw [heq] at hle
      obtain ⟨_, -, hpair⟩ := Option.map_eq_some_iff.mp h
      cases hpair
      simp only [List.length_cons] at hle ⊢
      omega
    · cases h
  case h_9 => cases h
  all_goals
    cases h
    simp

/-- The characters up to the closing quote, and what follows it; the opening
quote has been read. -/
def readFrom? : List Char → Option (List Char × List Char)
  | [] => none
  | '"' :: rest => some ([], rest)
  | '\r' :: _ => none
  | '\\' :: cs =>
    match h : unescape? cs with
    | some (c, rest) =>
      have := length_lt_of_unescape? h
      (readFrom? rest).map fun read => (c :: read.1, read.2)
    | none => none
  | c :: cs => (readFrom? cs).map fun read => (c :: read.1, read.2)
termination_by cs => cs.length
decreasing_by all_goals simp_wf; try omega

/-- The text of a literal, and what follows it. -/
def read? : List Char → Option (String × List Char)
  | '"' :: rest =>
      (readFrom? rest).map fun read => (String.ofList read.1, read.2)
  | _ => none

/-! ## Reading what was written -/

theorem readFrom?_escape {cs rest : List Char} {c : Char}
    (h : unescape? cs = some (c, rest)) :
    readFrom? ('\\' :: cs) = (readFrom? rest).map fun read =>
      (c :: read.1, read.2) := by
  rw [readFrom?]
  split
  next heq =>
    rw [h] at heq
    cases heq
    rfl
  next heq =>
    rw [h] at heq
    cases heq

/-- The code point of a character denotes it. -/
theorem codePoint?_hexDigits (c : Char) :
    codePoint? (hexDigits c.toNat) = some c := by
  have hvalid : c.toNat.isValidChar := c.valid
  have hlt : c.toNat < 16 ^ 6 := by
    rcases hvalid with h | h <;> omega
  have hlength : 1 ≤ (hexDigits c.toNat).length ∧
      (hexDigits c.toNat).length ≤ 6 :=
    ⟨Nat.length_toDigits_pos, Nat.toDigits_length 16 _ 6 (by decide) hlt⟩
  rw [codePoint?, if_pos hlength, hexValue?_hexDigits, Option.bind_some,
    scalar?, if_pos hvalid, Char.ofNat_toNat]

/-- The code point of a character in braces is read back as that character. -/
theorem unescape?_hexDigits (c : Char) (rest : List Char) :
    unescape? ('u' :: '\x7b' :: (hexDigits c.toNat ++ '\x7d' :: rest)) =
      some (c, rest) := by
  have hopen : ∀ d ∈ hexDigits c.toNat, decide (d ≠ '\x7d') = true := by
    intro d hd
    obtain ⟨v, hv, rfl⟩ := exists_digitChar_of_mem_hexDigits hd
    have hdigits : ∀ v < 16, Nat.digitChar v ≠ '\x7d' := by decide
    exact decide_eq_true (hdigits v hv)
  have htake : (hexDigits c.toNat ++ '\x7d' :: rest).takeWhile (· ≠ '\x7d') =
      hexDigits c.toNat := by
    rw [List.takeWhile_append_of_pos hopen]
    simp
  have hdrop : (hexDigits c.toNat ++ '\x7d' :: rest).dropWhile (· ≠ '\x7d') =
      '\x7d' :: rest := by
    rw [List.dropWhile_append_of_pos hopen]
    simp
  simp only [unescape?, htake, hdrop, codePoint?_hexDigits, Option.map_some]

/-- A written character is read back. -/
theorem readFrom?_escapeChar (c : Char) (rest : List Char) :
    readFrom? (escapeChar c ++ rest) = (readFrom? rest).map fun read =>
      (c :: read.1, read.2) := by
  unfold escapeChar
  split
  case h_7 hquote hbackslash _ hreturn _ _ =>
    split
    · rw [List.append_assoc, List.singleton_append]
      exact readFrom?_escape (unescape?_hexDigits c rest)
    · rw [List.singleton_append, readFrom?]
      all_goals assumption
  all_goals exact readFrom?_escape rfl

/-- **A text is read back from its literal**, whatever follows. -/
theorem read?_encode (s : String) (rest : List Char) :
    read? ((encode s).toList ++ rest) = some (s, rest) := by
  have hread : ∀ cs, readFrom? (escape cs ++ '"' :: rest) =
      some (cs, rest) := by
    intro cs
    induction cs with
    | nil => simp [escape, readFrom?]
    | cons c cs ih =>
        have hcons : escape (c :: cs) = escapeChar c ++ escape cs :=
          List.flatMap_cons
        rw [hcons, List.append_assoc, readFrom?_escapeChar, ih]
        rfl
  rw [encode, String.toList_ofList, List.cons_append, List.append_assoc, read?,
    List.singleton_append, hread]
  simp

end Literal

end ServiceLoom.Text
