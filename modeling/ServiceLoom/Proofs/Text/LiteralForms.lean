import ServiceLoom.Proofs.Text.Literal

/-!
# All forms of string literals

The language has more escapes than generated code uses: a character by two
hexadecimal digits, underscores among the digits of a code point, and a
backslash at the end of a line, which takes the line break and the blanks after
it out of the text.  A line break may also be written with a carriage return.  A
reader of all these forms reads a literal of the plain forms as the plain reader
does (`Text.Literal.readFully?_of_read?`), and so it stops at the closing quote
of whatever was written, with the text that was written
(`Text.Literal.readFully?_encode`).
-/

namespace ServiceLoom.Text.Literal

/-! ## The reader -/

/-- The blanks that are left out after a line that is continued. -/
def isContinued (c : Char) : Bool :=
  c == ' ' || c == '\t' || c == '\n' || c == '\r'

/-- The character with two hexadecimal digits, of which the first is less than
eight. -/
def asciiEscape? (high low : Char) : Option Char := do
  let high ← hexDigit? high
  let low ← hexDigit? low
  if high < 8 then some (Char.ofNat (high * 16 + low)) else none

/-- What one of the other escapes stands for, and what follows; the backslash
has been read. -/
def otherEscape? : List Char → Option (List Char × List Char)
  | 'x' :: high :: low :: rest =>
      (asciiEscape? high low).map fun c => ([c], rest)
  | 'u' :: '\x7b' :: rest =>
    match rest.takeWhile (· ≠ '\x7d'), rest.dropWhile (· ≠ '\x7d') with
    | first :: digits, _ :: after =>
      if first = '_' then none
      else (codePoint? (first :: digits.filter (· ≠ '_'))).map fun c =>
        ([c], after)
    | _, _ => none
  | '\n' :: rest => some ([], rest.dropWhile isContinued)
  | '\r' :: '\n' :: rest => some ([], rest.dropWhile isContinued)
  | _ => none

/-- What an escape stands for, and what follows; the backslash has been read. -/
def resolve? (cs : List Char) : Option (List Char × List Char) :=
  match unescape? cs with
  | some (c, rest) => some ([c], rest)
  | none => otherEscape? cs

theorem length_lt_of_otherEscape? {cs rest text : List Char}
    (h : otherEscape? cs = some (text, rest)) : rest.length < cs.length := by
  unfold otherEscape? at h
  split at h
  next high low after =>
    obtain ⟨c, -, hpair⟩ := Option.map_eq_some_iff.mp h
    cases hpair
    simp only [List.length_cons]
    omega
  next cs =>
    have hle := (List.dropWhile_suffix (· ≠ '\x7d') (l := cs)).length_le
    split at h
    next first digits brace after _ heq =>
      split at h
      · cases h
      · obtain ⟨c, -, hpair⟩ := Option.map_eq_some_iff.mp h
        cases hpair
        rw [heq] at hle
        simp only [List.length_cons] at hle ⊢
        omega
    · cases h
  next cs =>
    have hle := (List.dropWhile_suffix isContinued (l := cs)).length_le
    cases h
    simp only [List.length_cons]
    omega
  next cs =>
    have hle := (List.dropWhile_suffix isContinued (l := cs)).length_le
    cases h
    simp only [List.length_cons]
    omega
  · cases h

theorem length_lt_of_resolve? {cs rest text : List Char}
    (h : resolve? cs = some (text, rest)) : rest.length < cs.length := by
  unfold resolve? at h
  split at h
  next heq =>
    cases h
    exact length_lt_of_unescape? heq
  · exact length_lt_of_otherEscape? h

/-- The characters up to the closing quote, and what follows it; the opening
quote has been read. -/
def readBody? : List Char → Option (List Char × List Char)
  | [] => none
  | '"' :: rest => some ([], rest)
  | '\r' :: '\n' :: rest =>
      (readBody? rest).map fun read => ('\n' :: read.1, read.2)
  | '\r' :: _ => none
  | '\\' :: cs =>
    match h : resolve? cs with
    | some (text, rest) =>
      have := length_lt_of_resolve? h
      (readBody? rest).map fun read => (text ++ read.1, read.2)
    | none => none
  | c :: cs => (readBody? cs).map fun read => (c :: read.1, read.2)
termination_by cs => cs.length
decreasing_by all_goals simp_wf; try omega

/-- The text of a literal, and what follows it. -/
def readFully? : List Char → Option (String × List Char)
  | '"' :: rest =>
      (readBody? rest).map fun read => (String.ofList read.1, read.2)
  | _ => none

/-! ## Plain literals -/

theorem readBody?_escape {cs rest : List Char} {c : Char}
    (h : unescape? cs = some (c, rest)) :
    readBody? ('\\' :: cs) = (readBody? rest).map fun read =>
      (c :: read.1, read.2) := by
  have hresolved : resolve? cs = some ([c], rest) := by
    rw [resolve?, h]
  rw [readBody?]
  split
  next heq =>
    rw [hresolved] at heq
    cases heq
    rfl
  next heq =>
    rw [hresolved] at heq
    cases heq

/-- What the plain reader reads is read alike. -/
theorem readBody?_of_readFrom? {cs : List Char} {read : List Char × List Char}
    (h : readFrom? cs = some read) : readBody? cs = some read := by
  induction cs using readFrom?.induct generalizing read with
  | case1 => simp [readFrom?] at h
  | case2 rest =>
      rw [readFrom?] at h
      rw [readBody?]
      exact h
  | case3 rest => simp [readFrom?] at h
  | case4 cs c rest hescape _ ih =>
      rw [readFrom?_escape hescape] at h
      obtain ⟨tail, htail, rfl⟩ := Option.map_eq_some_iff.mp h
      rw [readBody?_escape hescape, ih htail]
      rfl
  | case5 cs hnone =>
      rw [readFrom?] at h
      split at h
      next heq =>
        rw [hnone] at heq
        cases heq
      · cases h
  | case6 c cs hquote hreturn hbackslash ih =>
      rw [readFrom?] at h
      · obtain ⟨tail, htail, rfl⟩ := Option.map_eq_some_iff.mp h
        rw [readBody?, ih htail]
        · rfl
        · exact hquote
        · exact fun _ hc _ => hreturn hc
        · exact hreturn
        · exact hbackslash
      all_goals assumption

/-- **The reader of all forms reads what the plain reader reads.** -/
theorem readFully?_of_read? {cs : List Char} {read : String × List Char}
    (h : read? cs = some read) : readFully? cs = some read := by
  unfold read? at h
  split at h
  next rest =>
    obtain ⟨body, hbody, rfl⟩ := Option.map_eq_some_iff.mp h
    rw [readFully?, readBody?_of_readFrom? hbody]
    rfl
  · cases h

/-- **A text is read back from its literal**, whatever follows its closing
quote. -/
theorem readFully?_encode (s : String) (rest : List Char) :
    readFully? ((encode s).toList ++ rest) = some (s, rest) :=
  readFully?_of_read? (read?_encode s rest)

end ServiceLoom.Text.Literal
