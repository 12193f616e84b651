/-!
# White space

The characters that count as blank, and texts without blanks at their ends.
-/

namespace ServiceLoom.Text

/-- Whether a character is white space. -/
def isBlankChar (c : Char) : Bool :=
  let n := c.toNat
  (0x9 ≤ n && n ≤ 0xD) || n == 0x20 || n == 0x85 || n == 0xA0 || n == 0x1680 ||
    (0x2000 ≤ n && n ≤ 0x200A) || n == 0x2028 || n == 0x2029 ||
      n == 0x202F || n == 0x205F ||
    n == 0x3000

/-- The list without its leading blanks. -/
def trimStart (cs : List Char) : List Char := cs.dropWhile isBlankChar

/-- The list without its trailing blanks. -/
def trimEnd (cs : List Char) : List Char :=
  (cs.reverse.dropWhile isBlankChar).reverse

/-- The list without blanks at either end. -/
def trimChars (cs : List Char) : List Char := trimEnd (trimStart cs)

/-- The text without blanks at either end. -/
def trim (s : String) : String := String.ofList (trimChars s.toList)

/-- Whether a text holds nothing but blanks. -/
def isBlank (s : String) : Bool := s.toList.all isBlankChar

theorem dropWhile_eq_nil_iff_all (p : Char → Bool) (cs : List Char) :
    cs.dropWhile p = [] ↔ cs.all p = true := by
  induction cs with
  | nil => simp
  | cons c rest ih => by_cases h : p c <;> simp [h, ih]

/-- **A text is blank when nothing is left of it after trimming.** -/
theorem isBlank_iff_trim_eq_empty (s : String) :
    isBlank s = true ↔ trim s = "" := by
  have hnil : trimChars s.toList = [] ↔ s.toList.all isBlankChar = true := by
    unfold trimChars trimEnd trimStart
    rw [List.reverse_eq_nil_iff, dropWhile_eq_nil_iff_all, List.all_reverse]
    constructor
    · intro h
      have hd : (s.toList.dropWhile isBlankChar).dropWhile isBlankChar = [] :=
        (dropWhile_eq_nil_iff_all _ _).2 h
      cases hc : s.toList.dropWhile isBlankChar with
      | nil => exact (dropWhile_eq_nil_iff_all _ _).1 hc
      | cons c rest =>
        have hhead :=
          List.head_dropWhile_not isBlankChar (l := s.toList) (by simp [hc])
        simp [hc] at hhead
        rw [hc] at hd
        simp [List.dropWhile, hhead] at hd
    · intro h
      rw [(dropWhile_eq_nil_iff_all _ _).2 h]; rfl
  unfold isBlank trim
  rw [← hnil]
  constructor
  · intro h; rw [h]
  · intro h
    have := congrArg String.toList h
    simpa using this

end ServiceLoom.Text
