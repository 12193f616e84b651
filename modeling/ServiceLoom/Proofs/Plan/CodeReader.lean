import ServiceLoom.Proofs.Text.Literal
import ServiceLoom.Rule.DeleteGuard
import ServiceLoom.Rule.FieldRule
import Mathlib.Data.List.Basic

/-!
# Reading the code of rules and guards

A reader for the expressions that build a rule set or a guard: calls, paths,
literals and lists, with blanks between them where the language allows them.  It
performs the calls that it reads, in order, with the builders of rules and
guards.  Floating-point literals are read by a function that is given.
-/

namespace ServiceLoom.CodeReader

/-- A reader takes something from the front of a text, and leaves the rest. -/
abbrev Reader := StateT (List Char) Option

variable {α β : Type}

/-! ## Words and symbols -/

/-- The characters that may stand between two symbols. -/
def isGap (c : Char) : Bool := c == ' ' || c == '\n' || c == '\t' || c == '\r'

/-- The characters at which a word ends. -/
def isDelimiter (c : Char) : Bool :=
  c == '(' || c == ')' || c == ',' || c == ']'

/-- Looks at the next character that is no gap. -/
def peek : Reader (Option Char) := fun cs =>
  let rest := cs.dropWhile isGap
  some (rest.head?, rest)

/-- A symbol, as it is written. -/
def symbol (s : String) : Reader Unit := fun cs =>
  (s.toList.isPrefixOf? (cs.dropWhile isGap)).map ((), ·)

/-- The characters up to the next delimiter. -/
def word : Reader String := fun cs =>
  let rest := cs.dropWhile isGap
  some (String.ofList (rest.takeWhile (!isDelimiter ·)),
    rest.dropWhile (!isDelimiter ·))

/-- A text literal. -/
def literal : Reader String := fun cs => Text.Literal.read? (cs.dropWhile isGap)

/-- A natural number. -/
def natural : Reader Nat := do
  let digits ← word
  if digits ≠ "" ∧ digits.toList.all Char.isDigit then
    return Nat.ofDigitChars 10 digits.toList 0
  else failure

/-- A number with a point or an exponent. -/
def float (readFloat : String → Option Float) : Reader Float := do
  match readFloat (← word) with
  | some x => return x
  | none => failure

/-! ## Lists and chains -/

/-- Calls on what stands before them, one after the other, at most so many. -/
def chainFrom (step : Reader α) : Nat → Reader (List α)
  | 0 => failure
  | fuel + 1 => do
    match ← peek with
    | some '.' => do
      let x ← step
      let rest ← chainFrom step fuel
      return x :: rest
    | _ => return []

/-- Calls on what stands before them, one after the other. A call is longer than
one character. -/
def chain (step : Reader α) : Reader (List α) :=
  fun cs => chainFrom step (cs.length + 1) cs

/-- A list goes on behind a comma, and ends otherwise. -/
def listFrom (x : α) (more : Reader (List α)) : Reader (List α) := do
  match ← peek with
  | some ',' => do
    symbol ","
    let rest ← more
    return x :: rest
  | _ => do
    symbol "]"
    return [x]

/-- The items of a list up to its closing bracket, with commas between them, at
most so many. A comma may follow the last. -/
def itemsFrom (item : Reader α) : Nat → Reader (List α)
  | 0 => failure
  | fuel + 1 => do
    match ← peek with
    | some ']' => do
      symbol "]"
      return []
    | _ =>
      let x ← item
      listFrom x (itemsFrom item fuel)

/-- The items of a list up to its closing bracket. An item is longer than one
character. -/
def items (item : Reader α) : Reader (List α) :=
  fun cs => itemsFrom item (cs.length + 1) cs

/-! ## Rules -/

/-- The kind with a path. -/
def namedKind : String → Reader FieldKind
  | "FieldKind::Text" => pure .text
  | "FieldKind::Integer" => pure .integer
  | "FieldKind::Number" => pure .number
  | "FieldKind::Boolean" => pure .boolean
  | _ => failure

/-- The kind of a rule. -/
def fieldKind : Reader FieldKind := do namedKind (← word)

/-- What a call without arguments gives. -/
def nullary (x : α) : Reader α := do
  symbol "("
  symbol ")"
  return x

/-- What a call with one argument gives. -/
def unary (f : β → α) (argument : Reader β) : Reader α := do
  symbol "("
  let x ← argument
  symbol ")"
  return f x

/-- A slice of text literals. -/
def slice : Reader (List String) := do
  symbol "&["
  items literal

/-- What the call of a method on a rule does. -/
def namedStep (readFloat : String → Option Float) : String → Reader RuleStep
  | "required" => nullary .required
  | "unique" => nullary .unique
  | "multiple" => nullary .multiple
  | "min_length" => unary .minLength natural
  | "max_length" => unary .maxLength natural
  | "pattern" => unary .pattern literal
  | "min" => unary .min (float readFloat)
  | "max" => unary .max (float readFloat)
  | "options" => unary .options slice
  | "references" => unary .references literal
  | _ => failure

/-- A call of a method on what stands before it. -/
def methodCall (named : String → Reader α) : Reader α := do
  symbol "."
  named (← word)

/-- A rule: the one of its kind, and then the calls on it. -/
def rule (readFloat : String → Option Float) : Reader FieldRule := do
  symbol "FieldRule::new("
  let field ← literal
  symbol ","
  let label ← literal
  symbol ","
  let kind ← fieldKind
  symbol ")"
  let steps ← chain (methodCall (namedStep readFloat))
  return (FieldRule.ofKind field label kind).build steps

/-- A list, given to a function that makes something of it. -/
def listed (function : String) (item : Reader α) : Reader (List α) := do
  symbol (function ++ "(")
  symbol "vec!["
  let xs ← items item
  symbol ")"
  return xs

/-- A rule set. -/
def ruleSet (readFloat : String → Option Float) : Reader RuleSet := do
  return ⟨← listed "RuleSet::new" (rule readFloat)⟩

/-! ## Guards -/

/-- The field that the call of a method on a dependent adds. -/
def namedField : String → Reader RefField
  | "via" => unary (⟨·, false⟩) literal
  | "via_many" => unary (⟨·, true⟩) literal
  | _ => failure

/-- A dependent: one without fields, to which the calls on it add theirs. -/
def dependent : Reader DependentSpec := do
  symbol "DependentSpec::new("
  let entity ← literal
  symbol ","
  let displayField ← literal
  symbol ")"
  let fields ← chain (methodCall namedField)
  return fields.foldl (fun d f => { d with fields := d.fields ++ [f] })
    ⟨entity, displayField, []⟩

/-- A guard. -/
def deleteGuard : Reader DeleteGuard := do
  return ⟨← listed "DeleteGuard::new" dependent⟩

/-! ## Methods -/

/-- The rule set in the method that holds it. -/
def fieldRulesMethod (readFloat : String → Option Float) : Reader RuleSet := do
  symbol "fn field_rules() -> &'static RuleSet"
  symbol "\x7b"
  symbol "static RULES: LazyLock<RuleSet> = LazyLock::new(||"
  let rules ← ruleSet readFloat
  symbol ");"
  symbol "&RULES"
  symbol "\x7d"
  return rules

/-- The guard in the method that makes it. -/
def deleteGuardMethod : Reader DeleteGuard := do
  symbol "fn delete_guard() -> DeleteGuard"
  symbol "\x7b"
  let guard ← deleteGuard
  symbol "\x7d"
  return guard

/-- What a whole text holds. -/
def readAll (r : Reader α) (text : String) : Option α :=
  match r text.toList with
  | some (x, rest) => if rest.all isGap then some x else none
  | none => none

/-! ## What a reader reads -/

/-- A reader gets a value from a text, whatever gap stands before it, if what
follows is as given. -/
def Reads (follows : List Char → Prop) (r : Reader α) (text : String)
    (x : α) : Prop :=
  ∀ gap rest, gap.all isGap = true → follows rest →
    r (gap ++ (text.toList ++ rest)) = some (x, rest)

/-- What follows may be anything. -/
def Anything : List Char → Prop := fun _ => True

/-- What follows starts with a delimiter. -/
def Delimited (rest : List Char) : Prop :=
  ∃ c cs, rest = c :: cs ∧ isDelimiter c = true

/-- A text with a first character of some sort. -/
def StartsWith (p : Char → Bool) (text : String) : Prop :=
  ∃ c cs, text = String.ofList (c :: cs) ∧ p c = true

theorem StartsWith.append {p : Char → Bool} {s : String} (h : StartsWith p s)
    (t : String) : StartsWith p (s ++ t) := by
  obtain ⟨c, cs, rfl, hc⟩ := h
  exact ⟨c, cs ++ t.toList, by rw [← String.toList_inj]; simp, hc⟩

/-- A gap before a character that is none is passed over. -/
theorem dropWhile_gap {gap rest : List Char} {c : Char}
    (hgap : gap.all isGap = true) (hc : isGap c = false) :
    (gap ++ c :: rest).dropWhile isGap = c :: rest := by
  rw [List.dropWhile_append_of_pos (List.all_eq_true.mp hgap),
    List.dropWhile_cons_of_neg (by simp [hc])]

theorem eq_of_isDelimiter {c : Char} (h : isDelimiter c = true) :
    c = '(' ∨ c = ')' ∨ c = ',' ∨ c = ']' := by
  simpa [isDelimiter, or_assoc] using h

theorem peek_eq {gap rest : List Char} {c : Char} (hgap : gap.all isGap = true)
    (hc : isGap c = false) :
    peek (gap ++ c :: rest) = some (some c, c :: rest) := by
  rw [peek, dropWhile_gap hgap hc]
  rfl

namespace Reads

variable {follows : List Char → Prop} {r : Reader α} {f : α → Reader β}
    {s t : String} {x : α} {y : β}

/-- A gap may stand before the text. -/
theorem gap {blanks : String} (hblanks : blanks.toList.all isGap = true)
    (h : Reads follows r s x) : Reads follows r (blanks ++ s) x := by
  intro gap rest hgap hrest
  rw [String.toList_append, List.append_assoc, ← List.append_assoc]
  exact h _ rest (by rw [List.all_append, hgap, hblanks]; rfl) hrest

/-- What is read whatever follows is read before a delimiter. -/
theorem delimited (h : Reads Anything r s x) : Reads Delimited r s x :=
  fun gap rest hgap _ => h gap rest hgap trivial

/-- One reader after the other. -/
theorem bind (h : Reads Anything r s x) (h' : Reads follows (f x) t y) :
    Reads follows (r >>= f) (s ++ t) y := by
  intro gap rest hgap hrest
  have hfirst := h gap (t.toList ++ rest) hgap trivial
  have hsecond := h' [] rest rfl hrest
  rw [String.toList_append, List.append_assoc]
  show (r >>= f).run _ = _
  rw [StateT.run_bind]
  show (r _ >>= fun p => f p.1 p.2) = _
  rw [hfirst]
  exact hsecond

/-- One reader after the other, of which the first needs a delimiter behind what
it reads. -/
theorem bindDelimited (h : Reads Delimited r s x)
    (ht : StartsWith isDelimiter t) (h' : Reads follows (f x) t y) :
    Reads follows (r >>= f) (s ++ t) y := by
  intro gap rest hgap hrest
  have hdelimited : Delimited (t.toList ++ rest) := by
    obtain ⟨c, cs, rfl, hc⟩ := ht
    exact ⟨c, cs ++ rest, by rw [String.toList_ofList, List.cons_append], hc⟩
  have hfirst := h gap (t.toList ++ rest) hgap hdelimited
  have hsecond := h' [] rest rfl hrest
  rw [String.toList_append, List.append_assoc]
  show (r _ >>= fun p => f p.1 p.2) = _
  rw [hfirst]
  exact hsecond

/-- A reader whose value is taken for another. -/
theorem map (h : Reads follows r s x) (hf : f x = pure y) :
    Reads follows (r >>= f) s y := by
  intro gap rest hgap hrest
  show (r _ >>= fun p => f p.1 p.2) = _
  rw [h gap rest hgap hrest]
  show f x rest = _
  rw [hf]
  rfl

/-- A reader that looks ahead first. -/
theorem afterPeek {f : Option Char → Reader β} {c : Char}
    {cs : List Char} (hs : s = String.ofList (c :: cs)) (hc : isGap c = false)
    (h : Reads follows (f (some c)) s y) : Reads follows (peek >>= f) s y := by
  intro gap rest hgap hrest
  have hrest := h [] rest rfl hrest
  subst hs
  rw [String.toList_ofList, List.cons_append] at hrest ⊢
  show (peek _ >>= fun p => f p.1 p.2) = _
  rw [peek_eq hgap hc]
  exact hrest

end Reads

/-! ## Words, symbols and literals are read -/

/-- A symbol is read. -/
theorem reads_symbol {s : String} (hs : StartsWith (!isGap ·) s) :
    Reads Anything (symbol s) s () := by
  intro gap rest hgap _
  obtain ⟨c, cs, rfl, hc⟩ := hs
  rw [symbol, String.toList_ofList,
    List.cons_append, dropWhile_gap hgap (by simpa using hc),
    List.isPrefixOf?_eq_some_iff_append_eq.mpr (List.cons_append).symm]
  rfl

/-- A word is read before a delimiter. -/
theorem reads_word {s : String} {c : Char}
    {cs : List Char} (hs : s = String.ofList (c :: cs)) (hc : isGap c = false)
    (hword : (c :: cs).all (!isDelimiter ·) = true) :
    Reads Delimited word s s := by
  rintro gap _ hgap ⟨d, after, rfl, hd⟩
  have hmem : ∀ x ∈ c :: cs, (!isDelimiter x) = true :=
    List.all_eq_true.mp hword
  have htake : (c :: cs ++ d :: after).takeWhile (!isDelimiter ·) =
      c :: cs := by
    rw [List.takeWhile_append_of_pos hmem,
      List.takeWhile_cons_of_neg (by simp [hd]), List.append_nil]
  have hdrop : (c :: cs ++ d :: after).dropWhile (!isDelimiter ·) =
      d :: after := by
    rw [List.dropWhile_append_of_pos hmem,
      List.dropWhile_cons_of_neg (by simp [hd])]
  rw [word, hs, String.toList_ofList, List.cons_append,
    dropWhile_gap hgap hc, ← List.cons_append, htake, hdrop]

/-- A literal is read. -/
theorem reads_literal (s : String) :
    Reads Anything literal (Text.Literal.encode s) s := by
  intro gap rest hgap _
  have hread := Text.Literal.read?_encode s rest
  rw [Text.Literal.encode, String.toList_ofList, List.cons_append] at hread ⊢
  rw [literal, dropWhile_gap hgap (by decide)]
  exact hread

/-- The characters of numbers. -/
def isNumeralChar (c : Char) : Bool :=
  c.isAlphanum || c == '.' || c == '-' || c == '+'

/-- A text is not empty and has no characters but those of numbers. -/
def IsNumeral (cs : List Char) : Prop := cs ≠ [] ∧ cs.all isNumeralChar = true

theorem isNumeral_toDigits (n : Nat) : IsNumeral (Nat.toDigits 10 n) := by
  refine ⟨Nat.toDigits_ne_nil, List.all_eq_true.mpr fun c hc => ?_⟩
  have hdigit : c.isDigit = true :=
    Nat.isDigit_of_mem_toDigits (show 0 < 10 by decide) (by decide) hc
  simp [isNumeralChar, Char.isAlphanum, hdigit]

/-- The text of a number is a word. -/
theorem reads_numeral {s : String} (hs : IsNumeral s.toList) :
    Reads Delimited word s s := by
  have hgap : ∀ c, isNumeralChar c = true → isGap c = false := by
    intro c hc
    rw [← Bool.not_eq_true]
    intro hgap
    simp only [isGap, Bool.or_eq_true, beq_iff_eq] at hgap
    rcases hgap with ((rfl | rfl) | rfl) | rfl <;> exact absurd hc (by decide)
  have hdelimiter : ∀ c, isNumeralChar c = true → (!isDelimiter c) = true := by
    intro c hc
    rw [Bool.not_eq_true', ← Bool.not_eq_true]
    intro hdelimiter
    rcases eq_of_isDelimiter hdelimiter with
        rfl | rfl | rfl | rfl <;> exact absurd hc (by decide)
  obtain ⟨hne, hnumeral⟩ := hs
  cases hcs : s.toList with
  | nil => exact absurd hcs hne
  | cons c cs =>
      rw [hcs, List.all_eq_true] at hnumeral
      exact reads_word (by rw [← hcs, String.ofList_toList])
        (hgap c (hnumeral c List.mem_cons_self))
        (List.all_eq_true.mpr fun d hd => hdelimiter d (hnumeral d hd))

/-- A natural number is read before a delimiter. -/
theorem reads_natural (n : Nat) : Reads Delimited natural (toString n) n := by
  have hdigits : (toString n).toList = Nat.toDigits 10 n := by
    rw [Nat.toString_eq_ofList_toDigits, String.toList_ofList]
  have hdigit : ∀ c ∈ (toString n).toList, c.isDigit = true := fun c hc =>
    Nat.isDigit_of_mem_toDigits (show 0 < 10 by decide)
      (by decide) (hdigits ▸ hc)
  have hne : toString n ≠ "" := by
    intro hempty
    rw [hempty] at hdigits
    exact Nat.toDigits_ne_nil hdigits.symm
  refine (reads_numeral (hdigits ▸ isNumeral_toDigits n)).map ?_
  rw [if_pos ⟨hne, List.all_eq_true.mpr hdigit⟩, hdigits,
    Nat.ofDigitChars_ten_toDigits]

/-- A floating-point literal is read before a delimiter, if its text is that of
a number and is read. -/
theorem reads_float {readFloat : String → Option Float} {s : String} {x : Float}
    (hs : IsNumeral s.toList) (hread : readFloat s = some x) :
    Reads Delimited (float readFloat) s x :=
  (reads_numeral hs).map (by rw [hread])

/-! ## Calls are read -/

section Calls

variable {named : String → Reader α} {name s : String}

/-- The call of a method without arguments is read. -/
theorem reads_nullaryCall {x : α} (hname : Reads Delimited word name name)
    (hnamed : named name = nullary x) :
    Reads Anything (methodCall named)
      ("." ++ (name ++ ("(" ++ ("" ++ ")")))) x := by
  refine (reads_symbol ⟨_, _, rfl, rfl⟩).bind
    (hname.bindDelimited (.append ⟨_, _, rfl, rfl⟩ _) ?_)
  rw [hnamed]
  exact (reads_symbol ⟨_, _, rfl, rfl⟩).bind
    (.gap rfl ((reads_symbol ⟨_, _, rfl, rfl⟩).map rfl))

/-- The call of a method is read if its argument is. -/
theorem reads_unaryCall {f : β → α}
    {argument : Reader β} {y : β} (hname : Reads Delimited word name name)
    (hnamed : named name = unary f argument)
    (h : Reads Delimited argument s y) :
    Reads Anything (methodCall named)
      ("." ++ (name ++ ("(" ++ (s ++ ")")))) (f y) := by
  refine (reads_symbol ⟨_, _, rfl, rfl⟩).bind
    (hname.bindDelimited (.append ⟨_, _, rfl, rfl⟩ _) ?_)
  rw [hnamed]
  exact (reads_symbol ⟨_, _, rfl, rfl⟩).bind
    (h.bindDelimited ⟨_, _, rfl, rfl⟩ ((reads_symbol ⟨_, _, rfl, rfl⟩).map rfl))

end Calls

/-! ## Chains and lists are read -/

section Chains

variable {step item : Reader α} {write : α → String} {xs : List α}

theorem isGap_of_isDelimiter {c : Char} (h : isDelimiter c = true) :
    isGap c = false := by
  rcases eq_of_isDelimiter h with rfl | rfl | rfl | rfl <;> decide

/-- Before a delimiter a chain ends. -/
theorem reads_chainFrom_nil (fuel : Nat) :
    Reads Delimited (chainFrom step (fuel + 1)) "" [] := by
  rintro gap _ hgap ⟨c, cs, rfl, hc⟩
  rw [String.toList_empty, List.nil_append, chainFrom]
  show (peek (gap ++ c :: cs) >>= fun p => _) = _
  rw [peek_eq hgap (isGap_of_isDelimiter hc)]
  rcases eq_of_isDelimiter hc with rfl | rfl | rfl | rfl <;> rfl

theorem reads_chainFrom_cons {fuel : Nat} {s t : String}
    {x : α} (hstep : Reads Anything step s x) (hs : StartsWith (· == '.') s)
    (hrest : Reads Delimited (chainFrom step fuel) t xs) :
    Reads Delimited (chainFrom step (fuel + 1)) (s ++ t) (x :: xs) := by
  obtain ⟨c, cs, hst, hc⟩ := hs.append t
  obtain rfl : c = '.' := by simpa using hc
  exact .afterPeek hst rfl (hstep.bind (hrest.map rfl))

/-- **A chain of calls is read** before a delimiter. -/
theorem reads_chain (hstep : ∀ x ∈ xs, Reads Anything step (write x) x)
    (hdot : ∀ x ∈ xs, StartsWith (· == '.') (write x)) :
    Reads Delimited (chain step) (String.join (xs.map write)) xs := by
  -- Every call has a character, so there are steps enough for all of them.
  have hboth : xs.length ≤ (String.join (xs.map write)).toList.length ∧
      ∀ fuel, xs.length < fuel →
      Reads Delimited (chainFrom step fuel) (String.join (xs.map write)) xs := by
    induction xs with
    | nil =>
        refine ⟨Nat.zero_le _, fun fuel hfuel => ?_⟩
        cases fuel with
        | zero => cases hfuel
        | succ fuel => exact reads_chainFrom_nil fuel
    | cons x xs ih =>
        obtain ⟨hlength, hrest⟩ :=
          ih (fun y hy => hstep y (List.mem_cons_of_mem _ hy))
            fun y hy => hdot y (List.mem_cons_of_mem _ hy)
        have hx := hdot x List.mem_cons_self
        rw [List.map_cons, String.join_cons, String.toList_append,
          List.length_append]
        constructor
        · obtain ⟨c, cs, hcs, -⟩ := hx
          rw [hcs, String.toList_ofList, List.length_cons, List.length_cons]
          omega
        · intro fuel hfuel
          cases fuel with
          | zero => cases hfuel
          | succ fuel =>
              exact reads_chainFrom_cons (hstep x List.mem_cons_self)
                hx (hrest fuel (Nat.lt_of_succ_lt_succ hfuel))
  intro gap rest hgap hrest
  refine hboth.2 _ ?_ gap rest hgap hrest
  have hlength := hboth.1
  simp only [List.length_append]
  omega

/-- The text of a list up to its closing bracket: the items, commas between them
and perhaps behind the last, and gaps. -/
inductive ListText (write : α → String) : List α → String → Prop
  | nil : ListText write [] "]"
  | last (x : α) : ListText write [x] (write x ++ "]")
  | cons (x : α) {xs : List α} {t : String} : ListText write xs t →
      ListText write (x :: xs) (write x ++ ("," ++ t))
  | gap {blanks : String} {xs : List α} {t : String}
      (hblanks : blanks.toList.all isGap = true) :
      ListText write xs t → ListText write xs (blanks ++ t)

/-- A list has no more items than its text has characters. -/
theorem ListText.length_le {t : String} (h : ListText write xs t) :
    xs.length ≤ t.toList.length := by
  induction h with
  | nil => exact Nat.zero_le _
  | last x => simp
  | cons x _ ih =>
      simp only [String.toList_append, List.length_append, List.length_cons]
      have hcomma : ",".toList.length = 1 := rfl
      omega
  | gap _ _ ih =>
      rw [String.toList_append, List.length_append]
      omega

/-- The first character of an item: it neither is a gap nor closes a list. -/
def isItemStart (c : Char) : Bool := !isGap c && c != ']'

/-- Before an item, the reader sees that the list goes on. -/
theorem reads_itemsFrom_of_item {fuel : Nat}
    {s t : String} (hs : StartsWith isItemStart s)
    (h : Reads Anything (item >>= fun x =>
      listFrom x (itemsFrom item fuel)) (s ++ t) xs) :
    Reads Anything (itemsFrom item (fuel + 1)) (s ++ t) xs := by
  obtain ⟨c, cs, hst, hc⟩ := hs.append t
  simp only [isItemStart, Bool.and_eq_true, Bool.not_eq_true', bne_iff_ne] at hc
  refine .afterPeek hst hc.1 ?_
  split
  next heq => exact absurd (Option.some.inj heq) hc.2
  exact h

theorem reads_itemsFrom {fuel : Nat} {t : String} (h : ListText write xs t)
    (hitem : ∀ x ∈ xs, Reads Delimited item (write x) x)
    (hstart : ∀ x ∈ xs, StartsWith isItemStart (write x))
    (hfuel : xs.length < fuel) : Reads Anything (itemsFrom item fuel) t xs := by
  induction h generalizing fuel with
  | gap hblanks _ ih => exact (ih hitem hstart hfuel).gap hblanks
  | nil =>
      cases fuel with
      | zero => cases hfuel
      | succ fuel =>
          exact .afterPeek rfl rfl ((reads_symbol ⟨_, _, rfl, rfl⟩).map rfl)
  | last x =>
      cases fuel with
      | zero => cases hfuel
      | succ fuel =>
          refine reads_itemsFrom_of_item (hstart x List.mem_cons_self) ?_
          exact (hitem x List.mem_cons_self).bindDelimited ⟨_, _, rfl, rfl⟩
            (.afterPeek rfl rfl ((reads_symbol ⟨_, _, rfl, rfl⟩).map rfl))
  | @cons x xs t _ ih =>
      cases fuel with
      | zero => cases hfuel
      | succ fuel =>
          have hrest := ih (fun y hy => hitem y (List.mem_cons_of_mem _ hy))
            (fun y hy => hstart y (List.mem_cons_of_mem _ hy))
              (Nat.lt_of_succ_lt_succ hfuel)
          obtain ⟨d, ds, hdt, hd⟩ : StartsWith (· == ',') ("," ++ t) :=
            .append ⟨_, _, rfl, rfl⟩ t
          obtain rfl : d = ',' := by simpa using hd
          refine reads_itemsFrom_of_item (hstart x List.mem_cons_self) ?_
          exact (hitem x List.mem_cons_self).bindDelimited ⟨_, _, hdt, rfl⟩
            (.afterPeek hdt rfl
              ((reads_symbol ⟨_, _, rfl, rfl⟩).bind (hrest.map rfl)))

/-- **A list is read** from its text. -/
theorem reads_items {t : String} (h : ListText write xs t)
    (hitem : ∀ x ∈ xs, Reads Delimited item (write x) x)
    (hstart : ∀ x ∈ xs, StartsWith isItemStart (write x)) :
    Reads Anything (items item) t xs := by
  intro gap rest hgap hrest
  refine reads_itemsFrom h hitem hstart ?_ gap rest hgap hrest
  have hlength := h.length_le
  simp only [List.length_append]
  omega

end Chains

end ServiceLoom.CodeReader
