import ServiceLoom.Proofs.Json.Numeral
import ServiceLoom.Proofs.Plan.RuleCode
import ServiceLoom.Proofs.Text.LiteralForms

/-!
# The code of values denotes them

A value in generated code is written like a document, but its texts are string
literals of the language.  A reader of such code knows all forms of literals,
and the numerals of documents; it takes numbers by their text, since the
compiler is the one who reads them.  It gets back the value that was written:
null, truth values and texts as they are, lists and objects with their parts in
order.

* `CodeReader.reads_value` — a value is read up to its end;
* `Code.values_denote` — texts, values, and the expressions for values.
-/

namespace ServiceLoom

open Text.Literal (encode)

/-- What the code of a value says: the value, with numbers by their text. -/
inductive Spelling where
  | null
  | bool (b : Bool)
  | numeral (text : String)
  | string (s : String)
  | array (items : List Spelling)
  | object (members : List (String × Spelling))

namespace Json

mutual

/-- What the code of a value has to say. -/
def spelling : Json → Spelling
  | .null => .null
  | .bool b => .bool b
  | .number n => .numeral n.text
  | .string s => .string s
  | .array items => .array (spellingItems items)
  | .object members => .object (spellingMembers members)

def spellingItems : List Json → List Spelling
  | [] => []
  | x :: rest => x.spelling :: spellingItems rest

def spellingMembers : List (String × Json) → List (String × Spelling)
  | [] => []
  | (k, x) :: rest => (k, x.spelling) :: spellingMembers rest

end

theorem spellingItems_eq (items : List Json) :
    spellingItems items = items.map spelling := by
  induction items with
  | nil => rfl
  | cons x rest ih => rw [spellingItems, ih, List.map_cons]

theorem spellingMembers_eq (members : List (String × Json)) :
    spellingMembers members = members.map fun e => (e.1, e.2.spelling) := by
  induction members with
  | nil => rfl
  | cons e rest ih => rw [spellingMembers, ih, List.map_cons]

end Json

namespace Code

/-- The tokens that stand for a member. -/
def memberText (e : String × Json) : String :=
  encode e.1 ++ ": " ++ valueTokens e.2

theorem itemTokens_eq (items : List Json) :
    itemTokens items = items.map valueTokens := by
  induction items with
  | nil => rfl
  | cons x rest ih => rw [itemTokens, ih, List.map_cons]

theorem memberTokens_eq (members : List (String × Json)) :
    memberTokens members = members.map memberText := by
  induction members with
  | nil => rfl
  | cons e rest ih =>
      rw [memberTokens, ih, List.map_cons]
      rfl

/-- The tokens of a list, by its parts. -/
theorem arrayTokens_eq (items : List Json) : valueTokens (.array items) =
    String.ofList ['['] ++
      (commaList (items.map valueTokens) ++ String.ofList [']']) := by
  rw [valueTokens, itemTokens_eq, String.append_assoc]

/-- The tokens of an object, by its parts. -/
theorem objectTokens_eq (members : List (String × Json)) :
    valueTokens (.object members) =
    String.ofList ['\x7b'] ++
      (commaList (members.map memberText) ++ String.ofList ['\x7d']) := by
  rw [valueTokens, memberTokens_eq, String.append_assoc]

end Code

namespace CodeReader

open Json (EndsNumeral)

variable {α β : Type}

/-! ## The reader -/

/-- A text literal in any form. -/
def textLiteral : Reader String :=
  fun cs => Text.Literal.readFully? (cs.dropWhile isGap)

/-- The text of a numeral. -/
def numeralText : Reader String := fun cs =>
  (Json.numeral? (cs.dropWhile isGap)).map fun (text, rest) =>
    (String.ofList text, rest)

/-- Parts with commas between them up to a closing bracket: one at least, and at
most so many. -/
def partsFrom (closing : Char) (part : Reader α) : Nat → Reader (List α)
  | 0 => failure
  | fuel + 1 => do
    let x ← part
    let next ← peek
    if next = some ',' then do
      symbol ","
      let rest ← partsFrom closing part fuel
      return x :: rest
    else do
      symbol (String.ofList [closing])
      return [x]

/-- Parts between brackets. -/
def enclosed (opening closing : Char) (part : Reader α) (fuel : Nat) :
    Reader (List α) := do
  symbol (String.ofList [opening])
  let next ← peek
  if next = some closing then do
    symbol (String.ofList [closing])
    return []
  else partsFrom closing part fuel

/-- A name, a colon and a value. -/
def member (value : Reader α) : Reader (String × α) := do
  let key ← textLiteral
  symbol ":"
  let x ← value
  return (key, x)

/-- A value that has at most so many characters. -/
def valueFrom : Nat → Reader Spelling
  | 0 => failure
  | fuel + 1 => do
    match ← peek with
    | some 'n' => do
      symbol "null"
      return .null
    | some 't' => do
      symbol "true"
      return .bool true
    | some 'f' => do
      symbol "false"
      return .bool false
    | some '"' => do
      let s ← textLiteral
      return .string s
    | some '[' => do
      let items ← enclosed '[' ']' (valueFrom fuel) fuel
      return .array items
    | some '\x7b' => do
      let members ← enclosed '\x7b' '\x7d' (member (valueFrom fuel)) fuel
      return .object members
    | _ => do
      let text ← numeralText
      return .numeral text

/-- A value. -/
def value : Reader Spelling := fun cs => valueFrom cs.length cs

/-- An expression for a value. -/
def valueExpression : Reader Spelling := do
  symbol "serde_json::json!("
  let x ← value
  symbol ")"
  return x

/-! ## What it reads -/

/-- The characters behind a value: none of them goes on with a numeral. -/
def isEnd (c : Char) : Bool := c == ',' || c == ']' || c == '\x7d' || c == ')'

theorem endsNumeral_of_isEnd {c : Char} (hc : isEnd c = true)
    (rest : List Char) : EndsNumeral (c :: rest) := by
  simp only [isEnd, Bool.or_eq_true, beq_iff_eq] at hc
  rcases hc with ((rfl | rfl) | rfl) | rfl <;>
    exact ⟨Json.endsDigits_cons (by decide) rest, nofun, nofun, nofun⟩

theorem isGap_of_isEnd {c : Char} (hc : isEnd c = true) : isGap c = false := by
  simp only [isEnd, Bool.or_eq_true, beq_iff_eq] at hc
  rcases hc with ((rfl | rfl) | rfl) | rfl <;> rfl

namespace Reads

variable {follows : List Char → Prop} {r : Reader α} {f : α → Reader β}
    {s t : String} {x : α} {y : β}

/-- One reader after the other, of which the first may read a numeral. -/
theorem bindEnded (h : Reads EndsNumeral r s x) (ht : StartsWith isEnd t)
    (h' : Reads follows (f x) t y) : Reads follows (r >>= f) (s ++ t) y := by
  intro gap rest hgap hrest
  have hended : EndsNumeral (t.toList ++ rest) := by
    obtain ⟨c, cs, rfl, hc⟩ := ht
    rw [String.toList_ofList]
    exact endsNumeral_of_isEnd hc (cs ++ rest)
  have hfirst := h gap (t.toList ++ rest) hgap hended
  have hsecond := h' [] rest rfl hrest
  rw [String.toList_append, List.append_assoc]
  show (r _ >>= fun p => f p.1 p.2) = _
  rw [hfirst]
  exact hsecond

/-- What is read whatever follows. -/
theorem ended (h : Reads Anything r s x) : Reads EndsNumeral r s x :=
  fun gap rest hgap _ => h gap rest hgap trivial

end Reads

/-- A character is read. -/
theorem reads_character {c : Char} (hc : isGap c = false) :
    Reads Anything (symbol (String.ofList [c])) (String.ofList [c]) () := by
  refine reads_symbol ⟨c, [], rfl, ?_⟩
  show (!isGap c) = true
  rw [hc]
  rfl

/-- **A literal is read**, whatever follows it. -/
theorem reads_textLiteral (s : String) :
    Reads Anything textLiteral (encode s) s := by
  intro gap rest hgap _
  have hread := Text.Literal.readFully?_encode s rest
  rw [encode, String.toList_ofList, List.cons_append] at hread ⊢
  rw [textLiteral, dropWhile_gap hgap (by decide)]
  exact hread

/-- A numeral starts with a sign or a digit. -/
theorem exists_cons_of_isNumeral {cs : List Char} (h : Json.IsNumeral cs) :
    ∃ c tail, cs = c :: tail ∧ (c = '-' ∨ c.isDigit = true) := by
  obtain ⟨hsign, ⟨⟨hne, hdigit⟩, -⟩, -, -⟩ := h
  next sign whole fraction exponent =>
  cases hsign with
  | minus => exact ⟨'-', _, rfl, .inl rfl⟩
  | none =>
      cases whole with
      | nil => exact absurd rfl hne
      | cons d ds => exact ⟨d, _, rfl, .inr (hdigit d List.mem_cons_self)⟩

/-- A numeral is read, if what follows does not go on with it. -/
theorem reads_numeralText {s : String} (hs : Json.IsNumeral s.toList) :
    Reads EndsNumeral numeralText s s := by
  intro gap rest hgap hrest
  have hread := Json.numeral?_append hs hrest
  obtain ⟨c, tail, hcs, hc⟩ := exists_cons_of_isNumeral hs
  have hstart : isGap c = false := by
    rcases hc with rfl | hdigit
    · rfl
    · cases hgap : isGap c with
      | false => rfl
      | true =>
          simp only [isGap, Bool.or_eq_true, beq_iff_eq] at hgap
          rcases hgap with ((rfl | rfl) | rfl) | rfl <;> cases hdigit
  rw [hcs, List.cons_append] at hread ⊢
  rw [numeralText, dropWhile_gap hgap hstart, hread, ← hcs]
  show some (String.ofList s.toList, rest) = _
  rw [String.ofList_toList]

section Parts

variable {closing : Char} {part : Reader α} {text : β → String} {of : β → α}

/-- **Parts are read** up to their closing bracket. -/
theorem reads_partsFrom (hclosing : isEnd closing = true) (hcomma : closing ≠ ',')
    (y : β) (ys : List β) {fuel : Nat} (hfuel : ys.length < fuel)
    (hpart : ∀ z ∈ y :: ys, Reads EndsNumeral part (text z) (of z)) :
    Reads Anything (partsFrom closing part fuel)
      (Code.commaList ((y :: ys).map text) ++ String.ofList [closing])
      ((y :: ys).map of) := by
  have hgap := isGap_of_isEnd hclosing
  induction ys generalizing y fuel with
  | nil =>
      cases fuel with
      | zero => cases hfuel
      | succ fuel =>
          rw [List.map_singleton, Code.commaList_singleton]
          refine (hpart y List.mem_cons_self).bindEnded
            ⟨closing, [], rfl, hclosing⟩ (.afterPeek rfl hgap ?_)
          rw [if_neg fun heq => hcomma (Option.some.inj heq)]
          exact (reads_character hgap).map rfl
  | cons z ys ih =>
      cases fuel with
      | zero => cases hfuel
      | succ fuel =>
          have hrest := ih z (Nat.lt_of_succ_lt_succ hfuel) fun w hw =>
              hpart w (List.mem_cons_of_mem _ hw)
          rw [List.map_cons, List.map_cons, Code.commaList_cons_cons,
            ← List.map_cons, String.append_assoc, String.append_assoc,
            String.append_assoc]
          obtain ⟨d, ds, hd, hcomma⟩ : StartsWith (· == ',') ("," ++ (" " ++
              (Code.commaList ((z :: ys).map text) ++
                String.ofList [closing]))) := .append ⟨_, _, rfl, rfl⟩ _
          obtain rfl : d = ',' := by simpa using hcomma
          refine (hpart y List.mem_cons_self).bindEnded
            ⟨_, _, hd, rfl⟩ (.afterPeek hd rfl ?_)
          rw [if_pos rfl]
          exact (reads_symbol ⟨_, _, rfl, rfl⟩).bind
            (.gap (by decide) (hrest.map rfl))

/-- A list starts with its first part. -/
theorem startsWith_commaList {p : Char → Bool} {s : String}
    (hs : StartsWith p s) (rest : List String) (closing : Char) :
    StartsWith p (Code.commaList (s :: rest) ++ String.ofList [closing]) := by
  cases rest with
  | nil =>
      rw [Code.commaList_singleton]
      exact hs.append _
  | cons second rest =>
      rw [Code.commaList_cons_cons]
      exact (hs.append _).append _

/-- Parts between brackets are read. -/
theorem reads_enclosed {opening : Char} (hopening : isGap opening = false)
    (hclosing : isEnd closing = true) (hcomma : closing ≠ ',')
    (ys : List β) {fuel : Nat} (hfuel : ys.length ≤ fuel)
    (hstart : ∀ z ∈ ys, StartsWith (fun c => !isGap c && c != closing) (text z))
    (hpart : ∀ z ∈ ys, Reads EndsNumeral part (text z) (of z)) :
    Reads Anything (enclosed opening closing part fuel)
      (String.ofList [opening] ++ (Code.commaList (ys.map text) ++
        String.ofList [closing])) (ys.map of) := by
  have hgap := isGap_of_isEnd hclosing
  refine (reads_character hopening).bind ?_
  cases ys with
  | nil =>
      have hempty : Code.commaList (List.map text []) ++
          String.ofList [closing] = String.ofList [closing] := rfl
      rw [hempty]
      refine .afterPeek rfl hgap ?_
      rw [if_pos rfl]
      exact (reads_character hgap).map rfl
  | cons y ys =>
      obtain ⟨c, cs, htext, hc⟩ :=
        startsWith_commaList (hstart y List.mem_cons_self) (ys.map text) closing
      rw [Bool.and_eq_true, Bool.not_eq_true', bne_iff_ne] at hc
      refine .afterPeek htext hc.1 ?_
      rw [if_neg fun heq => hc.2 (Option.some.inj heq)]
      exact reads_partsFrom hclosing hcomma y ys hfuel hpart

end Parts

/-! ## Values -/

/-- The characters with which a value starts. -/
def isValueStart (c : Char) : Bool :=
  c.isDigit || ['-', 'n', 't', 'f', '"', '[', '\x7b'].contains c

theorem startsWith_valueTokens (v : Json) :
    StartsWith isValueStart (Code.valueTokens v) := by
  cases v with
  | null => exact ⟨_, _, rfl, rfl⟩
  | bool b => cases b <;> exact ⟨_, _, rfl, rfl⟩
  | number n =>
      obtain ⟨c, cs, hcs, hc⟩ := exists_cons_of_isNumeral n.isNumeral_text
      refine ⟨c, cs, ?_, ?_⟩
      · rw [← hcs, String.ofList_toList]
        rfl
      · rcases hc with rfl | hdigit
        · rfl
        · rw [isValueStart, hdigit]
          rfl
  | string s => exact encode_startsWith s rfl
  | array items => exact (StartsWith.append ⟨_, _, rfl, rfl⟩ _).append _
  | object members => exact (StartsWith.append ⟨_, _, rfl, rfl⟩ _).append _

theorem StartsWith.mono {p q : Char → Bool} {s : String} (h : StartsWith p s)
    (hpq : ∀ c, p c = true → q c = true) : StartsWith q s := by
  obtain ⟨c, cs, hs, hc⟩ := h
  exact ⟨c, cs, hs, hpq c hc⟩

/-- A value starts with no gap, and with no bracket that closes something. -/
theorem isGap_of_isValueStart {c : Char} (hc : isValueStart c = true) :
    isGap c = false ∧ c ≠ ']' ∧ c ≠ '\x7d' := by
  refine ⟨?_, ?_, ?_⟩
  · rw [← Bool.not_eq_true]
    intro hgap
    simp only [isGap, Bool.or_eq_true, beq_iff_eq] at hgap
    rcases hgap with ((rfl | rfl) | rfl) | rfl <;> exact absurd hc (by decide)
  · rintro rfl
    exact absurd hc (by decide)
  · rintro rfl
    exact absurd hc (by decide)

/-- A member is read if its value is. -/
theorem reads_member {e : String × Json} {part : Reader Spelling} {x : Spelling}
    (h : Reads EndsNumeral part (Code.valueTokens e.2) x) :
    Reads EndsNumeral (member part) (Code.memberText e) (e.1, x) := by
  have hcolon : ": " = ":" ++ " " := rfl
  rw [Code.memberText, hcolon, String.append_assoc, String.append_assoc]
  exact (reads_textLiteral e.1).bind
    ((reads_symbol ⟨_, _, rfl, rfl⟩).bind (.gap (by decide) (h.map rfl)))

/-- A numeral is read as a value. -/
theorem reads_numeralValue (n : Number) (fuel : Nat) :
    Reads EndsNumeral (valueFrom (fuel + 1)) n.text (.numeral n.text) := by
  obtain ⟨c, cs, hcs, hc⟩ := exists_cons_of_isNumeral n.isNumeral_text
  have hstart : isValueStart c = true := by
    rcases hc with rfl | hdigit
    · rfl
    · rw [isValueStart, hdigit]
      rfl
  refine .afterPeek (by rw [← hcs, String.ofList_toList])
    (isGap_of_isValueStart hstart).1 ?_
  have hread : Reads EndsNumeral (numeralText >>= fun text =>
      pure (Spelling.numeral text)) n.text
      (Spelling.numeral n.text) := (reads_numeralText n.isNumeral_text).map rfl
  split
  case h_7 => exact hread
  all_goals
    obtain rfl := Option.some.inj ‹some c = some _›
    rcases hc with heq | hdigit
    · cases heq
    · cases hdigit

/-- Every part of a list is a part of its text. -/
theorem length_le_commaList {s : String} {parts : List String} (h : s ∈ parts) :
    s.toList.length ≤ (Code.commaList parts).toList.length := by
  induction parts with
  | nil => cases h
  | cons first rest ih =>
      cases rest with
      | nil =>
          rw [List.mem_singleton.mp h, Code.commaList_singleton]
      | cons second rest =>
          rw [Code.commaList_cons_cons]
          simp only [String.toList_append, List.length_append]
          rcases List.mem_cons.mp h with rfl | h
          · omega
          · have hle := ih h
            omega

/-- A list has a comma less than parts. -/
theorem length_parts_le (parts : List String) :
    parts.length ≤ (Code.commaList parts).toList.length + 1 := by
  induction parts with
  | nil => exact Nat.zero_le _
  | cons first rest ih =>
      cases rest with
      | nil => exact Nat.le_add_left _ _
      | cons second rest =>
          have hcomma : ",".toList.length = 1 := rfl
          rw [Code.commaList_cons_cons]
          simp only [String.toList_append, List.length_append] at ih ⊢
          rw [List.length_cons]
          omega

/-- What stands between brackets is shorter than what they enclose. -/
theorem length_bracketed_le {opening closing : Char} {s t : String} {fuel : Nat}
    (hs : s = String.ofList [opening] ++ (t ++ String.ofList [closing]))
    (hfuel : s.toList.length ≤ fuel + 1) : t.toList.length + 1 ≤ fuel := by
  rw [hs, String.toList_append, String.toList_append,
    String.toList_ofList, String.toList_ofList] at hfuel
  simp only [List.length_append, List.length_cons, List.length_nil] at hfuel
  omega

/-- A character before a text is its first. -/
theorem exists_ofList_cons (c : Char) (t : String) :
    ∃ cs, String.ofList [c] ++ t = String.ofList (c :: cs) := by
  refine ⟨t.toList, ?_⟩
  rw [← String.toList_inj, String.toList_append, String.toList_ofList,
    String.toList_ofList]
  rfl

/-- A list is read if its items are. -/
theorem reads_array {items : List Json} {fuel : Nat}
    (hfuel : (Code.valueTokens (.array items)).toList.length ≤ fuel + 1)
    (hitems : ∀ x ∈ items, (Code.valueTokens x).toList.length ≤ fuel →
      Reads EndsNumeral (valueFrom fuel) (Code.valueTokens x) x.spelling) :
    Reads EndsNumeral (valueFrom (fuel + 1)) (Code.valueTokens (.array items))
      (Json.array items).spelling := by
  have hlength := length_bracketed_le (Code.arrayTokens_eq items) hfuel
  have hcount := length_parts_le (items.map Code.valueTokens)
  rw [List.length_map] at hcount
  have hstart : ∀ x ∈ items,
      StartsWith (fun c => !isGap c && c != ']') (Code.valueTokens x) := by
    intro x _
    refine (startsWith_valueTokens x).mono fun c hc => ?_
    obtain ⟨hgap, hsquare, -⟩ := isGap_of_isValueStart hc
    simp [hgap, hsquare]
  have hpart : ∀ x ∈ items,
      Reads EndsNumeral (valueFrom fuel) (Code.valueTokens x) x.spelling := by
    intro x hx
    have hle :=
      length_le_commaList (List.mem_map_of_mem (f := Code.valueTokens) hx)
    exact hitems x hx (by omega)
  have hread : Reads Anything (enclosed '[' ']' (valueFrom fuel) fuel >>=
      fun items => pure (.array items))
      (Code.valueTokens (.array items)) (Json.array items).spelling := by
    rw [Code.arrayTokens_eq, Json.spelling, Json.spellingItems_eq]
    exact (reads_enclosed rfl rfl (by decide) items (by omega) hstart hpart).map
      rfl
  obtain ⟨cs, htext⟩ := exists_ofList_cons '['
      (Code.commaList (items.map Code.valueTokens) ++ String.ofList [']'])
  exact .afterPeek ((Code.arrayTokens_eq items).trans htext) rfl hread.ended

/-- An object is read if the values of its members are. -/
theorem reads_object {members : List (String × Json)} {fuel : Nat}
    (hfuel : (Code.valueTokens (.object members)).toList.length ≤ fuel + 1)
    (hmembers : ∀ e ∈ members, (Code.valueTokens e.2).toList.length ≤ fuel →
      Reads EndsNumeral (valueFrom fuel) (Code.valueTokens e.2) e.2.spelling) :
    Reads EndsNumeral (valueFrom (fuel + 1))
      (Code.valueTokens (.object members)) (Json.object members).spelling := by
  have hlength := length_bracketed_le (Code.objectTokens_eq members) hfuel
  have hcount := length_parts_le (members.map Code.memberText)
  rw [List.length_map] at hcount
  have hstart : ∀ e ∈ members,
      StartsWith (fun c => !isGap c && c != '\x7d') (Code.memberText e) := by
    intro e _
    exact ((encode_startsWith e.1 rfl).append _).append _
  have hpart : ∀ e ∈ members, Reads EndsNumeral (member (valueFrom fuel))
      (Code.memberText e) (e.1, e.2.spelling) := by
    intro e he
    have hle :=
      length_le_commaList (List.mem_map_of_mem (f := Code.memberText) he)
    have hvalue : (Code.valueTokens e.2).toList.length ≤
        (Code.memberText e).toList.length := by
      rw [Code.memberText, String.toList_append, List.length_append]
      omega
    exact reads_member (hmembers e he (by omega))
  have hread : Reads Anything
      (enclosed '\x7b' '\x7d' (member (valueFrom fuel)) fuel >>= fun members =>
        pure (.object members)) (Code.valueTokens (.object members))
            (Json.object members).spelling := by
    rw [Code.objectTokens_eq, Json.spelling, Json.spellingMembers_eq]
    exact (reads_enclosed rfl rfl (by decide) members
      (by omega) hstart hpart).map rfl
  obtain ⟨cs, htext⟩ := exists_ofList_cons '\x7b'
    (Code.commaList (members.map Code.memberText) ++ String.ofList ['\x7d'])
  exact .afterPeek ((Code.objectTokens_eq members).trans htext) rfl hread.ended

/-- A word for a value is read. -/
theorem reads_keyword {s : String} (hs : StartsWith (!isGap ·) s)
    (x : Spelling) : Reads EndsNumeral (symbol s >>= fun _ => pure x) s x := by
  have hread : Reads Anything (symbol s >>= fun _ => pure x) s x :=
    (reads_symbol hs).map rfl
  exact hread.ended

mutual

/-- **A value is read** up to its end, if what follows goes on with no
numeral. -/
theorem reads_valueFrom :
    ∀ (v : Json) {fuel : Nat}, (Code.valueTokens v).toList.length ≤ fuel →
    Reads EndsNumeral (valueFrom fuel) (Code.valueTokens v) v.spelling := by
  intro v fuel hfuel
  cases fuel with
  | zero =>
      obtain ⟨c, cs, htext, -⟩ := startsWith_valueTokens v
      rw [htext, String.toList_ofList] at hfuel
      cases hfuel
  | succ fuel =>
      cases v with
      | null =>
          exact .afterPeek rfl rfl
            (reads_keyword (s := "null") ⟨_, _, rfl, rfl⟩ .null)
      | bool b =>
          cases b with
          | false =>
              exact .afterPeek rfl rfl
                (reads_keyword (s := "false") ⟨_, _, rfl, rfl⟩ (.bool false))
          | true =>
              exact .afterPeek rfl rfl
                (reads_keyword (s := "true") ⟨_, _, rfl, rfl⟩ (.bool true))
      | number n => exact reads_numeralValue n fuel
      | string s =>
          have hread : Reads Anything (textLiteral >>= fun s =>
              pure (Spelling.string s)) (encode s) (.string s) :=
            (reads_textLiteral s).map rfl
          exact .afterPeek rfl rfl hread.ended
      | array items =>
          exact reads_array hfuel fun x hx hle =>
            reads_itemValues items x hx hle
      | object members =>
          exact reads_object hfuel fun e he hle =>
            reads_memberValues members e he hle

/-- The items of a list are read. -/
theorem reads_itemValues : ∀ items : List Json, ∀ x ∈ items, ∀ {fuel : Nat},
    (Code.valueTokens x).toList.length ≤ fuel →
      Reads EndsNumeral (valueFrom fuel) (Code.valueTokens x) x.spelling
  | [] => nofun
  | first :: rest =>
      List.forall_mem_cons.mpr ⟨fun hfuel => reads_valueFrom first hfuel,
        reads_itemValues rest⟩

/-- The values of members are read. -/
theorem reads_memberValues : ∀ members :
      List (String × Json), ∀ e ∈ members, ∀ {fuel : Nat},
    (Code.valueTokens e.2).toList.length ≤ fuel →
      Reads EndsNumeral (valueFrom fuel) (Code.valueTokens e.2) e.2.spelling
  | [] => nofun
  | (_, first) :: rest =>
      List.forall_mem_cons.mpr ⟨fun hfuel => reads_valueFrom first hfuel,
        reads_memberValues rest⟩

end

/-- A value is read, however much follows. -/
theorem reads_value (v : Json) :
    Reads EndsNumeral value (Code.valueTokens v) v.spelling := by
  intro gap rest hgap hrest
  refine reads_valueFrom v ?_ gap rest hgap hrest
  simp only [List.length_append]
  omega

/-- An expression for a value is read up to its closing parenthesis. -/
theorem reads_valueExpression (v : Json) :
    Reads Anything valueExpression (Code.value v) v.spelling := by
  have hclose : Code.value v = "serde_json::json!(" ++
      (Code.valueTokens v ++ ")") :=
    String.append_assoc
  rw [hclose]
  refine (reads_symbol ⟨_, _, rfl, rfl⟩).bind
    ((reads_value v).bindEnded ⟨_, _, rfl, rfl⟩ ?_)
  exact (reads_symbol ⟨_, _, rfl, rfl⟩).map rfl

end CodeReader

open CodeReader in
/-- **The code of texts and values denotes them.** A reader of string literals
stops at the closing quote of a literal that was written, with the text that was
written, whatever follows; a reader of values gets a value back from its tokens,
with numbers by their text and members in order; and it stops at the end of an
expression for a value. -/
theorem Code.values_denote :
    (∀ (s : String) (rest : List Char),
      Text.Literal.readFully? ((encode s).toList ++ rest) = some (s, rest)) ∧
    (∀ v : Json, readAll CodeReader.value (Code.valueTokens v) =
      some v.spelling) ∧
    ∀ (v : Json) (rest : List Char),
      valueExpression ((Code.value v).toList ++ rest) =
        some (v.spelling, rest) := by
  refine ⟨Text.Literal.readFully?_encode, fun v => ?_, fun v rest => ?_⟩
  · have hends : Json.EndsNumeral [] := ⟨nofun, nofun, nofun, nofun⟩
    have hread := reads_value v [] [] rfl hends
    rw [List.nil_append, List.append_nil] at hread
    rw [readAll, hread]
    rfl
  · exact reads_valueExpression v [] rest rfl trivial

end ServiceLoom
