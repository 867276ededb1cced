import PointBuy.Formula.Error
import PointBuy.Text.Digits

/-!
# From text to tokens

Words are greedy: a trait name takes every further word that follows it after spaces, until a word
is a keyword, and then one pair of parentheses around nothing but words and spaces, its qualifier.
So `Basic Speed x4` and `Guns (Pistol)` are single names, while in `ST AND DX` and in
`F (A + B)` the name ends early.

## Main definitions

* `Token.read` : the first token of a text that does not start with a blank, and what follows it.
* `Token.readAll` : all tokens of a text.
-/

namespace PointBuy.Token

/-! ### Character classes -/

/-- The blanks between tokens. -/
def isBlank (c : Char) : Bool := c == ' ' || c == '\t' || c == '\n' || c == '\x0c' || c == '\r'

/-- A letter or an underscore. -/
def isWordStart (c : Char) : Bool := c.isAlpha || c == '_'

/-- What a word is made of after its first character. -/
def isWordPart (c : Char) : Bool := c.isAlphanum || c == '_' || c == '&'

/-- What may stand in the parentheses of a qualifier. -/
def isQualifierPart (c : Char) : Bool := isWordPart c || c == ' '

/-! ### Lengths of what is left over -/

theorem length_dropWhile_le (p : Char → Bool) (cs : List Char) :
    (cs.dropWhile p).length ≤ cs.length :=
  (List.dropWhile_sublist p).length_le

theorem length_dropWhile_lt {p : Char → Bool} {c : Char} (cs : List Char) (h : p c = true) :
    ((c :: cs).dropWhile p).length < (c :: cs).length := by
  rw [List.dropWhile_cons_of_pos h]
  exact Nat.lt_succ_of_le (length_dropWhile_le p cs)

/-! ### Words -/

/-- The qualifier at the start of a text, with its parentheses, and what follows it. -/
def qualifier? : List Char → Option (List Char × List Char)
  | '(' :: rest =>
    match rest.dropWhile isQualifierPart with
    | ')' :: after => some ('(' :: rest.takeWhile isQualifierPart ++ [')'], after)
    | _ => none
  | _ => none

/-- What a name takes beyond its first word, and what is left after it. -/
def nameTail (text : List Char) : List Char × List Char :=
  match h : text.dropWhile (· == ' ') with
  | [] => ([], text)
  | c :: rest =>
    if part : isWordPart c then
      let word := (c :: rest).takeWhile isWordPart
      if (Symbol.keyword? (String.ofList word)).isSome then ([], text)
      else
        let tail := nameTail ((c :: rest).dropWhile isWordPart)
        (text.takeWhile (· == ' ') ++ word ++ tail.1, tail.2)
    else
      match qualifier? (c :: rest) with
      | some (qualifier, after) => (text.takeWhile (· == ' ') ++ qualifier, after)
      | none => ([], text)
termination_by text.length
decreasing_by
  have skipped := length_dropWhile_le (· == ' ') text
  rw [h] at skipped
  exact Nat.lt_of_lt_of_le (length_dropWhile_lt rest part) skipped

/-- The token of a text that starts with a word, and what follows it. -/
def readWord (text : List Char) : Except FormulaError (Token × List Char) :=
  let first := text.takeWhile isWordPart
  let rest := text.dropWhile isWordPart
  match Symbol.keyword? (String.ofList first) with
  | some sign => .ok (.symbol sign, rest)
  | none =>
    if String.ofList first = "true" then .ok (.boolean true, rest)
    else if String.ofList first = "false" then .ok (.boolean false, rest)
    else
      let tail := nameTail rest
      let name := first ++ tail.1
      if Limits.identifierLength < name.length then .error (.identifierTooLong name.length)
      else .ok (.identifier (String.ofList name), tail.2)

/-! ### Numbers and signs -/

/-- The token of a text that starts with a digit, and what follows it. A percent sign belongs to
the number only if it follows at once. -/
def readNumber (text : List Char) : Except FormulaError (Token × List Char) :=
  let digits := text.takeWhile Char.isDigit
  match Amount.ofInt? (Text.decimalValue digits) with
  | none => .error (.invalidNumber (String.ofList digits))
  | some value =>
    match text.dropWhile Char.isDigit with
    | '%' :: rest => .ok (.percent value, rest)
    | rest => .ok (.integer value, rest)

/-- The sign that a text starts with, and what follows it. -/
def readSign : List Char → Option (Symbol × List Char)
  | '<' :: '=' :: rest => some (.lessEqual, rest)
  | '>' :: '=' :: rest => some (.greaterEqual, rest)
  | '(' :: rest => some (.leftParen, rest)
  | ')' :: rest => some (.rightParen, rest)
  | '*' :: rest => some (.star, rest)
  | '/' :: rest => some (.slash, rest)
  | '+' :: rest => some (.plus, rest)
  | '-' :: rest => some (.minus, rest)
  | ',' :: rest => some (.comma, rest)
  | '<' :: rest => some (.less, rest)
  | '>' :: rest => some (.greater, rest)
  | _ => none

/-! ### Whole texts -/

/-- The first token of the text `c :: rest`, and what follows it. -/
def read (c : Char) (rest : List Char) : Except FormulaError (Token × List Char) :=
  if c.isDigit then readNumber (c :: rest)
  else if isWordStart c then readWord (c :: rest)
  else
    match readSign (c :: rest) with
    | some (sign, after) => .ok (.symbol sign, after)
    | none => .error (.invalidCharacter c)

theorem isWordPart_of_isWordStart {c : Char} (h : isWordStart c = true) : isWordPart c = true := by
  simp only [isWordStart, isWordPart, Bool.or_eq_true, Char.isAlphanum] at h ⊢
  rcases h with h | h <;> simp [h]

theorem length_lt_of_qualifier? {text qualifier after : List Char}
    (h : qualifier? text = some (qualifier, after)) : after.length < text.length := by
  unfold qualifier? at h
  split at h
  · next rest =>
    split at h
    · next found =>
      have shorter := length_dropWhile_le isQualifierPart rest
      simp only [Option.some.injEq, Prod.mk.injEq] at h
      rw [found, h.2] at shorter
      simp only [List.length_cons] at shorter ⊢
      omega
    · cases h
  · cases h

theorem length_nameTail_le (text : List Char) : (nameTail text).2.length ≤ text.length := by
  fun_induction nameTail text with
  | case1 => exact Nat.le_refl _
  | case2 => exact Nat.le_refl _
  | case3 text c rest h part word _ tail ih =>
    have skipped := length_dropWhile_le (· == ' ') text
    have shorter := length_dropWhile_lt rest part
    rw [h] at skipped
    exact Nat.le_trans ih (Nat.le_of_lt (Nat.lt_of_lt_of_le shorter skipped))
  | case4 text c rest h part qualifier after found =>
    have skipped := length_dropWhile_le (· == ' ') text
    have shorter := length_lt_of_qualifier? found
    rw [h] at skipped
    show after.length ≤ text.length
    omega
  | case5 => exact Nat.le_refl _

theorem length_lt_of_readNumber {c : Char} {rest after : List Char} {token : Token}
    (digit : c.isDigit = true) (h : readNumber (c :: rest) = .ok (token, after)) :
    after.length < (c :: rest).length := by
  have shorter := length_dropWhile_lt rest digit
  simp only [readNumber] at h
  split at h
  · cases h
  · split at h
    · next found =>
      cases h
      rw [found, List.length_cons] at shorter
      omega
    · cases h
      exact shorter

theorem length_lt_of_readWord {c : Char} {rest after : List Char} {token : Token}
    (start : isWordStart c = true) (h : readWord (c :: rest) = .ok (token, after)) :
    after.length < (c :: rest).length := by
  have shorter := length_dropWhile_lt rest (isWordPart_of_isWordStart start)
  simp only [readWord] at h
  split at h
  · cases h; exact shorter
  · split at h
    · cases h; exact shorter
    · split at h
      · cases h; exact shorter
      · split at h
        · cases h
        · cases h
          exact Nat.lt_of_le_of_lt (length_nameTail_le _) shorter

theorem length_lt_of_readSign {text after : List Char} {sign : Symbol}
    (h : readSign text = some (sign, after)) : after.length < text.length := by
  unfold readSign at h
  split at h <;> simp only [Option.some.injEq, Prod.mk.injEq, reduceCtorEq] at h <;>
    obtain ⟨_, rfl⟩ := h <;> simp only [List.length_cons] <;> omega

/-- Reading a token takes at least one character away. -/
theorem length_lt_of_read {c : Char} {rest after : List Char} {token : Token}
    (h : read c rest = .ok (token, after)) : after.length < (c :: rest).length := by
  unfold read at h
  split at h
  · next digit => exact length_lt_of_readNumber digit h
  · split at h
    · next start => exact length_lt_of_readWord start h
    · split at h
      · next found => cases h; exact length_lt_of_readSign found
      · cases h

/-- All tokens of a text. -/
def readAll (text : List Char) : Except FormulaError (List Token) :=
  match start : text.dropWhile isBlank with
  | [] => .ok []
  | c :: rest =>
    match step : read c rest with
    | .error e => .error e
    | .ok (token, after) => (readAll after).map (token :: ·)
termination_by text.length
decreasing_by
  have skipped := length_dropWhile_le isBlank text
  rw [start] at skipped
  exact Nat.lt_of_lt_of_le (length_lt_of_read step) skipped

end PointBuy.Token

namespace PointBuy.Formula

/-- The tokens of a formula. The length is checked first. -/
def tokens (text : String) : Except FormulaError (List Token) :=
  if Limits.formulaLength < text.length then .error (.tooLong text.length)
  else Token.readAll text.toList

end PointBuy.Formula
