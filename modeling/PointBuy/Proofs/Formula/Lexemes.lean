import PointBuy.Proofs.Formula.Names

/-!
# Reading tokens loses nothing

A text that is read is blanks and lexemes in turn, and each lexeme spells its token. The other way
round, tokens can be written into a text again from which they are read: it is enough to put a line
feed between them. No token has one in it, so what stands behind a line feed has no part in how a
token is read, however far reading looks ahead (`read_lineFeed`). This takes no look at which tokens
stand side by side; of words behind each other, for one, a space would make a single name.

## Main definitions

* `Token.Spells` : a text that is a way to write a token.
* `Token.Alternates` : blanks and lexemes in turn.

## Main statements

* `Token.readAll_lineFeed` : what stands in front of a line feed is read by itself.
* `Formula.tokens_lossless` : a text is blanks and the lexemes of its tokens, of which all
  identifiers are names, and the tokens are read again from their texts on lines of their own.
-/

namespace PointBuy.Token

/-- A text is a way to write a token. Numbers may begin with zeros; all else is written in one
way. -/
inductive Spells : Token → List Char → Prop
  | identifier (name : String) : Spells (.identifier name) name.toList
  | integer {value : Amount} {digits : List Char} (hne : digits ≠ [])
      (hdigits : ∀ c ∈ digits, c.isDigit = true) (hvalue : value.val = Text.decimalValue digits) :
      Spells (.integer value) digits
  | percent {hundredths : Amount} {digits : List Char} (hne : digits ≠ [])
      (hdigits : ∀ c ∈ digits, c.isDigit = true)
      (hvalue : hundredths.val = Text.decimalValue digits) :
      Spells (.percent hundredths) (digits ++ ['%'])
  | boolean (value : Bool) : Spells (.boolean value) (truthText value).toList
  | symbol (sign : Symbol) : Spells (.symbol sign) sign.text.toList

/-- A text is blanks and lexemes in turn, and the lexemes spell tokens. -/
inductive Alternates : List Char → List Token → Prop
  | nil {blanks : List Char} (hblanks : ∀ c ∈ blanks, isBlank c = true) : Alternates blanks []
  | cons {blanks lexeme rest : List Char} {token : Token} {tokens : List Token}
      (hblanks : ∀ c ∈ blanks, isBlank c = true) (hspells : Spells token lexeme)
      (hrest : Alternates rest tokens) : Alternates (blanks ++ (lexeme ++ rest)) (token :: tokens)

variable {text rest after cs : List Char} {c : Char} {token : Token} {tokens : List Token}
  {sign : Symbol}

/-! ### Lexemes -/

theorem text_of_keyword? {word : String} (h : Symbol.keyword? word = some sign) :
    sign.text = word := by
  have hfound := List.find?_some h
  exact eq_of_beq hfound

theorem spells_of_readSign (h : readSign text = some (sign, after)) :
    sign.text.toList ++ after = text := by
  unfold readSign at h
  split at h
  all_goals cases h
  all_goals rfl

theorem spells_of_readNumber (hc : c.isDigit = true)
    (h : readNumber (c :: cs) = .ok (token, after)) :
    ∃ lexeme, Spells token lexeme ∧ lexeme ++ after = c :: cs := by
  have happend : (c :: cs).takeWhile Char.isDigit ++ (c :: cs).dropWhile Char.isDigit = c :: cs :=
    List.takeWhile_append_dropWhile
  have hne : (c :: cs).takeWhile Char.isDigit ≠ [] := by
    rw [List.takeWhile_cons_of_pos hc]
    exact List.cons_ne_nil _ _
  have hdigits : ∀ d ∈ (c :: cs).takeWhile Char.isDigit, d.isDigit = true :=
    List.all_eq_true.1 List.all_takeWhile
  rw [readNumber] at h
  split at h
  case h_1 => cases h
  case h_2 value hvalue =>
    split at h
    case h_1 heq =>
      cases h
      refine ⟨_, .percent hne hdigits (val_of_ofInt? hvalue), ?_⟩
      rw [List.append_assoc, List.singleton_append, ← heq, happend]
    case h_2 =>
      cases h
      exact ⟨_, .integer hne hdigits (val_of_ofInt? hvalue), happend⟩

theorem spells_of_readWord (h : readWord text = .ok (token, after)) :
    ∃ lexeme, Spells token lexeme ∧ lexeme ++ after = text := by
  have happend : text.takeWhile isWordPart ++ text.dropWhile isWordPart = text :=
    List.takeWhile_append_dropWhile
  rw [readWord] at h
  dsimp only at h
  split at h
  case h_1 sign hkeyword =>
    cases h
    refine ⟨_, .symbol sign, ?_⟩
    rw [text_of_keyword? hkeyword, String.toList_ofList, happend]
  case h_2 =>
    split at h
    case isTrue htrue =>
      cases h
      refine ⟨_, .boolean true, ?_⟩
      rw [show truthText true = "true" from rfl, ← htrue, String.toList_ofList, happend]
    case isFalse =>
      split at h
      case isTrue hfalse =>
        cases h
        refine ⟨_, .boolean false, ?_⟩
        rw [show truthText false = "false" from rfl, ← hfalse, String.toList_ofList, happend]
      case isFalse =>
        split at h
        case isTrue => cases h
        case isFalse =>
          cases h
          refine ⟨_, .identifier _, ?_⟩
          rw [String.toList_ofList, List.append_assoc, nameTail_append, happend]

/-- **What is read of a text spells the token.** -/
theorem spells_of_read (h : read c cs = .ok (token, after)) :
    ∃ lexeme, Spells token lexeme ∧ lexeme ++ after = c :: cs := by
  rw [read] at h
  split at h
  case isTrue hdigit => exact spells_of_readNumber hdigit h
  case isFalse =>
    split at h
    case isTrue => exact spells_of_readWord h
    case isFalse =>
      split at h
      case h_1 sign _ hsign =>
        cases h
        exact ⟨_, .symbol sign, spells_of_readSign hsign⟩
      case h_2 => cases h

/-- An identifier that is read is a name. -/
theorem isName_of_read {name : String} (h : read c cs = .ok (.identifier name, after)) :
    IsName name.toList := by
  rw [read] at h
  split at h
  case isTrue =>
    rw [readNumber] at h
    split at h
    case h_1 => cases h
    case h_2 => split at h <;> cases h
  case isFalse =>
    split at h
    case isTrue hstart => exact isName_of_readWord hstart h
    case isFalse =>
      split at h
      case h_1 => cases h
      case h_2 => cases h

/-- **A text that is read is blanks and lexemes in turn**, and all identifiers are names. -/
theorem alternates_of_readAll (h : readAll text = .ok tokens) :
    Alternates text tokens ∧ ∀ name, .identifier name ∈ tokens → IsName name.toList := by
  fun_induction readAll text generalizing tokens with
  | case1 text start =>
    cases h
    refine ⟨.nil fun c hc ↦ ?_, fun _ hname ↦ absurd hname List.not_mem_nil⟩
    rw [← List.takeWhile_append_dropWhile (p := isBlank) (l := text), start, List.append_nil] at hc
    exact List.all_eq_true.1 List.all_takeWhile c hc
  | case2 => cases h
  | case3 text c cs start token after step ih =>
    cases hafter : readAll after with
    | error e =>
      rw [hafter] at h
      cases h
    | ok others =>
      rw [hafter] at h
      cases h
      obtain ⟨hothers, hnames⟩ := ih hafter
      obtain ⟨lexeme, hspells, happend⟩ := spells_of_read step
      constructor
      · rw [← List.takeWhile_append_dropWhile (p := isBlank) (l := text), start, ← happend]
        exact .cons (List.all_eq_true.1 List.all_takeWhile) hspells hothers
      · intro name hname
        rcases List.mem_cons.1 hname with rfl | hname
        · exact isName_of_read step
        · exact hnames name hname

/-! ### Line feeds -/

section LineFeed

variable (rest : List Char)

theorem takeWhile_lineFeed {p : Char → Bool} (hp : p '\n' = false) (text : List Char) :
    (text ++ '\n' :: rest).takeWhile p = text.takeWhile p ∧
      (text ++ '\n' :: rest).dropWhile p = text.dropWhile p ++ '\n' :: rest := by
  have hsplit : text ++ '\n' :: rest =
      text.takeWhile p ++ (text.dropWhile p ++ '\n' :: rest) := by
    rw [← List.append_assoc, List.takeWhile_append_dropWhile]
  have htaken : ∀ c ∈ text.takeWhile p, p c = true := List.all_eq_true.1 List.all_takeWhile
  have hstops : Stops p (text.dropWhile p ++ '\n' :: rest) := by
    have hdropped := stops_dropWhile p text
    cases hrest : text.dropWhile p with
    | nil => exact stops_cons hp rest
    | cons c cs =>
      rw [hrest] at hdropped
      exact stops_cons (hdropped c rfl) _
  rw [hsplit]
  exact ⟨takeWhile_append_of_stops htaken hstops, dropWhile_append_of_stops htaken hstops⟩

theorem dropWhile_lineFeed {p : Char → Bool} (hstart : text.dropWhile p = c :: cs) :
    (text ++ '\n' :: rest).dropWhile p = c :: (cs ++ '\n' :: rest) := by
  rw [List.dropWhile_append, hstart]
  rfl

theorem qualifier?_lineFeed (text : List Char) :
    qualifier? (text ++ '\n' :: rest) =
      (qualifier? text).map (Prod.map id (· ++ '\n' :: rest)) := by
  cases text with
  | nil => rfl
  | cons c inner =>
    rw [List.cons_append]
    by_cases hc : c = '('
    case neg => simp [qualifier?, hc]
    case pos =>
      obtain ⟨htake, hdrop⟩ := takeWhile_lineFeed rest (p := isQualifierPart) rfl inner
      simp only [hc, qualifier?, htake, hdrop]
      cases inner.dropWhile isQualifierPart with
      | nil => rfl
      | cons d after =>
        rw [List.cons_append]
        by_cases hd : d = ')'
        case neg => simp [hd]
        case pos =>
          subst hd
          rfl

theorem nameTail_lineFeed (text : List Char) :
    nameTail (text ++ '\n' :: rest) = Prod.map id (· ++ '\n' :: rest) (nameTail text) := by
  have hspaces (text : List Char) := takeWhile_lineFeed rest (p := (· == ' ')) rfl text
  have hword (text : List Char) := takeWhile_lineFeed rest (p := isWordPart) rfl text
  fun_induction nameTail text with
  | case1 text h =>
    -- the line feed is no space, and no name takes it
    have hdrop : (text ++ '\n' :: rest).dropWhile (· == ' ') = '\n' :: rest := by
      rw [(hspaces text).2, h, List.nil_append]
    rw [nameTail_of_cons hdrop, if_neg (by decide)]
    rfl
  | case2 text c cs h part word hkeyword =>
    rw [nameTail_of_cons (dropWhile_lineFeed rest h), if_pos part, ← List.cons_append,
      (hword _).1, if_pos hkeyword]
    rfl
  | case3 text c cs h part word hkeyword tail ih =>
    rw [nameTail_of_cons (dropWhile_lineFeed rest h), if_pos part, ← List.cons_append,
      (hword _).1, (hword _).2, if_neg hkeyword, (hspaces text).1, ih]
    rfl
  | case4 text c cs h part qualifier after found =>
    rw [nameTail_of_cons (dropWhile_lineFeed rest h), if_neg part, ← List.cons_append,
      qualifier?_lineFeed, found, (hspaces text).1]
    rfl
  | case5 text c cs h part hnone =>
    rw [nameTail_of_cons (dropWhile_lineFeed rest h), if_neg part, ← List.cons_append,
      qualifier?_lineFeed, hnone]
    rfl

theorem readWord_lineFeed (text : List Char) :
    readWord (text ++ '\n' :: rest) =
      (readWord text).map (Prod.map id (· ++ '\n' :: rest)) := by
  obtain ⟨htake, hdrop⟩ := takeWhile_lineFeed rest (p := isWordPart) rfl text
  rw [readWord, readWord, htake, hdrop, nameTail_lineFeed]
  dsimp only [Prod.map_fst, Prod.map_snd, id_eq]
  split
  case h_1 => rfl
  case h_2 =>
    split
    case isTrue => rfl
    case isFalse =>
      split
      case isTrue => rfl
      case isFalse => split <;> rfl

theorem readNumber_lineFeed (text : List Char) :
    readNumber (text ++ '\n' :: rest) =
      (readNumber text).map (Prod.map id (· ++ '\n' :: rest)) := by
  obtain ⟨htake, hdrop⟩ := takeWhile_lineFeed rest (p := Char.isDigit) rfl text
  rw [readNumber, readNumber, htake, hdrop]
  split
  case h_1 => rfl
  case h_2 =>
    cases text.dropWhile Char.isDigit with
    | nil => rfl
    | cons c cs =>
      rw [List.cons_append]
      by_cases hc : c = '%'
      case neg => simp [hc, Except.map]
      case pos =>
        subst hc
        rfl

theorem readSign_lineFeed (c : Char) (cs : List Char) :
    readSign (c :: cs ++ '\n' :: rest) =
      (readSign (c :: cs)).map (Prod.map id (· ++ '\n' :: rest)) := by
  by_cases hlong : c = '<' ∨ c = '>'
  case pos =>
    -- the next character says which of two signs it is
    cases cs with
    | nil => rcases hlong with rfl | rfl <;> rfl
    | cons d cs =>
      by_cases hd : d = '='
      case pos =>
        subst hd
        rcases hlong with rfl | rfl <;> rfl
      case neg => rcases hlong with rfl | rfl <;> simp [readSign, hd]
  case neg =>
    obtain ⟨hless, hgreater⟩ := not_or.1 hlong
    rw [List.cons_append]
    unfold readSign
    split <;> simp_all

/-- What stands behind a line feed has no part in how the first token is read. -/
theorem read_lineFeed (c : Char) (cs : List Char) :
    read c (cs ++ '\n' :: rest) = (read c cs).map (Prod.map id (· ++ '\n' :: rest)) := by
  rw [read, read, ← List.cons_append]
  split
  case isTrue => exact readNumber_lineFeed rest _
  case isFalse =>
    split
    case isTrue => exact readWord_lineFeed rest _
    case isFalse =>
      rw [readSign_lineFeed]
      cases readSign (c :: cs) <;> rfl

/-- **What stands in front of a line feed is read by itself.** -/
theorem readAll_lineFeed (text : List Char) :
    readAll (text ++ '\n' :: rest) =
      (readAll text).bind fun tokens ↦ (readAll rest).map (tokens ++ ·) := by
  fun_induction readAll text with
  | case1 text start =>
    have hdrop : (text ++ '\n' :: rest).dropWhile isBlank = rest.dropWhile isBlank := by
      rw [List.dropWhile_append, start]
      rfl
    rw [readAll_congr hdrop]
    cases readAll rest <;> rfl
  | case2 text c cs start e step =>
    rw [readAll_of_dropWhile (dropWhile_lineFeed rest start), read_lineFeed, step]
    rfl
  | case3 text c cs start token after step ih =>
    have hread : read c (cs ++ '\n' :: rest) = .ok (token, after ++ '\n' :: rest) := by
      rw [read_lineFeed, step]
      rfl
    rw [readAll_of_read (dropWhile_lineFeed rest start) hread, ih]
    cases readAll after with
    | error e => rfl
    | ok tokens => cases readAll rest <;> rfl

end LineFeed

/-- Legible tokens on lines of their own are read again. -/
theorem readAll_lines (h : ∀ token ∈ tokens, token.Legible) :
    readAll ("\n".intercalate (tokens.map Token.text)).toList = .ok tokens := by
  rw [String.toList_intercalate, List.map_map]
  induction tokens with
  | nil => exact readAll_of_blank rfl
  | cons token others ih =>
    obtain ⟨htoken, hothers⟩ := List.forall_mem_cons.1 h
    have hsingle : readAll token.text.toList = .ok [token] := by
      have hread := htoken [] breaks_nil
      rwa [List.append_nil, readAll_of_blank (show [].dropWhile isBlank = [] from rfl)] at hread
    cases others with
    | nil =>
      rw [List.map_singleton, List.intercalate_singleton]
      exact hsingle
    | cons other others =>
      rw [List.map_cons, List.map_cons, List.intercalate_cons_cons, ← List.map_cons,
        List.append_assoc]
      have hlines := readAll_lineFeed ("\n".toList.intercalate
        ((other :: others).map (String.toList ∘ text))) token.text.toList
      rw [hsingle, ih hothers] at hlines
      exact hlines

end PointBuy.Token

namespace PointBuy.Formula

variable {text : String} {ts : List Token}

/-- **Reading tokens loses nothing and adds nothing.** A text that is read is blanks and lexemes in
turn, which spell the tokens; all identifiers are names; and from the texts of the tokens, each on a
line of its own, the tokens are read again. -/
theorem tokens_lossless (h : tokens text = .ok ts) :
    Token.Alternates text.toList ts ∧
    (∀ name, .identifier name ∈ ts → Token.IsName name.toList) ∧
    (("\n".intercalate (ts.map Token.text)).length ≤ Limits.formulaLength →
      tokens ("\n".intercalate (ts.map Token.text)) = .ok ts) := by
  rw [tokens] at h
  split at h
  case isTrue => cases h
  case isFalse =>
    obtain ⟨halternates, hnames⟩ := Token.alternates_of_readAll h
    refine ⟨halternates, hnames, fun hlength ↦ ?_⟩
    rw [tokens, if_neg (Nat.not_lt.2 hlength)]
    exact Token.readAll_lines (Token.legible_of_readAll h)

/-- Names of several words, a qualifier with a keyword in it, keywords and signs without blanks
between them, a number with zeros in front and a percent sign. -/
def mixedText : String := "IF Guns (Pistol AND Rifle)<=007THEN true  fact ( A + 37%)\tELSE _x&1 (-"

def mixedTokens : List Token :=
  [.symbol .if, .identifier "Guns (Pistol AND Rifle)", .symbol .lessEqual, .integer 7,
    .symbol .then, .boolean true, .identifier "fact", .symbol .leftParen, .identifier "A",
    .symbol .plus, .percent 37, .symbol .rightParen, .symbol .else, .identifier "_x&1",
    .symbol .leftParen, .symbol .minus]

theorem tokens_lossless_mixed :
    tokens mixedText = .ok mixedTokens ∧
    ("\n".intercalate (mixedTokens.map Token.text)).length ≤ Limits.formulaLength ∧
    Token.Alternates mixedText.toList mixedTokens ∧
    Token.IsName "Guns (Pistol AND Rifle)".toList ∧
    tokens ("\n".intercalate (mixedTokens.map Token.text)) = .ok mixedTokens := by
  have hread : tokens mixedText = .ok mixedTokens := Except.eq_ok_of_toOption (by decide +kernel)
  have hlength : ("\n".intercalate (mixedTokens.map Token.text)).length ≤ Limits.formulaLength := by
    decide +kernel
  obtain ⟨halternates, hnames, hagain⟩ := tokens_lossless hread
  exact ⟨hread, hlength, halternates, hnames _ (by decide), hagain hlength⟩

end PointBuy.Formula
