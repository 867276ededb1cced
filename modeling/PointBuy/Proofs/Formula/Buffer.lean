import Mathlib.Data.List.Induction
import PointBuy.Proofs.Formula.Folding

/-!
# Folding in a buffer

The folding of a group, done in one buffer that is changed in place: each pass walks over the buffer
by index, the fronts from the end and the operators from the start, and takes pieces out of it and
puts pieces into it while it walks. An index may miss the buffer, and what is done there then has no
outcome at all, which is neither a formula nor a fault.

It never does. `Buffer.fold_eq` says that the buffer gives the formula or the fault of
`Formula.fold`, so that no piece is ever looked for, taken out or put in at an index that is out of
range. The position of a walk is the number of pieces before it, so each step is stated of a buffer
that is split there: `before ++ piece :: after`, at `before.length`.

## Main definitions

* `Buffer.foldFronts`, `Buffer.foldBetween` : the passes of one tier.
* `Buffer.fold` : the formula of a buffer.

## Main statement

* `Buffer.fold_eq` : folding in a buffer is folding.
-/

namespace PointBuy.Formula.Buffer

/-- An outcome, a fault in the grammar, or nothing because an index was out of range. -/
abbrev Indexed (α : Type) := Except (Option GrammarFault) α

/-- A fault in the grammar. -/
def fault {α : Type} (f : GrammarFault) : Indexed α := .error (some f)

/-- The piece at an index. -/
def look (buffer : List Piece) (i : Nat) : Indexed Piece :=
  match buffer[i]? with
  | some piece => .ok piece
  | none => .error none

/-- The buffer without the piece at an index. -/
def remove (buffer : List Piece) (i : Nat) : Indexed (List Piece) :=
  if i < buffer.length then .ok (buffer.eraseIdx i) else .error none

/-- The buffer with one more piece at an index. -/
def insert (buffer : List Piece) (i : Nat) (piece : Piece) : Indexed (List Piece) :=
  if i ≤ buffer.length then .ok (buffer.insertIdx i piece) else .error none

/-- The buffer with another piece at an index. -/
def replace (buffer : List Piece) (i : Nat) (piece : Piece) : Indexed (List Piece) :=
  if i < buffer.length then .ok (buffer.set i piece) else .error none

/-- Takes the operand behind an index out of the buffer. -/
def takeAfter (buffer : List Piece) (i : Nat) : Indexed (Formula × List Piece) :=
  match buffer[i + 1]? with
  | none => do fault (.expectedAfter (← look buffer i))
  | some (.operand f) => return (f, ← remove buffer (i + 1))
  | some next => do fault (.expectedBetween (← look buffer i) next)

/-- Folds the fronts of a tier, from the index below the given one down to the first. -/
def foldFronts (tier : Nat) : (position : Nat) → List Piece → Indexed (List Piece)
  | 0, buffer => .ok buffer
  | i + 1, buffer => do
    match (← look buffer i).front? with
    | some (own, wrap) =>
      if own = tier then do
        let (f, buffer) ← takeAfter buffer i
        foldFronts tier i (← replace buffer i (.operand (wrap f)))
      else foldFronts tier i buffer
    | none => foldFronts tier i buffer

/-- Puts an operator and its operands, the right one taken out before, together at an index. -/
def join (buffer : List Piece) (i : Nat) (op : Operator) (left right : Formula) :
    Indexed (List Piece) := do
  let buffer ← remove buffer i
  let buffer ← remove buffer (i - 1)
  insert buffer (i - 1) (.operand (.binary op left right))

/-- Folds the operators of a tier from an index on, in so many turns at most. Each turn passes a
piece or takes two out, so that there are never more turns than pieces. -/
def foldBetween (tier : Nat) : (turns i : Nat) → List Piece → Indexed (List Piece)
  | 0, i, buffer => if i < buffer.length then .error none else .ok buffer
  | turns + 1, i, buffer =>
    match buffer[i]? with
    | none => .ok buffer
    | some (.operator op) =>
      if op.tier = tier then
        if i = 0 then do fault (.cannotStart (← look buffer 0))
        else do
          match ← look buffer (i - 1) with
          | .operand left =>
            let (right, buffer) ← takeAfter buffer i
            foldBetween tier turns i (← join buffer i op left right)
          | previous => fault (.expectedBetween previous (.operator op))
      else foldBetween tier turns (i + 1) buffer
    | some _ => foldBetween tier turns (i + 1) buffer

/-- Folds one tier. -/
def foldTier (tier : Nat) (buffer : List Piece) : Indexed (List Piece) := do
  let buffer ← foldFronts tier buffer.length buffer
  foldBetween tier buffer.length 0 buffer

/-- The formula of a buffer. -/
def fold (buffer : List Piece) : Indexed Formula := do
  let buffer ← (List.range 7).foldlM (fun buffer tier => foldTier tier buffer) buffer
  if 1 < buffer.length then fault (.expectedEndAfter (← look buffer 0))
  else
    match buffer.getLast? with
    | some (.operand f) => .ok f
    | some piece => fault (.expectedAfter piece)
    | none => fault .emptyExpression

/-! ### Single steps in a split buffer -/

section Split

variable {before : List Piece} {i : Nat}

theorem getElem?_split (hi : i = before.length) (piece : Piece) (after : List Piece) :
    (before ++ piece :: after)[i]? = some piece := by
  simp [hi]

theorem look_split (hi : i = before.length) (piece : Piece) (after : List Piece) :
    look (before ++ piece :: after) i = .ok piece := by
  rw [look, getElem?_split hi]

theorem replace_split (hi : i = before.length) (piece other : Piece) (after : List Piece) :
    replace (before ++ piece :: after) i other = .ok (before ++ other :: after) := by
  simp [replace, hi]

theorem remove_split (hi : i = before.length) (piece : Piece) (after : List Piece) :
    remove (before ++ piece :: after) i = .ok (before ++ after) := by
  rw [remove, hi, if_pos (by simp), List.eraseIdx_append_of_length_le (Nat.le_refl _)]
  simp

theorem insert_split (hi : i = before.length) (piece : Piece) (after : List Piece) :
    insert (before ++ after) i piece = .ok (before ++ piece :: after) := by
  rw [insert, hi, if_pos (by simp)]
  congr 1
  clear hi
  induction before with
  | nil => rfl
  | cons p before ih => simpa using ih

/-- What stands behind a piece is taken, if it is an operand. -/
theorem takeAfter_split (hi : i = before.length) (piece : Piece) (after : List Piece) :
    takeAfter (before ++ piece :: after) i =
      match after with
      | [] => fault (.expectedAfter piece)
      | .operand f :: after => .ok (f, before ++ piece :: after)
      | next :: _ => fault (.expectedBetween piece next) := by
  rw [takeAfter, look_split hi]
  match after with
  | [] => simp [hi]
  | next :: after =>
    have hi' : i + 1 = (before ++ [piece]).length := by simpa using hi
    rw [List.append_cons before, getElem?_split hi', remove_split hi']
    cases next <;> simp

theorem join_split (hi : i = before.length + 1) (p piece : Piece) (after : List Piece)
    (op : Operator) (left right : Formula) :
    join (before ++ p :: piece :: after) i op left right =
      .ok (before ++ .operand (.binary op left right) :: after) := by
  have hi' : i - 1 = before.length := by omega
  rw [join, List.append_cons before, remove_split (by simpa using hi), Except.ok_bind,
    ← List.append_cons, remove_split hi', Except.ok_bind, insert_split hi']

end Split

/-! ### The walk over the fronts -/

/-- One position of the walk, where the pieces behind it have been folded. -/
theorem foldFronts_succ {tier : Nat} {piece : Piece} {rest done : List Piece}
    (h : Formula.foldFronts tier rest = .ok done) (before : List Piece) :
    foldFronts tier (before.length + 1) (before ++ piece :: done) =
      (Formula.foldFronts tier (piece :: rest)).mapError some >>= fun done ↦
        foldFronts tier before.length (before ++ done) := by
  rw [foldFronts, Formula.foldFronts, h, look_split rfl, Except.ok_bind, Except.ok_bind]
  rcases piece.front? with - | ⟨own, wrap⟩
  · rfl
  · by_cases heq : own = tier
    · simp only [if_pos heq, takeAfter_split rfl]
      cases done with
      | nil => rfl
      | cons first done =>
        cases first with
        | operand f =>
          rw [Except.ok_bind, replace_split rfl]
          rfl
        | negate | operator | conditional => rfl
    · simp only [if_neg heq]
      rfl

theorem foldFronts_append_eq_error {tier : Nat} {rest : List Piece} {e : GrammarFault}
    (h : Formula.foldFronts tier rest = .error e) (before : List Piece) :
    Formula.foldFronts tier (before ++ rest) = .error e := by
  induction before with
  | nil => exact h
  | cons piece before ih => rw [List.cons_append, Formula.foldFronts, ih, Except.error_bind]

/-- The walk, where the pieces from the position on have been folded. -/
theorem foldFronts_append {tier : Nat} {before rest done : List Piece}
    (h : Formula.foldFronts tier rest = .ok done) :
    foldFronts tier before.length (before ++ done) =
      (Formula.foldFronts tier (before ++ rest)).mapError some := by
  -- the walk goes down to the first piece, and so the induction takes pieces from the end
  induction before using List.reverseRecOn generalizing rest done with
  | nil => simp [foldFronts, h]
  | append_singleton before piece ih =>
    rw [List.length_append, List.length_singleton, ← List.append_cons, ← List.append_cons,
      foldFronts_succ h]
    cases hnext : Formula.foldFronts tier (piece :: rest) with
    | error e => rw [foldFronts_append_eq_error hnext]; rfl
    | ok done => exact ih hnext

/-! ### The walk over the operators -/

section Between

variable {tier turns i : Nat} {before rest : List Piece} {piece : Piece} {op : Operator}

/-- One position of the walk, at a piece that is passed. -/
theorem foldBetween_succ_of_ne (hi : i = before.length)
    (other : ∀ op, piece = .operator op → op.tier ≠ tier) :
    foldBetween tier (turns + 1) i (before ++ piece :: rest) =
      foldBetween tier turns (i + 1) (before ++ piece :: rest) := by
  rw [foldBetween, getElem?_split hi]
  cases piece with
  | operator op => simp only [if_neg (other op rfl)]
  | operand | negate | conditional => rfl

/-- One position of the walk, at an operator of the tier. -/
theorem foldBetween_succ_operator (own : op.tier = tier) (hi : i = before.length + 1) :
    foldBetween tier (turns + 1) i (before ++ piece :: .operator op :: rest) =
      match piece with
      | .operand left =>
        match rest with
        | [] => fault (.expectedAfter (.operator op))
        | .operand right :: after =>
          foldBetween tier turns i (before ++ .operand (.binary op left right) :: after)
        | next :: _ => fault (.expectedBetween (.operator op) next)
      | previous => fault (.expectedBetween previous (.operator op)) := by
  have hi' : i = (before ++ [piece]).length := by simpa using hi
  have hprevious : look (before ++ piece :: .operator op :: rest) (i - 1) = .ok piece :=
    look_split (by omega) _ _
  have htake := takeAfter_split hi' (.operator op) rest
  rw [← List.append_cons] at htake
  rw [foldBetween, List.append_cons before, getElem?_split hi', ← List.append_cons]
  simp only [if_pos own, if_neg (show i ≠ 0 by omega), hprevious, htake, Except.ok_bind]
  cases piece with
  | operand left =>
    match rest with
    | .operand right :: after =>
      simp only [Except.ok_bind, ← List.append_cons, join_split hi]
    | [] | .negate :: _ | .operator _ :: _ | .conditional .. :: _ => rfl
  | negate | operator | conditional => rfl

theorem exists_turn (hturns : (piece :: rest).length ≤ turns) :
    ∃ t, turns = t + 1 ∧ rest.length ≤ t := by
  rw [List.length_cons] at hturns
  exact ⟨turns - 1, by omega, by omega⟩

/-- The walk, where the pieces before the position have been passed. -/
theorem foldBetween_append {passed : List Piece} (hturns : rest.length ≤ turns) :
    foldBetween tier turns passed.length (passed.reverse ++ rest) =
      (Formula.foldBetween tier passed rest).mapError some := by
  have hsplit (p : Piece) (before rest : List Piece) :
      (p :: before).reverse ++ rest = before.reverse ++ p :: rest := by simp
  have hlength (p : Piece) (before : List Piece) :
      (p :: before).length = before.reverse.length + 1 := by simp
  fun_induction Formula.foldBetween tier passed rest generalizing turns with
  | case1 passed => cases turns <;> simp [foldBetween]
  | case2 op ps own =>
    obtain ⟨turns, rfl, -⟩ := exists_turn hturns
    simp [foldBetween, own, look, fault]
  | case3 op own left before =>
    obtain ⟨turns, rfl, -⟩ := exists_turn hturns
    rw [hsplit, foldBetween_succ_operator own (hlength _ _)]
    rfl
  | case4 op own left before right after ih =>
    obtain ⟨turns, rfl, hrest⟩ := exists_turn hturns
    have hafter : after.length ≤ turns := by
      rw [List.length_cons] at hrest
      omega
    rw [hsplit, foldBetween_succ_operator own (hlength _ _), ← ih hafter, hsplit]
    rfl
  | case5 op own left before next after hne =>
    obtain ⟨turns, rfl, -⟩ := exists_turn hturns
    rw [hsplit, foldBetween_succ_operator own (hlength _ _)]
    cases next with
    | operand f => exact absurd rfl (hne f)
    | negate | operator | conditional => rfl
  | case6 op ps own previous before hne =>
    obtain ⟨turns, rfl, -⟩ := exists_turn hturns
    rw [hsplit, foldBetween_succ_operator own (hlength _ _)]
    cases previous with
    | operand f => exact absurd rfl (hne f)
    | negate | operator | conditional => rfl
  | case7 passed op ps own ih =>
    obtain ⟨turns, rfl, hrest⟩ := exists_turn hturns
    rw [foldBetween_succ_of_ne List.length_reverse.symm fun op' h' ↦ by cases h'; exact own,
      ← hsplit, ← ih hrest, List.length_cons]
  | case8 passed piece ps hne ih =>
    obtain ⟨turns, rfl, hrest⟩ := exists_turn hturns
    rw [foldBetween_succ_of_ne List.length_reverse.symm fun op' h' ↦ absurd h' (hne op'),
      ← hsplit, ← ih hrest, List.length_cons]

end Between

/-! ### The whole folding -/

theorem foldTier_eq (tier : Nat) (buffer : List Piece) :
    foldTier tier buffer = (Formula.foldTier tier buffer).mapError some := by
  have hfronts : foldFronts tier buffer.length (buffer ++ []) =
      (Formula.foldFronts tier (buffer ++ [])).mapError some := foldFronts_append rfl
  rw [List.append_nil] at hfronts
  rw [foldTier, Formula.foldTier, hfronts]
  cases Formula.foldFronts tier buffer with
  | error e => rfl
  | ok buffer =>
    have hbetween : foldBetween tier buffer.length ([] : List Piece).length ([].reverse ++ buffer) =
        (Formula.foldBetween tier [] buffer).mapError some := foldBetween_append (Nat.le_refl _)
    exact hbetween

theorem foldTiers_eq (tiers : List Nat) (buffer : List Piece) :
    tiers.foldlM (fun buffer tier ↦ foldTier tier buffer) buffer =
      (tiers.foldlM (fun pieces tier ↦ Formula.foldTier tier pieces) buffer).mapError some := by
  induction tiers generalizing buffer with
  | nil => rfl
  | cons tier tiers ih =>
    rw [List.foldlM_cons, List.foldlM_cons, foldTier_eq]
    cases Formula.foldTier tier buffer with
    | error e => rfl
    | ok buffer => exact ih buffer

/-- **Folding in a buffer is folding**, and so no index is ever out of range. -/
theorem fold_eq (buffer : List Piece) : fold buffer = (Formula.fold buffer).mapError some := by
  rw [fold, Formula.fold, foldTiers_eq]
  cases (List.range 7).foldlM (fun pieces tier ↦ Formula.foldTier tier pieces) buffer with
  | error e => rfl
  | ok buffer =>
    cases buffer with
    | nil => rfl
    | cons first rest =>
      cases rest with
      | nil => cases first <;> rfl
      | cons second rest =>
        simp only [Except.mapError, Except.ok_bind, List.length_cons, look,
          List.getElem?_cons_zero]
        rw [if_pos (by omega)]
        cases first <;> rfl

end PointBuy.Formula.Buffer
