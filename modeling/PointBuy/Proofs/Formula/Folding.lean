import PointBuy.Formula.Parser
import PointBuy.Proofs.Except
import PointBuy.Proofs.Segments

/-!
# Folding the pieces of a group

`Formula.fold` makes two passes over the pieces of a group for each of its seven tiers: one from the
right over the pieces that stand in front of their operand, one from the left over the operators
between operands. This module says which formula comes out, by a relation that knows of no passes.

`Spells base reach pieces f` says that the pieces are a phrase with the tree `f`. Passes are counted
from 0, two to a tier: pass `2 * t` folds the fronts of tier `t`, pass `2 * t + 1` its operators.
The phrase holds nothing outside its operands that a pass from `reach` on would fold, and nothing
that a pass before `base` would have folded. So `Spells 0 14` are the pieces of a whole group, and
`Spells 14 14` is a single operand.

One pass moves `base` up by one, in both directions. Forward (`exists_foldFronts`,
`exists_foldBetween`), a phrase passes without a fault, by induction on the phrase, since a pass
acts on concatenated phrases one by one. Backward, whatever a pass leaves stands for segments of
what it was given (`segments_of_foldFronts`, `segments_of_foldBetween`), and a phrase of the remains
is a phrase of the whole (`spells_of_segments`).

## Main statement

* `fold_eq_ok_iff` : folding succeeds with exactly the formula that the pieces spell.
-/

namespace PointBuy.Formula

/-- The pieces are a phrase of a formula whose fronts and operators outside operands belong to
passes from `base` on and before `reach`. -/
inductive Spells (base : Nat) : (reach : Nat) → List Piece → Formula → Prop
  | operand {reach : Nat} (f : Formula) : Spells base reach [.operand f] f
  | front {reach tier : Nat} {piece : Piece} {wrap : Formula → Formula} {ps : List Piece}
      {f : Formula} (own : piece.front? = some (tier, wrap)) (lo : base ≤ 2 * tier)
      (hi : 2 * tier + 1 ≤ reach) (rest : Spells base (2 * tier + 1) ps f) :
      Spells base reach (piece :: ps) (wrap f)
  | between {reach : Nat} {op : Operator} {ls rs : List Piece} {l r : Formula}
      (lo : base ≤ 2 * op.tier + 1) (hi : 2 * op.tier + 2 ≤ reach)
      (left : Spells base (2 * op.tier + 2) ls l) (right : Spells base (2 * op.tier + 1) rs r) :
      Spells base reach (ls ++ .operator op :: rs) (.binary op l r)

namespace Spells

variable {base : Nat} {ps : List Piece} {f : Formula}

theorem mono {n m : Nat} (h : Spells base n ps f) (hnm : n ≤ m) : Spells base m ps f := by
  cases h with
  | operand => exact .operand f
  | front own lo hi rest => exact .front own lo (by omega) rest
  | between lo hi left right => exact .between lo (by omega) left right

/-- Where no pass is left, a phrase is an operand. -/
theorem self_iff : Spells base base ps f ↔ ps = [.operand f] := by
  constructor
  · intro h
    cases h with
    | operand => rfl
    | front own lo hi rest => omega
    | between lo hi left right => omega
  · rintro rfl
    exact .operand f

/-- A phrase ends in an operand. -/
theorem exists_last {n : Nat} (h : Spells base n ps f) :
    ∃ before g, ps = before ++ [.operand g] := by
  induction h with
  | operand f => exact ⟨[], f, rfl⟩
  | @front _ _ piece _ _ _ _ _ _ _ ih =>
    obtain ⟨before, g, rfl⟩ := ih
    exact ⟨piece :: before, g, rfl⟩
  | @between _ op ls _ _ _ _ _ _ _ _ ih =>
    obtain ⟨before, g, rfl⟩ := ih
    exact ⟨ls ++ .operator op :: before, g, by simp⟩

end Spells

/-! ### What a pass leaves -/

/-- What one pass makes of a segment: a piece that it keeps, or an operand that the segment
spells. -/
inductive Leaves (base : Nat) : List Piece → Piece → Prop
  | kept (piece : Piece) : Leaves base [piece] piece
  | folded {segment : List Piece} {f : Formula} (spells : Spells base (base + 1) segment f) :
      Leaves base segment (.operand f)

theorem Leaves.spells {base : Nat} {segment : List Piece} {f : Formula}
    (h : Leaves base segment (.operand f)) : Spells base (base + 1) segment f := by
  cases h with
  | kept => exact .operand f
  | folded spells => exact spells

theorem Leaves.eq_singleton {base : Nat} {segment : List Piece} {piece : Piece}
    (hp : piece.isOperand = false) (h : Leaves base segment piece) : segment = [piece] := by
  cases h with
  | kept => rfl
  | folded => simp [Piece.isOperand] at hp

/-- A phrase of what a pass leaves is a phrase of what it was given. -/
theorem spells_of_segments {base n : Nat} {ps qs : List Piece} {f : Formula}
    (h : Spells (base + 1) n qs f) (hn : base + 1 ≤ n) (segments : Segments (Leaves base) ps qs) :
    Spells base n ps f := by
  induction h generalizing ps with
  | operand f => exact segments.of_singleton.spells.mono hn
  | @front reach tier piece wrap qs f own lo hi rest ih =>
    have hp : piece.isOperand = false := by
      cases piece <;> simp [Piece.front?, Piece.isOperand] at own ⊢
    obtain ⟨segment, ps, rfl, hpiece, hps⟩ := segments.of_cons
    rw [hpiece.eq_singleton hp]
    exact .front own (by omega) hi (ih (by omega) hps)
  | between lo hi left right ihl ihr =>
    obtain ⟨us, vs, rfl, hus, hvs⟩ := segments.split
    obtain ⟨segment, rest, rfl, hop, hrest⟩ := hvs.of_cons
    rw [hop.eq_singleton rfl]
    exact .between (by omega) hi (ihl (by omega) hus) (ihr (by omega) hrest)

/-! ### The pass over the fronts -/

theorem foldFronts_cons_of_ne {tier : Nat} {piece : Piece} {ps qs : List Piece}
    (other : ∀ wrap, piece.front? ≠ some (tier, wrap)) (h : foldFronts tier ps = .ok qs) :
    foldFronts tier (piece :: ps) = .ok (piece :: qs) := by
  rw [foldFronts, h, Except.ok_bind]
  rcases hp : piece.front? with - | ⟨own, wrap⟩
  · rfl
  · have hne : own ≠ tier := fun heq ↦ other wrap (by rw [hp, heq])
    simp [hne]

theorem foldFronts_cons_of_front {tier : Nat} {piece : Piece} {wrap : Formula → Formula}
    {ps qs : List Piece} {f : Formula} (own : piece.front? = some (tier, wrap))
    (h : foldFronts tier ps = .ok (.operand f :: qs)) :
    foldFronts tier (piece :: ps) = .ok (.operand (wrap f) :: qs) := by
  rw [foldFronts, h, Except.ok_bind, own]
  simp

/-- A pass over the fronts that succeeds has kept its first piece or put it around the operand
behind it. -/
theorem foldFronts_cons_eq_ok {tier : Nat} {piece : Piece} {ps qs : List Piece}
    (h : foldFronts tier (piece :: ps) = .ok qs) :
    (∃ rest, (∀ wrap, piece.front? ≠ some (tier, wrap)) ∧ foldFronts tier ps = .ok rest ∧
      qs = piece :: rest) ∨
    (∃ wrap f rest, piece.front? = some (tier, wrap) ∧
      foldFronts tier ps = .ok (.operand f :: rest) ∧ qs = .operand (wrap f) :: rest) := by
  rw [foldFronts] at h
  obtain ⟨rest, hrest, h⟩ := Except.bind_eq_ok_iff.1 h
  rcases hp : piece.front? with - | ⟨own, wrap⟩
  · simp only [hp, Except.ok.injEq] at h
    exact .inl ⟨rest, by simp, hrest, h.symm⟩
  · rw [hp] at h
    by_cases heq : own = tier
    · subst heq
      match rest with
      | [] => simp at h
      | .operand f :: rest =>
        simp only [if_true, Except.ok.injEq] at h
        exact .inr ⟨wrap, f, rest, rfl, hrest, h.symm⟩
      | .negate :: _ | .operator _ :: _ | .conditional .. :: _ => simp at h
    · simp only [if_neg heq, Except.ok.injEq] at h
      refine .inl ⟨rest, fun wrap' h' ↦ heq ?_, hrest, h.symm⟩
      simp only [Option.some.injEq, Prod.mk.injEq] at h'
      exact h'.1

/-- The pass acts on both parts of a list, where it succeeds on each. -/
theorem foldFronts_append {tier : Nat} {ls ls' rs rs' : List Piece}
    (hl : foldFronts tier ls = .ok ls') (hr : foldFronts tier rs = .ok rs') :
    foldFronts tier (ls ++ rs) = .ok (ls' ++ rs') := by
  induction ls generalizing ls' with
  | nil =>
    simp only [foldFronts, Except.ok.injEq] at hl
    simpa [← hl] using hr
  | cons piece ls ih =>
    rcases foldFronts_cons_eq_ok hl with
      ⟨rest, other, hrest, rfl⟩ | ⟨wrap, f, rest, own, hrest, rfl⟩
    · exact foldFronts_cons_of_ne other (ih hrest)
    · exact foldFronts_cons_of_front own (ih hrest)

/-- Backward: what the pass leaves stands for segments of what it was given. -/
theorem segments_of_foldFronts {tier : Nat} {ps qs : List Piece}
    (h : foldFronts tier ps = .ok qs) : Segments (Leaves (2 * tier)) ps qs := by
  induction ps generalizing qs with
  | nil =>
    simp only [foldFronts, Except.ok.injEq] at h
    exact h ▸ .nil
  | cons piece ps ih =>
    rcases foldFronts_cons_eq_ok h with ⟨rest, -, hrest, rfl⟩ | ⟨wrap, f, rest, own, hrest, rfl⟩
    · exact .cons (.kept piece) (ih hrest)
    · obtain ⟨segment, rest', rfl, hsegment, hrest'⟩ := (ih hrest).of_cons
      have hfront : Spells (2 * tier) (2 * tier + 1) (piece :: segment) (wrap f) :=
        .front own (Nat.le_refl _) (Nat.le_refl _) hsegment.spells
      exact .cons (.folded hfront) hrest'

/-- Forward: a phrase passes. -/
theorem exists_foldFronts {tier n : Nat} {ps : List Piece} {f : Formula}
    (h : Spells (2 * tier) n ps f) (hn : 2 * tier < n) :
    ∃ qs, foldFronts tier ps = .ok qs ∧ Spells (2 * tier + 1) n qs f := by
  induction h with
  | operand f => exact ⟨[.operand f], rfl, .operand f⟩
  | @front reach tier' piece wrap ps f own lo hi rest ih =>
    obtain ⟨qs, hqs, hspells⟩ := ih (by omega)
    by_cases heq : tier' = tier
    · -- the phrase behind the front has no pass left, so it has become an operand
      subst heq
      rw [Spells.self_iff.1 hspells] at hqs
      exact ⟨_, foldFronts_cons_of_front own hqs, .operand _⟩
    · refine ⟨_, foldFronts_cons_of_ne (fun wrap' h' ↦ heq ?_) hqs,
        .front own (by omega) hi hspells⟩
      simp only [own, Option.some.injEq, Prod.mk.injEq] at h'
      exact h'.1
  | @between reach op ls rs l r lo hi left right ihl ihr =>
    obtain ⟨ls', hls, hl⟩ := ihl (by omega)
    obtain ⟨rs', hrs, hr⟩ := ihr (by omega)
    have hop : foldFronts tier (.operator op :: rs) = .ok (.operator op :: rs') :=
      foldFronts_cons_of_ne (by simp [Piece.front?]) hrs
    exact ⟨_, foldFronts_append hls hop, .between (by omega) hi hl hr⟩

/-! ### The pass over the operators -/

theorem foldBetween_nil (tier : Nat) (passed : List Piece) :
    foldBetween tier passed [] = .ok passed.reverse := by
  rw [foldBetween]

theorem foldBetween_cons_of_ne {tier : Nat} {piece : Piece} (passed ps : List Piece)
    (other : ∀ op, piece = .operator op → op.tier ≠ tier) :
    foldBetween tier passed (piece :: ps) = foldBetween tier (piece :: passed) ps := by
  cases piece with
  | operator op =>
    rw [foldBetween.eq_def]
    simp only [if_neg (other op rfl)]
  | operand | negate | conditional => simp [foldBetween]

theorem foldBetween_operator_cons {tier : Nat} {op : Operator} (own : op.tier = tier)
    (before after : List Piece) (l r : Formula) :
    foldBetween tier (.operand l :: before) (.operator op :: .operand r :: after) =
      foldBetween tier (.operand (.binary op l r) :: before) after := by
  rw [foldBetween.eq_def]
  simp only [if_pos own]

/-- A pass that succeeds on a list alone does the same to it within a longer one. -/
theorem foldBetween_append {tier : Nat} {passed ls out : List Piece} (before rest : List Piece)
    (h : foldBetween tier passed ls = .ok out) :
    foldBetween tier (passed ++ before) (ls ++ rest) =
      foldBetween tier (out.reverse ++ before) rest := by
  fun_induction foldBetween tier passed ls with
  | case1 passed =>
    simp only [Except.ok.injEq] at h
    simp [← h]
  | case2 | case3 | case5 | case6 => simp at h
  | case4 op own left before' right after ih =>
    rw [← ih h]
    exact foldBetween_operator_cons own _ _ _ _
  | case7 passed op ps own ih =>
    rw [← ih h]
    exact foldBetween_cons_of_ne _ _ fun op' h' ↦ by cases h'; exact own
  | case8 passed piece ps hne ih =>
    rw [← ih h]
    exact foldBetween_cons_of_ne _ _ fun op' h' ↦ absurd h' (hne op')

/-- Backward: what the pass leaves stands for segments of what it was given. The invariant is the
same statement of the pieces already passed. -/
theorem segments_of_foldBetween {tier : Nat} {given passed ps qs : List Piece}
    (h : foldBetween tier passed ps = .ok qs)
    (hgiven : Segments (Leaves (2 * tier + 1)) given passed.reverse) :
    Segments (Leaves (2 * tier + 1)) (given ++ ps) qs := by
  -- one more piece that is passed as it is
  have step {given passed : List Piece} (piece : Piece)
      (hgiven : Segments (Leaves (2 * tier + 1)) given passed.reverse) :
      Segments (Leaves (2 * tier + 1)) (given ++ [piece]) (piece :: passed).reverse := by
    rw [List.reverse_cons]
    exact hgiven.append (.single (.kept piece))
  fun_induction foldBetween tier passed ps generalizing given with
  | case1 passed =>
    simp only [Except.ok.injEq] at h
    simpa [← h] using hgiven
  | case2 | case3 | case5 | case6 => simp at h
  | case4 op own left before right after ih =>
    rw [List.reverse_cons] at hgiven
    obtain ⟨us, vs, rfl, hus, hvs⟩ := hgiven.split
    have hop : Spells (2 * tier + 1) (2 * tier + 1 + 1) (vs ++ .operator op :: [.operand right])
        (.binary op left right) :=
      .between (by omega) (by omega) (hvs.of_singleton.spells.mono (by omega)) (.operand right)
    have hpassed : Segments (Leaves (2 * tier + 1)) (us ++ (vs ++ .operator op :: [.operand right]))
        (.operand (.binary op left right) :: before).reverse := by
      rw [List.reverse_cons]
      exact hus.append (.single (.folded hop))
    simpa using ih h hpassed
  | case7 passed op ps own ih => simpa using ih h (step (.operator op) hgiven)
  | case8 passed piece ps hne ih => simpa using ih h (step piece hgiven)

/-- Forward: a phrase passes. -/
theorem exists_foldBetween {tier n : Nat} {ps : List Piece} {f : Formula}
    (h : Spells (2 * tier + 1) n ps f) (hn : 2 * tier + 1 < n) :
    ∃ qs, foldBetween tier [] ps = .ok qs ∧ Spells (2 * tier + 2) n qs f := by
  induction h with
  | operand f => exact ⟨[.operand f], foldBetween_cons_of_ne _ _ (by simp), .operand f⟩
  | @front reach tier' piece wrap ps f own lo hi rest ih =>
    obtain ⟨qs, hqs, hspells⟩ := ih (by omega)
    refine ⟨piece :: qs, ?_, .front own (by omega) hi hspells⟩
    rw [foldBetween_cons_of_ne _ _ fun op h' ↦ by simp [h', Piece.front?] at own]
    simpa [foldBetween_nil] using foldBetween_append [piece] [] hqs
  | @between reach op ls rs l r lo hi left right ihl ihr =>
    obtain ⟨ls', hls, hl⟩ := ihl (by omega)
    have hpass := foldBetween_append [] (.operator op :: rs) hls
    rw [List.append_nil, List.append_nil] at hpass
    by_cases heq : op.tier = tier
    · -- both sides have no pass left, so they are operands when the operator is met
      subst heq
      obtain rfl := Spells.self_iff.1 hl
      obtain rfl := Spells.self_iff.1 right
      refine ⟨[.operand (.binary op l r)], ?_, .operand _⟩
      rw [hpass]
      exact (foldBetween_operator_cons rfl [] [] l r).trans (foldBetween_nil _ _)
    · obtain ⟨rs', hrs, hr⟩ := ihr (by omega)
      refine ⟨ls' ++ .operator op :: rs', ?_, .between (by omega) hi hl hr⟩
      have hright := foldBetween_append (.operator op :: ls'.reverse) [] hrs
      rw [hpass, foldBetween_cons_of_ne _ _ fun op' h' ↦ by cases h'; exact heq]
      simpa [foldBetween_nil] using hright

/-! ### All passes -/

/-- Folding a tier moves the base of a phrase up by its two passes. -/
theorem spells_iff_foldTier {tier n : Nat} {ps : List Piece} {f : Formula}
    (hn : 2 * tier + 2 ≤ n) :
    Spells (2 * tier) n ps f ↔
      ∃ qs, foldTier tier ps = .ok qs ∧ Spells (2 * (tier + 1)) n qs f := by
  constructor
  · intro h
    obtain ⟨qs, hqs, h⟩ := exists_foldFronts h (by omega)
    obtain ⟨rs, hrs, h⟩ := exists_foldBetween h (by omega)
    exact ⟨rs, Except.bind_eq_ok_iff.2 ⟨qs, hqs, hrs⟩, h⟩
  · rintro ⟨rs, hfold, h⟩
    obtain ⟨qs, hqs, hrs⟩ := Except.bind_eq_ok_iff.1 hfold
    have hsegments : Segments (Leaves (2 * tier + 1)) ([] ++ qs) rs :=
      segments_of_foldBetween hrs .nil
    exact spells_of_segments (spells_of_segments h hn hsegments) (by omega)
      (segments_of_foldFronts hqs)

theorem spells_iff_foldTiers {count tier n : Nat} {ps : List Piece} {f : Formula}
    (hn : 2 * (tier + count) ≤ n) :
    Spells (2 * tier) n ps f ↔
      ∃ qs, (List.range' tier count).foldlM (fun pieces tier ↦ foldTier tier pieces) ps = .ok qs ∧
        Spells (2 * (tier + count)) n qs f := by
  induction count generalizing tier ps with
  | zero => simp
  | succ count ih =>
    rw [spells_iff_foldTier (by omega), List.range'_succ]
    simp only [List.foldlM_cons, Except.bind_eq_ok_iff]
    have hshift : tier + (count + 1) = tier + 1 + count := by omega
    constructor
    · rintro ⟨qs, hqs, h⟩
      obtain ⟨rs, hrs, h⟩ := (ih (by omega)).1 h
      exact ⟨rs, ⟨qs, hqs, hrs⟩, hshift ▸ h⟩
    · rintro ⟨rs, ⟨qs, hqs, hrs⟩, h⟩
      exact ⟨qs, hqs, (ih (by omega)).2 ⟨rs, hrs, hshift ▸ h⟩⟩

/-- **Folding succeeds with exactly the formula that the pieces spell.** -/
theorem fold_eq_ok_iff {ps : List Piece} {f : Formula} : fold ps = .ok f ↔ Spells 0 14 ps f := by
  have htiers : Spells 0 14 ps f ↔
      ∃ qs, (List.range' 0 7).foldlM (fun pieces tier ↦ foldTier tier pieces) ps = .ok qs ∧
        Spells 14 14 qs f :=
    @spells_iff_foldTiers 7 0 14 ps f (by omega)
  rw [htiers, fold, List.range_eq_range', Except.bind_eq_ok_iff]
  refine exists_congr fun qs ↦ and_congr_right fun _ ↦ ?_
  rw [Spells.self_iff]
  match qs with
  | [] | [.operand _] | [.negate] | [.operator _] | [.conditional ..] => simp
  | .operand _ :: _ :: _ | .negate :: _ :: _ | .operator _ :: _ :: _
  | .conditional .. :: _ :: _ => simp

end PointBuy.Formula
