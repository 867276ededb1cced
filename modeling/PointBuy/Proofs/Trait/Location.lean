import PointBuy.Proofs.Declaration.Location
import PointBuy.Trait.Builder

/-!
# Where traits and effects were written

A trait takes its location from its declaration, and each of its effects from the part of the block
that declares it. So, where the declarations of a source are truthful about their places, the traits
that it defines are, too. A fault of a definition is located at the declaration, at one of its
parts, or at a part of such a part.

## Main definition

* `Trait.Truthful` : what holds of the location and the name of a trait, and of its effects.

## Main statements

* `Trait.Truthful.ensures_addPart` : one part of its block keeps a trait truthful.
* `Trait.ensures_ofDeclaration` : a truthful declaration defines a truthful trait.
-/

namespace PointBuy.Trait

/-- **A truthful trait**: its location tells its name, and those of its effects tell the names of
their targets. -/
structure Truthful (tells : Location → String → Prop) (t : Trait) : Prop where
  own : tells t.location t.name
  effects : ∀ effect ∈ t.effects, tells effect.location effect.target

variable {tells : Location → String → Prop} {t t' : Trait} {d part : Declaration}

/-- What else is noted at a trait does not matter. -/
theorem Truthful.congr (h : t.Truthful tells) (hname : t'.name = t.name)
    (hlocation : t'.location = t.location) (heffects : t'.effects = t.effects) :
    t'.Truthful tells :=
  ⟨hlocation ▸ hname ▸ h.own, heffects ▸ h.effects⟩

theorem Truthful.imp {tells' : Location → String → Prop} (h : t.Truthful tells)
    (himp : ∀ l name, tells l name → tells' l name) : t.Truthful tells' :=
  ⟨himp _ _ h.own, fun effect heffect ↦ himp _ _ (h.effects effect heffect)⟩

/-! ### Outside all blocks -/

/-- A fault of a formula is located where the formula is said to stand. -/
theorem ensures_parseFormula (location : Location) (text : String) :
    (parseFormula location text).Ensures (fun _ ↦ True) (·.location = location) := by
  rw [parseFormula]
  cases Formula.parse text with
  | ok formula => trivial
  | error fault => rfl

theorem ensures_definedKind (location : Location) (text : String) :
    (definedKind location text).Ensures (fun _ ↦ True) (·.location = location) := by
  rw [definedKind]
  split <;> exact (ensures_parseFormula location _).bind fun _ _ ↦ trivial

theorem ensures_inheritedKind (location : Location) (text : String) :
    (inheritedKind location text).Ensures (fun _ ↦ True) (·.location = location) := by
  refine (ensures_parseFormula location _).bind fun formula _ ↦ ?_
  cases formula with
  | trait parent => trivial
  | integer | percent | boolean | level | negate | binary | conditional => rfl

/-- A trait has the name and the location of its declaration, and no effect yet. -/
theorem ensures_outer (d : Declaration) :
    (outer d).Ensures (fun t ↦ t.name = d.name ∧ t.location = d.location ∧ t.effects = #[])
      (·.location = d.location) := by
  have hbuilt {kind : Building TraitKind}
      (hkind : kind.Ensures (fun _ ↦ True) (·.location = d.location)) :
      (do return { Trait.new d.name (← kind) d.location with comment := d.comment }).Ensures
        (fun t ↦ t.name = d.name ∧ t.location = d.location ∧ t.effects = #[])
        (·.location = d.location) :=
    hkind.bind fun _ _ ↦ ⟨rfl, rfl, rfl⟩
  rw [outer]
  split
  case isTrue => rfl
  case isFalse =>
    dsimp only
    split
    case h_1 => exact hbuilt (ensures_definedKind _ _)
    case h_2 => exact hbuilt (ensures_inheritedKind _ _)
    case h_3 => exact hbuilt ((ensures_parseFormula _ _).map fun _ _ ↦ trivial)
    case h_4 | h_5 => rfl

/-! ### Parts of a block -/

/-- A part that describes a trait leaves its name, its location and its effects as they are. -/
theorem ensures_describe (t : Trait) (part : Declaration) :
    (t.describe part).Ensures
      (fun t' ↦ t'.name = t.name ∧ t'.location = t.location ∧ t'.effects = t.effects)
      (·.location = part.location) := by
  rw [describe]
  split
  case h_1 => rfl
  case h_2 =>
    refine (ensures_parseFormula _ _).bind fun formula _ ↦ ?_
    split
    case isTrue => exact ⟨rfl, rfl, rfl⟩
    case isFalse =>
      split
      case h_1 =>
        split
        case h_1 | h_2 => exact ⟨rfl, rfl, rfl⟩
        case h_3 | h_4 | h_5 => rfl
      case h_2 => rfl

/-- **A part that changes another trait** adds an effect at its own location, on the trait that it
names. A fault is located at the part, or at one of its own parts. -/
theorem ensures_change (t : Trait) (part : Declaration) (lowers : Bool) :
    (t.change part lowers).Ensures
      (fun t' ↦ t'.name = t.name ∧ t'.location = t.location ∧ ∃ effect : Effect,
        t'.effects = t.effects.push effect ∧ effect.location = part.location ∧
          effect.target = part.name)
      (fun e ↦
        e.location = part.location ∨ ∃ nested ∈ part.parts, e.location = nested.location) := by
  have hchange (formula : Formula) :
      (changeOf part lowers formula).Ensures (fun _ ↦ True) (·.location = part.location) := by
    rw [changeOf]
    split
    case h_1 => trivial
    case h_2 =>
      split
      case isTrue => trivial
      case isFalse => rfl
  rw [change]
  refine ((ensures_parseFormula _ _).imp (fun _ h ↦ h) fun _ ↦ .inl).bind fun formula _ ↦ ?_
  refine ((hchange formula).imp (fun _ h ↦ h) fun _ ↦ .inl).bind fun ⟨kind, formula⟩ _ ↦ ?_
  dsimp only
  split
  case h_1 nested hnested => exact .inr ⟨nested, List.mem_of_mem_head? hnested, rfl⟩
  case h_2 => exact ⟨rfl, rfl, _, rfl, rfl, rfl⟩

/-- **One part of its block keeps a trait truthful**, and a fault is located at a declaration. -/
theorem Truthful.ensures_addPart (h : t.Truthful tells) (hpart : part.Truthful tells) :
    (t.addPart part).Ensures (Truthful tells) (fun e ↦ ∃ name, tells e.location name) := by
  have hfault {e : Located BuildError} (he : e.location = part.location) :
      ∃ name, tells e.location name := ⟨part.name, he ▸ hpart.own⟩
  have hchange (lowers : Bool) : (t.change part lowers).Ensures (Truthful tells)
      (fun e ↦ ∃ name, tells e.location name) := by
    refine (ensures_change t part lowers).imp (fun t' ht' ↦ ?_) fun e he ↦ ?_
    · obtain ⟨hname, hlocation, effect, heffects, heffect, htarget⟩ := ht'
      refine ⟨hlocation ▸ hname ▸ h.own, fun other hother ↦ ?_⟩
      rw [heffects, Array.mem_push] at hother
      rcases hother with hother | rfl
      · exact h.effects other hother
      · exact heffect ▸ htarget ▸ hpart.own
    · rcases he with he | ⟨nested, hnested, he⟩
      · exact hfault he
      · exact ⟨nested.name, he ▸ (hpart.parts nested hnested).own⟩
  rw [addPart]
  split
  case isTrue =>
    exact (ensures_describe t part).imp
      (fun t' ⟨hname, hlocation, heffects⟩ ↦ h.congr hname hlocation heffects) fun e ↦ hfault
  case isFalse =>
    split
    case h_1 | h_2 => exact hchange _
    case h_3 =>
      split
      case isTrue => exact hfault rfl
      case isFalse => exact h
    case h_4 | h_5 => exact hfault rfl

/-- **A truthful declaration defines a truthful trait.** -/
theorem ensures_ofDeclaration (hd : d.Truthful tells) :
    (ofDeclaration d).Ensures (Truthful tells) (fun e ↦ ∃ name, tells e.location name) := by
  have houter : (outer d).Ensures (Truthful tells) (fun e ↦ ∃ name, tells e.location name) := by
    refine (ensures_outer d).imp (fun t ⟨hname, hlocation, heffects⟩ ↦ ?_) fun e he ↦ ?_
    · refine ⟨hlocation ▸ hname ▸ hd.own, fun effect heffect ↦ ?_⟩
      rw [heffects] at heffect
      exact absurd heffect (Array.not_mem_empty effect)
    · exact ⟨d.name, he ▸ hd.own⟩
  exact houter.bind fun t ht ↦
    Except.ensures_foldlM ht fun t part hpart ht ↦ ht.ensures_addPart (hd.parts part hpart)

end PointBuy.Trait
