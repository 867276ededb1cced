import PointBuy.Database.Registration
import PointBuy.Proofs.Declaration.Relocation

/-!
# Traits at other places

What a declaration defines does not depend on where it stands: the same declaration at another
place, and with its parts at other places, defines the same trait, of which only the locations are
other ones. So a text behind an ended one defines the same traits as it does alone, moved down.

## Main definition

* `Trait.relocated` : a trait with other locations, also of its effects.

## Main statements

* `Trait.ofDeclaration_relocated` : a relocated declaration defines the relocated trait.
* `Source.traits_append` : what two texts define one behind the other.
-/

namespace PointBuy

/-- An effect at another place. -/
def Effect.relocated (f : Location → Location) (effect : Effect) : Effect :=
  { effect with location := f effect.location }

namespace Trait

/-- A trait with other locations, also of its effects. -/
def relocated (f : Location → Location) (t : Trait) : Trait :=
  { t with location := f t.location, effects := t.effects.map (Effect.relocated f) }

variable {f g : Location → Location} {t t' : Trait} {d part : Declaration}
  {location location' : Location} {text : String}

theorem relocated_relocated (t : Trait) : (t.relocated f).relocated g = t.relocated (g ∘ f) := by
  simp only [relocated, Array.map_map]
  rfl

/-! ### Building elsewhere -/

theorem parseFormula_elsewhere {formula : Formula} (h : parseFormula location text = .ok formula) :
    parseFormula location' text = .ok formula :=
  Except.mapError_eq_ok_iff.2 (Except.mapError_eq_ok_iff.1 h)

theorem definedKind_elsewhere {kind : TraitKind} (h : definedKind location text = .ok kind) :
    definedKind location' text = .ok kind := by
  rw [definedKind] at h ⊢
  split at h <;> obtain ⟨formula, hformula, h⟩ := Except.bind_eq_ok_iff.1 h <;>
    exact Except.bind_eq_ok_iff.2 ⟨formula, parseFormula_elsewhere hformula, h⟩

theorem inheritedKind_elsewhere {kind : TraitKind} (h : inheritedKind location text = .ok kind) :
    inheritedKind location' text = .ok kind := by
  obtain ⟨formula, hformula, h⟩ := Except.bind_eq_ok_iff.1 h
  refine Except.bind_eq_ok_iff.2 ⟨formula, parseFormula_elsewhere hformula, ?_⟩
  cases formula with
  | trait parent => exact h
  | integer | percent | boolean | level | negate | binary | conditional => cases h

theorem outer_relocated (h : outer d = .ok t) : outer (d.relocated f) = .ok (t.relocated f) := by
  -- nothing has been said of effects yet
  have hnew (kind : TraitKind) : (.ok { Trait.new d.name kind (f d.location) with
      comment := d.comment } : Building Trait) =
      .ok (relocated f { Trait.new d.name kind d.location with comment := d.comment }) := by
    simp only [relocated, new, Array.map_empty]
  rw [Declaration.relocated_eq]
  rw [outer] at h ⊢
  split at h
  case isTrue => cases h
  case isFalse hsub =>
    rw [if_neg hsub]
    dsimp only at h ⊢
    split at h
    case h_1 =>
      obtain ⟨kind, hkind, h⟩ := Except.bind_eq_ok_iff.1 h
      obtain rfl := Except.ok.inj h
      exact Except.bind_eq_ok_iff.2 ⟨kind, definedKind_elsewhere hkind, hnew kind⟩
    case h_2 =>
      obtain ⟨kind, hkind, h⟩ := Except.bind_eq_ok_iff.1 h
      obtain rfl := Except.ok.inj h
      exact Except.bind_eq_ok_iff.2 ⟨kind, inheritedKind_elsewhere hkind, hnew kind⟩
    case h_3 =>
      obtain ⟨kind, hkind, h⟩ := Except.bind_eq_ok_iff.1 h
      obtain rfl := Except.ok.inj h
      obtain ⟨formula, hformula, rfl⟩ := Except.map_eq_ok_iff.1 hkind
      refine Except.bind_eq_ok_iff.2 ⟨_, Except.map_eq_ok_iff.2 ⟨formula, ?_, rfl⟩, hnew _⟩
      exact parseFormula_elsewhere hformula
    all_goals cases h

theorem describe_relocated (h : t.describe part = .ok t') :
    (t.relocated f).describe (part.relocated f) = .ok (t'.relocated f) := by
  rw [Declaration.relocated_eq]
  rw [describe] at h ⊢
  split at h
  case h_1 => cases h
  case h_2 hsub =>
    obtain ⟨formula, hformula, h⟩ := Except.bind_eq_ok_iff.1 h
    dsimp only
    rw [parseFormula_elsewhere hformula, Except.ok_bind]
    split at h
    case isTrue hname =>
      obtain rfl := Except.ok.inj h
      rw [if_pos hname]
      rfl
    case isFalse hname =>
      rw [if_neg hname]
      cases formula with
      | boolean value =>
        dsimp only [relocated] at h ⊢
        split at h
        case h_1 | h_2 =>
          obtain rfl := Except.ok.inj h
          rfl
        all_goals cases h
      | integer | percent | level | trait | negate | binary | conditional => cases h

theorem changeOf_relocated {lowers : Bool} {formula : Formula} {p : EffectKind × Formula}
    (h : changeOf part lowers formula = .ok p) :
    changeOf (part.relocated f) lowers formula = .ok p := by
  rw [Declaration.relocated_eq]
  rw [changeOf] at h ⊢
  dsimp only
  split at h
  case h_1 => exact h
  case h_2 =>
    split at h
    case isTrue hsub => rwa [if_pos hsub]
    case isFalse => cases h

theorem change_relocated {lowers : Bool} (h : t.change part lowers = .ok t') :
    (t.relocated f).change (part.relocated f) lowers = .ok (t'.relocated f) := by
  obtain ⟨formula, hformula, h⟩ := Except.bind_eq_ok_iff.1 h
  obtain ⟨⟨kind, formula'⟩, hchange, h⟩ := Except.bind_eq_ok_iff.1 h
  refine Except.bind_eq_ok_iff.2 ⟨formula, ?_, Except.bind_eq_ok_iff.2
    ⟨(kind, formula'), changeOf_relocated hchange, ?_⟩⟩
  · rw [Declaration.relocated_eq]
    exact parseFormula_elsewhere hformula
  · dsimp only at h ⊢
    rw [Declaration.relocated_eq]
    cases hparts : part.parts with
    | cons nested parts =>
      rw [hparts] at h
      cases h
    | nil =>
      rw [hparts] at h
      obtain rfl := Except.ok.inj h
      simp only [relocated, Array.map_push]
      rfl

theorem addPart_relocated (h : t.addPart part = .ok t') :
    (t.relocated f).addPart (part.relocated f) = .ok (t'.relocated f) := by
  have hname : (part.relocated f).name = part.name := by rw [Declaration.relocated_eq]
  have hoperator : (part.relocated f).operator = part.operator := by rw [Declaration.relocated_eq]
  have hsub : (part.relocated f).sub = part.sub := by rw [Declaration.relocated_eq]
  rw [addPart] at h ⊢
  rw [hname, hoperator, hsub]
  split at h
  case isTrue hdescribes =>
    rw [if_pos hdescribes]
    exact describe_relocated h
  case isFalse hdescribes =>
    rw [if_neg hdescribes]
    split at h
    case h_1 | h_2 => exact change_relocated h
    case h_3 =>
      split at h
      case isTrue => cases h
      case isFalse hplain =>
        obtain rfl := Except.ok.inj h
        exact if_neg hplain
    all_goals cases h

theorem addParts_relocated {parts : List Declaration} (h : parts.foldlM addPart t = .ok t') :
    (parts.map (.relocated f)).foldlM addPart (t.relocated f) = .ok (t'.relocated f) := by
  induction parts generalizing t with
  | nil =>
    obtain rfl := Except.ok.inj h
    rfl
  | cons part parts ih =>
    rw [List.foldlM_cons] at h
    obtain ⟨next, hpart, h⟩ := Except.bind_eq_ok_iff.1 h
    rw [List.map_cons, List.foldlM_cons, addPart_relocated hpart]
    exact ih h

/-- **A relocated declaration defines the relocated trait.** -/
theorem ofDeclaration_relocated (h : ofDeclaration d = .ok t) :
    ofDeclaration (d.relocated f) = .ok (t.relocated f) := by
  obtain ⟨start, hstart, hparts⟩ := Except.bind_eq_ok_iff.1 h
  refine Except.bind_eq_ok_iff.2 ⟨start.relocated f, outer_relocated hstart, ?_⟩
  rw [Declaration.relocated_eq]
  exact addParts_relocated hparts

theorem ofDeclarations_relocated {ds : List Declaration} {ts : List Trait}
    (h : ofDeclarations ds = .ok ts) :
    ofDeclarations (ds.map (.relocated f)) = .ok (ts.map (.relocated f)) := by
  rw [ofDeclarations] at h ⊢
  induction ds generalizing ts with
  | nil =>
    obtain rfl := Except.ok.inj h
    rfl
  | cons d ds ih =>
    rw [List.mapM_cons] at h
    obtain ⟨t, ht, h⟩ := Except.bind_eq_ok_iff.1 h
    obtain ⟨rest, hrest, h⟩ := Except.bind_eq_ok_iff.1 h
    obtain rfl := Except.ok.inj h
    rw [List.map_cons, List.mapM_cons, ofDeclaration_relocated ht, Except.ok_bind, ih hrest]
    rfl

end Trait

/-- **What two texts define** one behind the other, where the first has ended: what the first
defines, and then what the second defines, moved down by the lines of the first. -/
theorem Source.traits_append {first second : Source} (path : String)
    (hended : Text.Ended first.text.toList) {ts ts' : List Trait} (h : first.traits = .ok ts)
    (h' : second.traits = .ok ts') :
    (Source.mk path (first.text ++ second.text)).traits =
      .ok (ts.map (.relocated (.moved path 0)) ++
        ts'.map (.relocated (.moved path first.lineCount))) := by
  obtain ⟨ds, hds, h⟩ := Except.bind_eq_ok_iff.1 h
  obtain ⟨ds', hds', h'⟩ := Except.bind_eq_ok_iff.1 h'
  rw [Except.mapError_eq_ok_iff] at hds h hds' h'
  refine Except.bind_eq_ok_iff.2 ⟨_, Except.mapError_eq_ok_iff.2
    (declarations_append path hended hds hds'), Except.mapError_eq_ok_iff.2 ?_⟩
  have hfirst := Trait.ofDeclarations_relocated (f := .moved path 0) h
  have hsecond := Trait.ofDeclarations_relocated (f := .moved path first.lineCount) h'
  rw [Trait.ofDeclarations] at hfirst hsecond ⊢
  rw [List.mapM_append, hfirst, Except.ok_bind, hsecond]
  rfl

end PointBuy
