import Mathlib.Data.List.Basic
import PointBuy.Database.Load
import PointBuy.Proofs.Database.Registration

/-!
# The stages of an analysis

The analysis of a database goes through stages, each of which notes something at the traits: the
effects on them, the places of the skills they inherit from, and the way they are shown. What is
written in the sources stays as it is. Two databases that are written alike (`WrittenAlike`) resolve
names alike, hold the same effects and check formulas alike, so that what one stage has checked
still holds after the next ones.

## Main statements

* `trait?_link`, `exists_of_withParents`, `trait?_dressed` : what a stage makes of each trait.
* `WrittenAlike.check_eq` : formulas have the same sorts in databases that are written alike.
* `graph_dressed` : the graphs do not depend on locations, and not on how traits are shown.
-/

namespace PointBuy

/-! ### Traits as they are written -/

/-- What a trait is, without the place of its parent. -/
def TraitKind.written : TraitKind → TraitKind
  | .inheritedSkill parent _ difficulty category => .inheritedSkill parent none difficulty category
  | .skill difficulty base category => .skill difficulty base category
  | .leveledAdvantage cost => .leveledAdvantage cost
  | .plainAdvantage cost => .plainAdvantage cost
  | .attribute formula => .attribute formula

namespace Trait

/-- A trait as it is written, without what an analysis notes. -/
def written (t : Trait) : Trait :=
  { t with kind := t.kind.written, shownAs := none, format := .decimal, effectedBy := #[] }

variable (t : Trait)

@[simp]
theorem name_written : t.written.name = t.name := rfl

@[simp]
theorem effects_written : t.written.effects = t.effects := rfl

@[simp]
theorem isSkill_written : t.written.isSkill = t.isSkill := by
  cases h : t.kind <;> simp [written, isSkill, TraitKind.written, h]

@[simp]
theorem ownFormula?_written : t.written.ownFormula? = t.ownFormula? := by
  cases h : t.kind <;> simp [written, ownFormula?, TraitKind.written, h]

@[simp]
theorem objection?_written (kind : EffectKind) :
    Database.objection? t.written kind = Database.objection? t kind := by
  cases kind <;> cases h : t.kind <;>
    simp [written, Database.objection?, hasLevel, hasCost, TraitKind.written, h]

@[simp]
theorem admits_written (sort : ValueSort) :
    Scope.admits sort t.written.kind = Scope.admits sort t.kind := by
  cases sort <;> cases h : t.kind <;> simp [written, Scope.admits, TraitKind.written, h]

@[simp]
theorem hasPurchases_written (db db' : Database) :
    (Scope.mk db t.written).hasPurchases = (Scope.mk db' t).hasPurchases := by
  cases h : t.kind <;> simp [written, Scope.hasPurchases, TraitKind.written, h]

end Trait

/-! ### Traits without their locations -/

/-- An effect without its location. -/
def Effect.stripped (effect : Effect) : Effect := { effect with location := default }

/-- A trait without what no check looks at: its comment, all locations, and how it is shown. -/
def Trait.stripped (t : Trait) : Trait :=
  { t with shownAs := none, comment := none, location := default, format := .decimal,
           effects := t.effects.map Effect.stripped }

/-- The sort of a name depends on the kind of trait that has it. -/
theorem Scope.checkName_congr {scope scope' : Scope} {sort : ValueSort} {name : String}
    (h : (scope.database.find? name).map (fun t ↦ admits sort t.kind) =
      (scope'.database.find? name).map fun t ↦ admits sort t.kind) :
    scope.checkName sort name = scope'.checkName sort name := by
  rw [checkName, checkName]
  cases hfound : scope.database.find? name with
  | none =>
    rw [hfound] at h
    rw [Option.map_eq_none_iff.1 h.symm]
  | some t =>
    rw [hfound] at h
    obtain ⟨t', hfound', hadmits⟩ := Option.map_eq_some_iff.1 h.symm
    simp only [hfound', hadmits]

/-- The sorts of formulas depend on those of names, and on whether levels are purchased. -/
theorem Scope.check_congr {scope scope' : Scope}
    (hname : ∀ sort name, scope.checkName sort name = scope'.checkName sort name)
    (hpurchases : scope.hasPurchases = scope'.hasPurchases) (sort : ValueSort) (f : Formula) :
    scope.check sort f = scope'.check sort f := by
  induction f generalizing sort with
  | integer | percent | boolean => rfl
  | level => rw [check, check, hpurchases]
  | trait name => exact hname sort name
  | negate operand ih =>
    unfold check
    rw [ih]
  | binary op left right ihl ihr =>
    unfold check
    simp only [ihl, ihr]
  | conditional condition whenTrue whenFalse ihc iht ihf =>
    unfold check
    simp only [ihc, iht, ihf]

namespace Database

/-! ### Databases that are written alike -/

/-- Two databases hold the same traits, up to what an analysis notes at them. -/
structure WrittenAlike (db db' : Database) : Prop where
  index_eq : db.index = db'.index
  trait?_eq : ∀ i, (db.trait? i).map Trait.written = (db'.trait? i).map Trait.written

namespace WrittenAlike

variable {db db' db'' : Database} {i : Nat} {t : Trait}

theorem trans (h : db.WrittenAlike db') (h' : db'.WrittenAlike db'') : db.WrittenAlike db'' :=
  ⟨h.index_eq.trans h'.index_eq, fun i ↦ (h.trait?_eq i).trans (h'.trait?_eq i)⟩

theorem symm (h : db.WrittenAlike db') : db'.WrittenAlike db :=
  ⟨h.index_eq.symm, fun i ↦ (h.trait?_eq i).symm⟩

theorem indexOf?_eq (h : db.WrittenAlike db') (name : String) :
    db.indexOf? name = db'.indexOf? name := by
  rw [indexOf?, indexOf?, h.index_eq]

theorem find?_eq (h : db.WrittenAlike db') (name : String) :
    (db.find? name).map Trait.written = (db'.find? name).map Trait.written := by
  rw [find?, find?, Option.map_bind, Option.map_bind, h.indexOf?_eq]
  exact Option.bind_congr fun i _ ↦ h.trait?_eq i

/-- Traits that are written alike are both missing or both there. -/
theorem none_or_some {o o' : Option Trait} (h : o.map Trait.written = o'.map Trait.written) :
    (o = none ∧ o' = none) ∨ ∃ t t', o = some t ∧ o' = some t' ∧ t.written = t'.written := by
  cases o with
  | none => exact .inl ⟨rfl, Option.map_eq_none_iff.1 h.symm⟩
  | some t =>
    obtain ⟨t', ht', hwritten⟩ := Option.map_eq_some_iff.1 h.symm
    exact .inr ⟨t, t', rfl, ht', hwritten.symm⟩

theorem exists_trait (h : db.WrittenAlike db') (ht : db.trait? i = some t) :
    ∃ t', db'.trait? i = some t' ∧ t.written = t'.written := by
  rcases none_or_some (h.trait?_eq i) with ⟨hi, -⟩ | ⟨t₁, t', hi, hi', hwritten⟩
  · rw [ht] at hi
    cases hi
  · obtain rfl := Option.some.inj (ht.symm.trans hi)
    exact ⟨t', hi', hwritten⟩

theorem effect?_eq (h : db.WrittenAlike db') (ref : EffectRef) :
    db.effect? ref = db'.effect? ref := by
  rw [effect?, effect?]
  rcases none_or_some (h.trait?_eq ref.owner) with ⟨hi, hi'⟩ | ⟨t, t', hi, hi', hwritten⟩
  · rw [hi, hi']
  · rw [hi, hi', Option.bind_some, Option.bind_some, ← t.effects_written, hwritten,
      t'.effects_written]

theorem indexed (h : db.WrittenAlike db') (hindexed : db.Indexed) : db'.Indexed := by
  intro name i
  rw [← h.indexOf?_eq, hindexed name i]
  constructor
  · rintro ⟨t, ht, rfl⟩
    obtain ⟨t', ht', hwritten⟩ := h.exists_trait ht
    exact ⟨t', ht', by rw [← t'.name_written, ← hwritten, t.name_written]⟩
  · rintro ⟨t', ht', rfl⟩
    obtain ⟨t, ht, hwritten⟩ := h.symm.exists_trait ht'
    exact ⟨t, ht, by rw [← t.name_written, ← hwritten, t'.name_written]⟩

theorem checkName_eq (h : db.WrittenAlike db') {t t' : Trait} (sort : ValueSort) (name : String) :
    Scope.checkName ⟨db, t⟩ sort name = Scope.checkName ⟨db', t'⟩ sort name := by
  have hwritten := congrArg (Option.map fun t ↦ Scope.admits sort t.kind) (h.find?_eq name)
  rw [Option.map_map, Option.map_map] at hwritten
  refine Scope.checkName_congr ?_
  simpa only [Function.comp_def, Trait.admits_written] using hwritten

/-- Formulas have the same sorts in databases that are written alike. -/
theorem check_eq (h : db.WrittenAlike db') {t t' : Trait} (ht : t.written = t'.written)
    (sort : ValueSort) (f : Formula) :
    Scope.check ⟨db, t⟩ sort f = Scope.check ⟨db', t'⟩ sort f := by
  refine Scope.check_congr h.checkName_eq ?_ sort f
  rw [← t.hasPurchases_written db db, ht, t'.hasPurchases_written]

end WrittenAlike

/-! ### Linking -/

section Link

variable (db : Database) (links : List EffectLink) (i : Nat)

/-- The effects that links note at a trait. -/
def refsTo : List EffectRef := (links.filter fun l ↦ l.target = i).map EffectLink.ref

theorem mem_refsTo {links : List EffectLink} {i : Nat} {ref : EffectRef} :
    ref ∈ refsTo links i ↔ ⟨i, ref⟩ ∈ links := by
  rw [refsTo, List.mem_map]
  constructor
  · rintro ⟨l, hl, rfl⟩
    obtain ⟨hmem, htarget⟩ := List.mem_filter.1 hl
    obtain rfl := of_decide_eq_true htarget
    exact hmem
  · exact fun hl ↦ ⟨⟨i, ref⟩, List.mem_filter.2 ⟨hl, decide_eq_true rfl⟩, rfl⟩

/-- Linking notes effects at their targets, and nothing else. -/
theorem trait?_link :
    (db.link links).trait? i = (db.trait? i).map fun t ↦
      { t with effectedBy := t.effectedBy ++ (refsTo links i).toArray } := by
  rw [link, trait?, trait?]
  generalize db.traits = traits
  induction links generalizing traits with
  | nil =>
    simp only [List.foldl_nil, refsTo, List.filter_nil, List.map_nil]
    cases traits[i]? <;> simp
  | cons l links ih =>
    rw [List.foldl_cons, ih, Array.getElem?_modify]
    by_cases hl : l.target = i
    · cases traits[i]? <;> simp [refsTo, hl]
    · cases traits[i]? <;> simp [refsTo, hl]

theorem writtenAlike_link : db.WrittenAlike (db.link links) where
  index_eq := rfl
  trait?_eq i := by
    rw [trait?_link, Option.map_map]
    rfl

end Link

/-! ### Parents -/

section Parents

variable {db db' : Database}

/-- One step of the walk over all traits that resolves their parents. -/
def resolveStep (db : Database) (walk : Array Trait × Option AnalysisError) (t : Trait) :
    Array Trait × Option AnalysisError :=
  match walk with
  | (done, fault) =>
    match fault with
    | some e => (done.push t, some e)
    | none =>
      match db.resolveParent t with
      | .ok t => (done.push t, none)
      | .error e => (done.push t, some e)

theorem resolveParents_eq :
    db.resolveParents =
      ({ db with traits := (db.traits.toList.foldl db.resolveStep (#[], none)).1 },
        (db.traits.toList.foldl db.resolveStep (#[], none)).2) := by
  rw [resolveParents, ← Array.foldl_toList]
  rfl

/-- The walk ends without a fault only where the parent of each trait is resolved. -/
theorem mapM_of_foldl_resolveStep {ts : List Trait} {done : Array Trait}
    {fault : Option AnalysisError} (h : (ts.foldl db.resolveStep (done, fault)).2 = none) :
    fault = none ∧ ∃ resolved, ts.mapM db.resolveParent = .ok resolved ∧
      (ts.foldl db.resolveStep (done, fault)).1.toList = done.toList ++ resolved := by
  induction ts generalizing done fault with
  | nil => exact ⟨h, [], rfl, (List.append_nil _).symm⟩
  | cons t ts ih =>
    rw [List.foldl_cons] at h ⊢
    -- a fault stays to the end, and so there has been none
    cases fault with
    | some e => cases (ih h).1
    | none =>
      rw [resolveStep] at h ⊢
      cases ht : db.resolveParent t with
      | error e =>
        rw [ht] at h
        cases (ih h).1
      | ok t' =>
        rw [ht] at h
        obtain ⟨-, resolved, hts, hall⟩ := ih h
        refine ⟨rfl, t' :: resolved, ?_, ?_⟩
        · rw [List.mapM_cons, ht, Except.ok_bind, hts, Except.ok_bind, Except.pure_eq_ok]
        · simpa using hall

theorem exists_of_withParents (h : db.withParents = .ok db') :
    db'.index = db.index ∧
      db.traits.toList.mapM db.resolveParent = .ok db'.traits.toList := by
  rw [withParents, resolveParents_eq] at h
  split at h
  case h_2 => cases h
  case h_1 heq =>
    obtain rfl := Except.ok.inj h
    obtain ⟨hdb, hfault⟩ := Prod.mk.inj heq
    obtain ⟨-, resolved, hts, hall⟩ := mapM_of_foldl_resolveStep hfault
    rw [Array.toList_empty, List.nil_append] at hall
    exact ⟨by rw [← hdb], by rw [← hdb, hall, hts]⟩

end Parents

/-! ### Presentation -/

/-- A trait shown in another way. Only a trait that one has or has not is newly shown as a word. -/
def Redressed (t t' : Trait) : Prop :=
  ∃ shownAs format, t' = { t with shownAs, format } ∧
    (format = .yesNo → t.format = .yesNo ∨ ∃ cost, t.kind = .plainAdvantage cost)

/-- What a trait is shown as, and how, depends on its name and its kind. -/
theorem tweak_eq (t : Trait) :
    tweak t =
      { t with
        shownAs := if t.name = quartersName then some quartersShownAs else t.shownAs
        format :=
          match t.kind with
          | .plainAdvantage _ => .yesNo
          | .skill .. | .inheritedSkill .. | .leveledAdvantage _ | .attribute _ =>
            if t.name = quartersName then .quarters
            else if diceNames.contains t.name then .dice
            else t.format } := by
  obtain ⟨name, shownAs, comment, location, format, kind, effects, effectedBy⟩ := t
  by_cases hquarters : name = quartersName
  · by_cases hdice : diceNames.contains name = true
    · simp only [tweak, if_pos hquarters, if_pos hdice]
      cases kind <;> rfl
    · simp only [tweak, if_pos hquarters, if_neg hdice]
      cases kind <;> rfl
  · by_cases hdice : diceNames.contains name = true
    · simp only [tweak, if_neg hquarters, if_pos hdice]
      cases kind <;> rfl
    · simp only [tweak, if_neg hquarters, if_neg hdice]
      cases kind <;> rfl

theorem redressed_tweak (t : Trait) : Redressed t (tweak t) := by
  refine ⟨_, _, tweak_eq t, fun hformat ↦ ?_⟩
  cases hkind : t.kind with
  | plainAdvantage cost => exact .inr ⟨cost, rfl⟩
  | skill | inheritedSkill | leveledAdvantage | «attribute» =>
    rw [hkind] at hformat
    dsimp only at hformat
    split_ifs at hformat
    exact .inl hformat

/-- The database with each trait shown in some way. -/
def dressed (db : Database) (dress : Trait → Trait) : Database :=
  { db with traits := db.traits.map dress }

theorem present_eq_dressed (db : Database) (preferences : LoadPreferences) :
    ∃ dress, db.present preferences = db.dressed dress ∧ ∀ t, Redressed t (dress t) := by
  rw [present]
  split
  · exact ⟨tweak, rfl, redressed_tweak⟩
  · refine ⟨id, ?_, fun t ↦ ⟨t.shownAs, t.format, rfl, .inl⟩⟩
    rw [dressed, Array.map_id]

theorem Redressed.stripped_eq {t t' : Trait} (h : Redressed t t') : t'.stripped = t.stripped := by
  obtain ⟨_, _, rfl, -⟩ := h
  rfl

theorem Redressed.written_eq {t t' : Trait} (h : Redressed t t') : t'.written = t.written := by
  obtain ⟨_, _, rfl, -⟩ := h
  rfl

section Dressed

variable {db : Database} {dress : Trait → Trait}

theorem trait?_dressed (i : Nat) : (db.dressed dress).trait? i = (db.trait? i).map dress :=
  Array.getElem?_map

theorem size_dressed : (db.dressed dress).size = db.size := Array.size_map

theorem writtenAlike_dressed (hdress : ∀ t, Redressed t (dress t)) :
    db.WrittenAlike (db.dressed dress) where
  index_eq := rfl
  trait?_eq i := by
    rw [trait?_dressed, Option.map_map]
    exact Option.map_congr fun t _ ↦ (hdress t).written_eq.symm

variable (hdress : ∀ t, (dress t).stripped = t.stripped)

include hdress

theorem kind_dress (t : Trait) : (dress t).kind = t.kind := (congrArg Trait.kind (hdress t) :)

theorem effectedBy_dress (t : Trait) : (dress t).effectedBy = t.effectedBy :=
  (congrArg Trait.effectedBy (hdress t) :)

theorem parentIndex?_dress (t : Trait) : (dress t).parentIndex? = t.parentIndex? :=
  (congrArg Trait.parentIndex? (hdress t) :)

theorem ownFormula?_dress (t : Trait) : (dress t).ownFormula? = t.ownFormula? :=
  (congrArg Trait.ownFormula? (hdress t) :)

theorem effect?_dressed (ref : EffectRef) :
    ((db.dressed dress).effect? ref).map Effect.stripped =
      (db.effect? ref).map Effect.stripped := by
  rw [effect?, effect?, trait?_dressed, Option.map_bind, Option.bind_map, Option.map_bind]
  refine Option.bind_congr fun t _ ↦ ?_
  have heffects : (dress t).effects.map Effect.stripped = t.effects.map Effect.stripped :=
    congrArg Trait.effects (hdress t)
  rw [Function.comp_apply, Function.comp_apply, Function.comp_apply, ← Array.getElem?_map,
    heffects, Array.getElem?_map]

theorem parentOf?_dressed (i : Nat) : (db.dressed dress).parentOf? i = db.parentOf? i := by
  rw [parentOf?, parentOf?, trait?_dressed, Option.bind_map]
  exact Option.bind_congr fun t _ ↦ parentIndex?_dress hdress t

theorem inheritanceRoot?_dressed (i : Nat) :
    (db.dressed dress).inheritanceRoot? i = db.inheritanceRoot? i := by
  rw [inheritanceRoot?, inheritanceRoot?, size_dressed]
  -- both chains have the same links, for however many steps
  generalize db.size + 1 = steps
  induction steps generalizing i with
  | zero => rfl
  | succ steps ih =>
    rw [rootWithin, rootWithin, parentOf?_dressed hdress]
    split
    · exact ih _
    · rfl

theorem levelFormulas_dressed (i : Nat) (t : Trait) :
    (db.dressed dress).levelFormulas i (dress t) = db.levelFormulas i t := by
  have hbase : (db.dressed dress).baseFormula? i (dress t) = db.baseFormula? i t := by
    have hroot (root : Nat) : ((db.dressed dress).trait? root).bind Trait.ownFormula? =
        (db.trait? root).bind Trait.ownFormula? := by
      rw [trait?_dressed, Option.bind_map]
      exact Option.bind_congr fun t _ ↦ ownFormula?_dress hdress t
    rw [baseFormula?, baseFormula?, kind_dress hdress, inheritanceRoot?_dressed hdress]
    cases t.kind with
    | skill | inheritedSkill => exact Option.bind_congr fun root _ ↦ hroot root
    | leveledAdvantage | plainAdvantage | «attribute» => rfl
  rw [levelFormulas, levelFormulas, hbase, effectedBy_dress hdress]
  -- an effect changes a level by the same formula wherever it is written
  refine congrArg (_ ++ ·) (List.filterMap_congr fun ref _ ↦ ?_)
  have heffect : ((db.dressed dress).effect? ref).map Effect.stripped =
      (db.effect? ref).map Effect.stripped := effect?_dressed hdress ref
  cases hfirst : db.effect? ref with
  | none =>
    rw [hfirst] at heffect
    rw [Option.map_eq_none_iff.1 heffect]
  | some effect =>
    rw [hfirst] at heffect
    obtain ⟨effect', heffect', hstripped⟩ := Option.map_eq_some_iff.1 heffect
    have hkind : effect'.kind = effect.kind := (congrArg Effect.kind hstripped :)
    have hformula : effect'.formula = effect.formula := (congrArg Effect.formula hstripped :)
    simp only [heffect', hkind, hformula]

/-- What traits rest on does not depend on their locations, and not on how they are shown. -/
theorem graph_dressed (relation : Relation) :
    (db.dressed dress).graph relation = db.graph relation := by
  have hplaces : (db.dressed dress).placesIn = db.placesIn := rfl
  have hattribute : (db.dressed dress).isAttribute = db.isAttribute := by
    funext i
    have hkind : ((db.dressed dress).trait? i).map Trait.kind = (db.trait? i).map Trait.kind := by
      rw [trait?_dressed, Option.map_map]
      exact Option.map_congr fun t _ ↦ kind_dress hdress t
    rw [isAttribute, isAttribute, hkind]
  have htraits : (db.dressed dress).traits = db.traits.map dress := rfl
  cases relation with
  | inheritance =>
    rw [graph, graph, inheritanceGraph, inheritanceGraph, htraits, Array.map_map]
    exact Array.map_congr_left fun t _ ↦ congrArg Option.toList (parentIndex?_dress hdress t)
  | functions =>
    rw [graph, graph, functionGraph, functionGraph, htraits, Array.map_map, hplaces, hattribute]
    refine Array.map_congr_left fun t _ ↦ ?_
    rw [Function.comp_apply, kind_dress hdress]
  | evaluation =>
    rw [graph, graph, evaluationGraph, evaluationGraph, htraits, hplaces]
    refine Array.ext_getElem? fun i ↦ ?_
    rw [Array.getElem?_mapIdx, Array.getElem?_mapIdx, Array.getElem?_map, Option.map_map]
    refine Option.map_congr fun t _ ↦ ?_
    rw [Function.comp_apply, levelFormulas_dressed hdress]

end Dressed

end Database
end PointBuy
