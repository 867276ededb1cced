import PointBuy.Proofs.Database.Stages

/-!
# What an analysis makes of a database

An analysis goes through its stages and stops at the first fault. Here it is taken apart: what it
returns does not depend on the stages (`Database.noted`), and what it refuses is said trait by
trait, each stage by itself. So the analysis succeeds exactly where no stage objects, and then each
trait has the place of its parent and the effects on it noted, and is otherwise as it was.

## Main definitions

* `Database.Admitted` : what is known of an effect that has been checked.
* `Database.allLinks` : the links of all effects, in the order they are written.
* `Database.Targets` : whether an effect is one on the trait at a place.
* `Database.noted` : the database with all places of parents and all effects noted.

## Main statements

* `Database.analyze_eq_ok_iff` : when an analysis succeeds, and with which database.
* `Database.trait?_noted` : what an analysis notes at a trait.
* `Database.mem_allLinks`, `Database.pairwise_allLinks` : all effects are linked, each once.
-/

namespace PointBuy

/-- Effects are ordered as they are written: by their owners, then by their numbers. -/
def EffectRef.Before (ref ref' : EffectRef) : Prop :=
  ref.owner < ref'.owner ∨ ref.owner = ref'.owner ∧ ref.effect < ref'.effect

namespace Database

variable {db db' : Database} {t t' : Trait} {i place : Nat}

/-! ### Checked effects and their links -/

/-- The links of effects of the trait at a place, numbered from the given number on. An effect
without a target has none. -/
def linksFrom (db : Database) (place number : Nat) (effects : List Effect) : List EffectLink :=
  (effects.zipIdx number).filterMap fun (effect, number) ↦
    (db.indexOf? effect.target).map fun target ↦ ⟨target, ⟨place, number⟩⟩

/-- The links of the effects of a trait at a place. -/
def linksAt (db : Database) (p : Trait × Nat) : List EffectLink :=
  db.linksFrom p.2 0 p.1.effects.toList

/-- The links of all effects, in the order they are written. -/
def allLinks (db : Database) : List EffectLink := db.traits.toList.zipIdx.flatMap db.linksAt

/-- What is known of an effect of a trait that has been checked. -/
structure Admitted (db : Database) (owner : Trait) (effect : Effect) (target : Nat) : Prop where
  indexOf?_eq : db.indexOf? effect.target = some target
  targeted : ∃ t, db.trait? target = some t ∧ objection? t effect.kind = none
  sorted : Scope.check ⟨db, owner⟩ (sortOf effect.kind) effect.formula = .ok ()

/-- What the checks of effects ask of one of them. -/
theorem targetOf_eq_ok_iff {effect : Effect} {target : Nat} :
    db.targetOf t effect = .ok target ↔ db.Admitted t effect target := by
  rw [targetOf]
  dsimp only
  constructor
  · intro h
    split at h
    · cases h
    · rename_i place hplace
      split at h
      · cases h
      · rename_i u hu
        split at h
        · cases h
        · rename_i hobjection
          obtain ⟨_, hcheck, heq⟩ := Except.bind_eq_ok_iff.1 h
          obtain rfl := Except.ok.inj heq
          exact ⟨hplace, ⟨u, hu, hobjection⟩, Except.mapError_eq_ok_iff.1 hcheck⟩
  · rintro ⟨hplace, ⟨u, hu, hobjection⟩, hsorted⟩
    have hcheck : Scope.checkAt ⟨db, t⟩ effect.location (sortOf effect.kind) effect.formula =
        .ok () := Except.mapError_eq_ok_iff.2 hsorted
    simp only [hplace, hu, hobjection, hcheck]
    rfl

theorem linksOf_eq_ok_iff {number : Nat} {effects : List Effect} {links : List EffectLink} :
    db.linksOf t place number effects = .ok links ↔
      (∀ effect ∈ effects, ∃ target, db.Admitted t effect target) ∧
        links = db.linksFrom place number effects := by
  induction effects generalizing number links with
  | nil => simp [linksOf, linksFrom, eq_comm]
  | cons effect effects ih =>
    have hlinks {target : Nat} (hadmitted : db.Admitted t effect target) :
        db.linksFrom place number (effect :: effects) =
          ⟨target, ⟨place, number⟩⟩ :: db.linksFrom place (number + 1) effects := by
      rw [linksFrom, List.zipIdx_cons]
      refine List.filterMap_cons_some ?_
      dsimp only
      rw [hadmitted.indexOf?_eq, Option.map_some]
    rw [linksOf]
    constructor
    · intro h
      obtain ⟨target, htarget, h⟩ := Except.bind_eq_ok_iff.1 h
      obtain ⟨rest, hrest, h⟩ := Except.bind_eq_ok_iff.1 h
      obtain rfl := Except.ok.inj h
      obtain ⟨heffects, rfl⟩ := ih.1 hrest
      have hadmitted := targetOf_eq_ok_iff.1 htarget
      exact ⟨List.forall_mem_cons.2 ⟨⟨target, hadmitted⟩, heffects⟩, (hlinks hadmitted).symm⟩
    · rintro ⟨heffects, rfl⟩
      obtain ⟨⟨target, hadmitted⟩, heffects⟩ := List.forall_mem_cons.1 heffects
      rw [targetOf_eq_ok_iff.2 hadmitted, Except.ok_bind, ih.2 ⟨heffects, rfl⟩, Except.ok_bind,
        hlinks hadmitted]
      rfl

/-- What the checks of formulas ask of one trait. -/
structure Passes (db : Database) (t : Trait) : Prop where
  own : ∀ f, t.ownFormula? = some f → Scope.check ⟨db, t⟩ .integer f = .ok ()
  effects : ∀ effect ∈ t.effects, ∃ target, db.Admitted t effect target

theorem checkOwnFormula_eq_ok_iff :
    db.checkOwnFormula t = .ok () ↔
      ∀ f, t.ownFormula? = some f → Scope.check ⟨db, t⟩ .integer f = .ok () := by
  rw [checkOwnFormula]
  cases t.ownFormula? with
  | none => simp
  | some f => simp [Scope.checkAt]

theorem checkTrait_eq_ok_iff {links : List EffectLink} :
    db.checkTrait t place = .ok links ↔ db.Passes t ∧ links = db.linksAt (t, place) := by
  rw [checkTrait]
  constructor
  · intro h
    obtain ⟨_, hown, h⟩ := Except.bind_eq_ok_iff.1 h
    obtain ⟨heffects, rfl⟩ := linksOf_eq_ok_iff.1 h
    refine ⟨⟨checkOwnFormula_eq_ok_iff.1 hown, fun effect heffect ↦ ?_⟩, rfl⟩
    exact heffects effect (Array.mem_toList_iff.2 heffect)
  · rintro ⟨⟨hown, heffects⟩, rfl⟩
    rw [checkOwnFormula_eq_ok_iff.2 hown, Except.ok_bind]
    refine linksOf_eq_ok_iff.2 ⟨fun effect heffect ↦ ?_, rfl⟩
    exact heffects effect (Array.mem_toList_iff.1 heffect)

theorem mem_zipIdx_traits : (t, i) ∈ db.traits.toList.zipIdx ↔ db.trait? i = some t := by
  rw [List.mem_zipIdx_iff_getElem?, Array.getElem?_toList]
  rfl

/-- What the checks of all formulas ask, and what they give. -/
theorem effectLinks_eq_ok_iff {links : List EffectLink} :
    db.effectLinks = .ok links ↔
      (∀ i t, db.trait? i = some t → db.Passes t) ∧ links = db.allLinks := by
  have hmapM (all : List (List EffectLink)) :
      db.traits.toList.zipIdx.mapM (fun p ↦ db.checkTrait p.1 p.2) = .ok all ↔
        (∀ p ∈ db.traits.toList.zipIdx, db.Passes p.1) ∧
          all = db.traits.toList.zipIdx.map db.linksAt :=
    Except.mapM_eq_ok_iff fun _ _ ↦ checkTrait_eq_ok_iff
  have hpasses : (∀ p ∈ db.traits.toList.zipIdx, db.Passes p.1) ↔
      ∀ i t, db.trait? i = some t → db.Passes t :=
    ⟨fun h i t ht ↦ h (t, i) (mem_zipIdx_traits.2 ht),
      fun h p hp ↦ h p.2 p.1 (mem_zipIdx_traits.1 hp)⟩
  rw [effectLinks, Except.bind_eq_ok_iff]
  simp only [hmapM, hpasses, Except.pure_eq_ok, Except.ok.injEq]
  constructor
  · rintro ⟨_, ⟨h, rfl⟩, rfl⟩
    exact ⟨h, rfl⟩
  · rintro ⟨h, rfl⟩
    exact ⟨_, ⟨h, rfl⟩, rfl⟩

/-! ### Which links there are -/

/-- `db.Targets ref i` : the effect is one on the trait at a place. -/
def Targets (db : Database) (ref : EffectRef) (i : Nat) : Prop :=
  ∃ effect, db.effect? ref = some effect ∧ db.indexOf? effect.target = some i

theorem mem_linksFrom {number : Nat} {effects : List Effect} {l : EffectLink} :
    l ∈ db.linksFrom place number effects ↔ ∃ k effect, effects[k]? = some effect ∧
      l.ref = ⟨place, number + k⟩ ∧ db.indexOf? effect.target = some l.target := by
  rw [linksFrom, List.mem_filterMap]
  constructor
  · rintro ⟨⟨effect, k⟩, hmem, heq⟩
    obtain ⟨hle, heffect⟩ := List.mem_zipIdx_iff_le_and_getElem?_sub.1 hmem
    obtain ⟨target, htarget, rfl⟩ := Option.map_eq_some_iff.1 heq
    exact ⟨k - number, effect, heffect, by rw [Nat.add_sub_cancel' hle], htarget⟩
  · rintro ⟨k, effect, heffect, href, htarget⟩
    refine ⟨(effect, number + k), ?_, ?_⟩
    · exact List.mem_zipIdx_iff_le_and_getElem?_sub.2 ⟨Nat.le_add_right _ _, by
        rwa [Nat.add_sub_cancel_left]⟩
    · dsimp only
      rw [htarget, Option.map_some, ← href]

/-- **There is one link for each effect** that has a target, from the effect to the target. -/
theorem mem_allLinks {l : EffectLink} : l ∈ db.allLinks ↔ db.Targets l.ref l.target := by
  rw [allLinks, List.mem_flatMap]
  constructor
  · rintro ⟨⟨t, place⟩, hmem, hl⟩
    obtain ⟨k, effect, heffect, href, htarget⟩ := mem_linksFrom.1 hl
    rw [Nat.zero_add] at href
    refine ⟨effect, ?_, htarget⟩
    rw [effect?, href, mem_zipIdx_traits.1 hmem, Option.bind_some, ← heffect, Array.getElem?_toList]
  · rintro ⟨effect, heffect, htarget⟩
    obtain ⟨t, ht, heffect⟩ := Option.bind_eq_some_iff.1 heffect
    refine ⟨(t, l.ref.owner), mem_zipIdx_traits.2 ht, ?_⟩
    refine mem_linksFrom.2 ⟨l.ref.effect, effect, ?_, ?_, htarget⟩
    · rw [Array.getElem?_toList, heffect]
    · rw [Nat.zero_add]

theorem pairwise_zipIdx {α : Type} (as : List α) (number : Nat) :
    (as.zipIdx number).Pairwise fun p q ↦ p.2 < q.2 := by
  have hnumbers : ((as.zipIdx number).map Prod.snd).Pairwise (· < ·) := by
    rw [List.zipIdx_map_snd]
    exact List.pairwise_lt_range'
  exact List.pairwise_map.1 hnumbers

/-- The links of one trait are in the order of its effects. -/
theorem pairwise_linksFrom {number : Nat} {effects : List Effect} :
    (db.linksFrom place number effects).Pairwise fun l l' ↦ l.ref.Before l'.ref := by
  refine List.pairwise_filterMap.2 ((pairwise_zipIdx effects number).imp ?_)
  intro p q hlt l hl l' hl'
  obtain ⟨target, -, rfl⟩ := Option.map_eq_some_iff.1 hl
  obtain ⟨target', -, rfl⟩ := Option.map_eq_some_iff.1 hl'
  exact .inr ⟨rfl, hlt⟩

/-- **All links are in the order of their effects**, and so no effect has two. -/
theorem pairwise_allLinks : db.allLinks.Pairwise fun l l' ↦ l.ref.Before l'.ref := by
  refine List.pairwise_flatMap.2 ⟨fun _ _ ↦ pairwise_linksFrom, ?_⟩
  refine (pairwise_zipIdx db.traits.toList 0).imp fun {p q} hlt l hl l' hl' ↦ ?_
  obtain ⟨_, _, -, href, -⟩ := mem_linksFrom.1 hl
  obtain ⟨_, _, -, href', -⟩ := mem_linksFrom.1 hl'
  rw [href, href']
  exact .inl hlt

/-- The effects that are noted at a trait are in their order. -/
theorem pairwise_refsTo (i : Nat) : (refsTo db.allLinks i).Pairwise EffectRef.Before :=
  List.pairwise_map.2 (pairwise_allLinks.filter _)

/-! ### The places of parents -/

/-- A trait with the place of its parent, if it inherits and has one. -/
def resolved (db : Database) (t : Trait) : Trait :=
  match t.kind with
  | .inheritedSkill parent _ difficulty category =>
    { t with kind := .inheritedSkill parent (db.indexOf? parent) difficulty category }
  | .skill .. | .leveledAdvantage _ | .plainAdvantage _ | .attribute _ => t

theorem resolved_effectedBy (db : Database) (t : Trait) (effectedBy : Array EffectRef) :
    db.resolved { t with effectedBy } = { db.resolved t with effectedBy } := by
  rw [resolved, resolved]
  dsimp only
  split <;> rfl

theorem written_resolved : (db.resolved t).written = t.written := by
  rw [resolved]
  split
  case h_1 hkind => simp only [Trait.written, TraitKind.written, hkind]
  all_goals rfl

theorem format_resolved : (db.resolved t).format = t.format := by
  rw [resolved]
  split <;> rfl

/-- A skill that inherits did so before, and its parent has been looked up. -/
theorem kind_of_resolved {parent : String} {place : Option Nat} {difficulty : Option Difficulty}
    {category : Bool}
    (h : (db.resolved t).kind = .inheritedSkill parent place difficulty category) :
    (∃ first, t.kind = .inheritedSkill parent first difficulty category) ∧
      place = db.indexOf? parent := by
  rw [resolved] at h
  cases hkind : t.kind with
  | inheritedSkill =>
    simp only [hkind] at h
    cases h
    exact ⟨⟨_, rfl⟩, rfl⟩
  | skill | leveledAdvantage | plainAdvantage | «attribute» =>
    simp only [hkind] at h
    cases h

/-- What the search for parents asks of a trait: if it inherits, then from a skill. -/
def Inherits (db : Database) (t : Trait) : Prop :=
  ∀ parent place difficulty category, t.kind = .inheritedSkill parent place difficulty category →
    ∃ skill, db.find? parent = some skill ∧ skill.isSkill = true

theorem resolveParent_eq_ok_iff :
    db.resolveParent t = .ok t' ↔ db.Inherits t ∧ t' = db.resolved t := by
  rw [resolveParent, resolved]
  cases hkind : t.kind with
  | skill | leveledAdvantage | plainAdvantage | «attribute» =>
    have hinherits : db.Inherits t := fun _ _ _ _ heq ↦ by
      rw [hkind] at heq
      cases heq
    simp [hinherits, eq_comm]
  | inheritedSkill parent place difficulty category =>
    have hinherits : db.Inherits t ↔ ∃ skill, db.find? parent = some skill ∧ skill.isSkill = true :=
      ⟨fun h ↦ h _ _ _ _ hkind, fun h _ _ _ _ heq ↦ by
        obtain rfl := (TraitKind.inheritedSkill.inj (hkind.symm.trans heq)).1
        exact h⟩
    rw [hinherits, find?]
    dsimp only
    cases hplace : db.indexOf? parent with
    | none => simp
    | some j =>
      have hany : (db.trait? j).any Trait.isSkill = true ↔
          ∃ skill, db.trait? j = some skill ∧ skill.isSkill = true := Option.any_eq_true _ _
      rw [Option.bind_some, ← hany]
      dsimp only
      split
      case isTrue hskill => simp [hskill, eq_comm]
      case isFalse hskill => simp [hskill]

/-- The walk over all traits ends without a fault where the parent of each is resolved. -/
theorem foldl_resolveStep_of_mapM {ts resolved : List Trait} {done : Array Trait}
    (h : ts.mapM db.resolveParent = .ok resolved) :
    ts.foldl db.resolveStep (done, none) = (done ++ resolved.toArray, none) := by
  induction ts generalizing resolved done with
  | nil =>
    obtain rfl := Except.ok.inj h
    simp
  | cons t ts ih =>
    rw [List.mapM_cons] at h
    obtain ⟨t', ht, h⟩ := Except.bind_eq_ok_iff.1 h
    obtain ⟨rest, hrest, h⟩ := Except.bind_eq_ok_iff.1 h
    obtain rfl := Except.ok.inj h
    rw [List.foldl_cons, resolveStep, ht, ih hrest]
    simp

theorem forall_mem_traits {P : Trait → Prop} :
    (∀ t ∈ db.traits.toList, P t) ↔ ∀ i t, db.trait? i = some t → P t := by
  simp only [List.mem_iff_getElem?, Array.getElem?_toList, forall_exists_index]
  exact forall_comm

/-- What the search for parents asks of all traits, and what it gives. -/
theorem withParents_eq_ok_iff :
    db.withParents = .ok db' ↔
      (∀ i t, db.trait? i = some t → db.Inherits t) ∧
        db' = { db with traits := db.traits.map db.resolved } := by
  have hmapM (all : List Trait) : db.traits.toList.mapM db.resolveParent = .ok all ↔
      (∀ t ∈ db.traits.toList, db.Inherits t) ∧ all = db.traits.toList.map db.resolved :=
    Except.mapM_eq_ok_iff fun _ _ ↦ resolveParent_eq_ok_iff
  rw [← forall_mem_traits]
  constructor
  · intro h
    obtain ⟨hindex, htraits⟩ := exists_of_withParents h
    obtain ⟨hall, htraits⟩ := (hmapM _).1 htraits
    refine ⟨hall, ?_⟩
    obtain ⟨traits, index⟩ := db'
    rw [← Array.toList_map, Array.toList_inj] at htraits
    rw [← htraits, ← hindex]
  · rintro ⟨hall, rfl⟩
    have hwalk : db.traits.toList.foldl db.resolveStep (#[], none) =
        (#[] ++ (db.traits.toList.map db.resolved).toArray, none) :=
      foldl_resolveStep_of_mapM ((hmapM _).2 ⟨hall, rfl⟩)
    rw [withParents, resolveParents_eq, hwalk]
    simp [← Array.toList_map]

/-! ### The whole analysis -/

/-- The database with all places of parents and all effects noted. -/
def noted (db : Database) : Database where
  traits := (db.link db.allLinks).traits.map db.resolved
  index := db.index

/-- **What an analysis notes at a trait**: the place of its parent, and the effects on it. -/
theorem trait?_noted (db : Database) (i : Nat) :
    db.noted.trait? i = (db.trait? i).map fun t ↦
      { db.resolved t with effectedBy := t.effectedBy ++ (refsTo db.allLinks i).toArray } := by
  have hlinked := db.trait?_link db.allLinks i
  rw [trait?] at hlinked ⊢
  rw [noted, Array.getElem?_map, hlinked, Option.map_map]
  exact Option.map_congr fun t _ ↦ db.resolved_effectedBy t _

/-- What is noted at traits leaves them as they are written. -/
theorem writtenAlike_noted (db : Database) : db.WrittenAlike db.noted where
  index_eq := rfl
  trait?_eq i := by
    rw [trait?_noted, Option.map_map]
    exact (Option.map_congr fun t _ ↦ written_resolved).symm

theorem size_noted (db : Database) : db.noted.size = db.size := by
  have hlinked : (db.link db.allLinks).size = db.size := by
    rw [link, size, size]
    generalize db.traits = traits
    induction db.allLinks generalizing traits with
    | nil => rfl
    | cons l links ih => rw [List.foldl_cons, ih, Array.size_modify]
  rw [noted, size, Array.size_map]
  exact hlinked

/-- A trait that inherits from a skill does so whatever is noted at the traits. -/
theorem WrittenAlike.inherits (h : db.WrittenAlike db') (ht : t.kind = t'.kind) :
    db.Inherits t → db'.Inherits t' := by
  intro hinherits parent place difficulty category hkind
  obtain ⟨skill, hskill, hisSkill⟩ := hinherits _ _ _ _ (ht.trans hkind)
  rcases none_or_some (h.find?_eq parent) with ⟨hi, -⟩ | ⟨u, u', hi, hi', hwritten⟩
  · rw [hskill] at hi
    cases hi
  · obtain rfl := Option.some.inj (hskill.symm.trans hi)
    exact ⟨u', hi', by rw [← u'.isSkill_written, ← hwritten, skill.isSkill_written, hisSkill]⟩

/-- What the search for parents asks of linked traits, it asks of the traits as they were. -/
theorem inherits_link (links : List EffectLink) :
    (∀ i t, (db.link links).trait? i = some t → (db.link links).Inherits t) ↔
      ∀ i t, db.trait? i = some t → db.Inherits t := by
  have halike := writtenAlike_link db links
  constructor
  · intro h i t ht
    have hlinked := db.trait?_link links i
    rw [ht, Option.map_some] at hlinked
    have hinherits := h i _ hlinked
    exact halike.symm.inherits (by rfl) hinherits
  · intro h i t' ht'
    rw [trait?_link] at ht'
    obtain ⟨t, ht, rfl⟩ := Option.map_eq_some_iff.1 ht'
    exact halike.inherits rfl (h i t ht)

/-- **When an analysis succeeds, and with which database.** No stage objects: the formulas and
effects of all traits pass, all that inherit inherit from skills, and what is noted then has no
cycle and no misplaced skill. -/
theorem analyze_eq_ok_iff :
    db.analyze = .ok db' ↔ db' = db.noted ∧
      (∀ i t, db.trait? i = some t → db.Passes t) ∧
      (∀ i t, db.trait? i = some t → db.Inherits t) ∧
      (∀ relation, db.noted.checkCycles relation = .ok ()) ∧
      db.noted.checkSpecialties = .ok () := by
  have hnoted : { db.link db.allLinks with
      traits := (db.link db.allLinks).traits.map (db.link db.allLinks).resolved } = db.noted := rfl
  rw [analyze]
  constructor
  · intro h
    obtain ⟨links, hlinks, h⟩ := Except.bind_eq_ok_iff.1 h
    obtain ⟨hpasses, rfl⟩ := effectLinks_eq_ok_iff.1 hlinks
    obtain ⟨noted, hparents, h⟩ := Except.bind_eq_ok_iff.1 h
    obtain ⟨hinherits, rfl⟩ := withParents_eq_ok_iff.1 hparents
    rw [hnoted] at h
    obtain ⟨_, hinheritance, h⟩ := Except.bind_eq_ok_iff.1 h
    obtain ⟨_, hfunctions, h⟩ := Except.bind_eq_ok_iff.1 h
    obtain ⟨_, hspecialties, h⟩ := Except.bind_eq_ok_iff.1 h
    obtain ⟨_, hevaluation, h⟩ := Except.bind_eq_ok_iff.1 h
    refine ⟨(Except.ok.inj h).symm, hpasses, (inherits_link _).1 hinherits, fun relation ↦ ?_,
      hspecialties⟩
    cases relation with
    | inheritance => exact hinheritance
    | functions => exact hfunctions
    | evaluation => exact hevaluation
  · rintro ⟨rfl, hpasses, hinherits, hcycles, hspecialties⟩
    rw [effectLinks_eq_ok_iff.2 ⟨hpasses, rfl⟩, Except.ok_bind,
      withParents_eq_ok_iff.2 ⟨(inherits_link _).2 hinherits, rfl⟩, Except.ok_bind, hnoted,
      hcycles, Except.ok_bind, hcycles, Except.ok_bind, hspecialties, Except.ok_bind, hcycles,
      Except.ok_bind]
    rfl

/-- **When sources can be loaded, and to which database.** -/
theorem load_eq_ok_iff {sources : List Source} {preferences : LoadPreferences} :
    load sources preferences = .ok db ↔ sources.length ≤ Limits.sources ∧ ∃ registered,
      empty.addSources sources = .ok registered ∧
      registered.requireNames preferences.coreNames = .ok () ∧
      registered.analyze = .ok registered.noted ∧ db = registered.noted.present preferences := by
  have hcount : checkSourceCount sources = .ok () ↔ sources.length ≤ Limits.sources := by
    rw [checkSourceCount]
    split
    case isTrue hmany => simpa using hmany
    case isFalse hfew => simpa using hfew
  rw [load]
  constructor
  · intro h
    obtain ⟨_, hfew, h⟩ := Except.bind_eq_ok_iff.1 h
    obtain ⟨registered, hregistered, h⟩ := Except.bind_eq_ok_iff.1 h
    obtain ⟨_, hnames, h⟩ := Except.bind_eq_ok_iff.1 h
    obtain ⟨analyzed, hanalyzed, h⟩ := Except.bind_eq_ok_iff.1 h
    rw [Except.mapError_eq_ok_iff] at hanalyzed
    obtain rfl := (analyze_eq_ok_iff.1 hanalyzed).1
    exact ⟨hcount.1 hfew, registered, hregistered, hnames, hanalyzed, (Except.ok.inj h).symm⟩
  · rintro ⟨hfew, registered, hregistered, hnames, hanalyzed, rfl⟩
    rw [hcount.2 hfew, Except.ok_bind, hregistered, Except.ok_bind, hnames, Except.ok_bind,
      hanalyzed]
    rfl

/-- A loaded database shows what an analysis has noted at registered traits. -/
theorem exists_registered_of_load {sources : List Source} {preferences : LoadPreferences}
    (h : load sources preferences = .ok db) :
    ∃ registered, empty.addSources sources = .ok registered ∧
      registered.analyze = .ok registered.noted ∧ db = registered.noted.present preferences := by
  obtain ⟨-, registered, hregistered, -, hanalyzed, hdb⟩ := load_eq_ok_iff.1 h
  exact ⟨registered, hregistered, hanalyzed, hdb⟩

end Database
end PointBuy
