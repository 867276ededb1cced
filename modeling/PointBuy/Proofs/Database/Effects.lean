import PointBuy.Proofs.Database.Lineage
import PointBuy.Proofs.Sheet.Reading

/-!
# The effects that are noted at a trait

A loaded database notes at each trait the effects on it. Which these are does not depend on how they
came to be noted: they are all effects of the database that name the trait as their target, each
once, owner by owner (`filterMap_effectedBy_of_load`). Their order is that of the sources. To say
what depends on it, a database is looked at in which other effects are noted at one trait, or the
same ones in another order (`Database.withEffectedBy`); names, effects and chains of inheritance are
the same there, and as long as the effects are the same ones, no trait comes to rest on others.

## Main definitions

* `Database.effects` : all effects of a database, each with the place of its owner.
* `Database.withEffectedBy` : a database in which other effects are noted at one trait.

## Main statements

* `Database.filterMap_effectedBy_of_load` : the effects that are noted at a trait of a loaded
  database are all effects on it.
* `Database.points_withEffectedBy` : in another order of effects, traits rest on the same traits.
-/

namespace PointBuy

/-- A trait at which other effects on it are noted. -/
def Trait.withEffectedBy (t : Trait) (refs : List EffectRef) : Trait :=
  { t with effectedBy := refs.toArray }

namespace Database

variable {db db' : Database} {t : Trait} {i j k : Nat} {refs : List EffectRef}

/-! ### All effects of a database -/

/-- The effects of a database in the order they are written, each with the place of its owner. -/
def effects (db : Database) : List (Nat × Effect) :=
  db.traits.toList.zipIdx.flatMap fun (t, place) ↦ t.effects.toList.map (place, ·)

/-- Whether an effect is one on the trait at a place. -/
def isOn (db : Database) (i : Nat) (p : Nat × Effect) : Bool :=
  db.indexOf? p.2.target = some i

theorem WrittenAlike.allLinks_eq (h : db.WrittenAlike db') : db.allLinks = db'.allLinks := by
  have hlinks (db : Database) : db.allLinks = (db.traits.toList.map Trait.written).zipIdx.flatMap
      fun p ↦ db.linksFrom p.2 0 p.1.effects.toList := by
    rw [allLinks, List.zipIdx_map, List.flatMap_map]
    rfl
  have htraits : db.traits.toList.map Trait.written = db'.traits.toList.map Trait.written := by
    refine List.ext_getElem? fun i ↦ ?_
    rw [List.getElem?_map, List.getElem?_map, Array.getElem?_toList, Array.getElem?_toList]
    exact h.trait?_eq i
  have hfrom : db.linksFrom = db'.linksFrom := by
    funext place number effects
    rw [linksFrom, linksFrom]
    simp only [h.indexOf?_eq]
  rw [hlinks, hlinks, htraits, hfrom]

/-- What is noted at a trait of a loaded database are the links to it. -/
theorem effectedBy_of_load {sources : List Source} {preferences : LoadPreferences}
    (hload : load sources preferences = .ok db) (ht : db.trait? i = some t) :
    t.effectedBy.toList = refsTo db.allLinks i := by
  obtain ⟨registered, hregistered, hanalyzed, rfl⟩ := exists_registered_of_load hload
  obtain ⟨-, -, hinherits, -⟩ := analyze_eq_ok_iff.1 hanalyzed
  obtain ⟨dress, heq, hdress⟩ := present_eq_dressed registered.noted preferences
  rw [heq] at ht ⊢
  have halike := registered.writtenAlike_noted.trans (writtenAlike_dressed hdress)
  rw [← halike.allLinks_eq]
  have hstaged := staged_of_noted (registered_of_addSources hregistered) hinherits hdress ht
  rw [hstaged.effectedBy_eq]

/-- The links from one trait to a place, one for each effect of it on the trait there. -/
theorem filterMap_linksAt {α : Type} (f : Nat × Effect → Option α) (ht : db.trait? k = some t) :
    (db.linksAt (t, k)).filterMap (fun l ↦ if l.target = i then
        (db.effect? l.ref).bind fun effect ↦ f (l.ref.owner, effect) else none) =
      t.effects.toList.filterMap fun effect ↦
        if db.isOn i (k, effect) then f (k, effect) else none := by
  have hnumbered : t.effects.toList.filterMap
        (fun effect ↦ if db.isOn i (k, effect) then f (k, effect) else none) =
      t.effects.toList.zipIdx.filterMap
        fun p ↦ if db.isOn i (k, p.1) then f (k, p.1) else none := by
    conv_lhs => rw [← List.zipIdx_map_fst 0 t.effects.toList, List.filterMap_map]
    rfl
  rw [hnumbered, linksAt, linksFrom, List.filterMap_filterMap]
  refine List.filterMap_congr fun p hp ↦ ?_
  have heffect : db.effect? ⟨k, p.2⟩ = some p.1 := by
    rw [effect?, ht, Option.bind_some, ← Array.getElem?_toList]
    exact List.mem_zipIdx_iff_getElem?.1 hp
  cases htarget : db.indexOf? p.1.target with
  | none => simp [isOn, htarget]
  | some target =>
    by_cases hi : target = i <;> simp [isOn, htarget, hi, heffect]

/-- **The effects that are noted at a trait of a loaded database are all effects on it**, in the
order they are written. -/
theorem filterMap_effectedBy_of_load {α : Type} {sources : List Source}
    {preferences : LoadPreferences} (hload : load sources preferences = .ok db)
    (ht : db.trait? i = some t) (f : Nat × Effect → Option α) :
    t.effectedBy.toList.filterMap (fun ref ↦
        (db.effect? ref).bind fun effect ↦ f (ref.owner, effect)) =
      (db.effects.filter (db.isOn i)).filterMap f := by
  rw [effectedBy_of_load hload ht, refsTo, List.filterMap_map, List.filterMap_filter, allLinks,
    List.filterMap_flatMap, List.filterMap_filter, effects, List.filterMap_flatMap]
  refine List.flatMap_congr fun p hp ↦ ?_
  have hlinks := filterMap_linksAt (i := i) f (mem_zipIdx_traits.1 hp)
  rw [List.filterMap_map]
  simpa using hlinks

/-! ### Other effects at one trait -/

/-- The database in which other effects are noted at the trait at a place. -/
def withEffectedBy (db : Database) (i : Nat) (refs : List EffectRef) : Database :=
  { db with traits := db.traits.modify i (·.withEffectedBy refs) }

theorem trait?_withEffectedBy (db : Database) (i : Nat) (refs : List EffectRef) (j : Nat) :
    (db.withEffectedBy i refs).trait? j =
      (db.trait? j).map fun t ↦ if i = j then t.withEffectedBy refs else t := by
  rw [trait?, withEffectedBy, Array.getElem?_modify, trait?]
  split <;> simp

/-- With the effects that are noted already, the database is the same. -/
theorem withEffectedBy_self (ht : db.trait? i = some t) :
    db.withEffectedBy i t.effectedBy.toList = db := by
  have htraits : (db.withEffectedBy i t.effectedBy.toList).traits = db.traits := by
    refine Array.ext_getElem? fun j ↦ ?_
    show (db.withEffectedBy i t.effectedBy.toList).trait? j = db.trait? j
    rw [trait?_withEffectedBy]
    split
    case isTrue hij =>
      subst hij
      rw [ht]
      rfl
    case isFalse => exact Option.map_id'
  exact congrArg (fun traits ↦ { db with traits }) htraits

theorem size_withEffectedBy : (db.withEffectedBy i refs).size = db.size := Array.size_modify

/-- All that is read of a trait, but for the effects on it, is the same. -/
theorem bind_trait?_withEffectedBy {α : Type} {read : Trait → Option α}
    (h : ∀ t, read (t.withEffectedBy refs) = read t) :
    ((db.withEffectedBy i refs).trait? j).bind read = (db.trait? j).bind read := by
  rw [trait?_withEffectedBy, Option.bind_map]
  refine Option.bind_congr fun t _ ↦ ?_
  rw [Function.comp_apply]
  split
  · exact h t
  · rfl

theorem map_trait?_withEffectedBy {α : Type} {read : Trait → α}
    (h : ∀ t, read (t.withEffectedBy refs) = read t) :
    ((db.withEffectedBy i refs).trait? j).map read = (db.trait? j).map read := by
  rw [Option.map_eq_bind, Option.map_eq_bind]
  exact bind_trait?_withEffectedBy fun t ↦ congrArg some (h t)

theorem effect?_withEffectedBy (ref : EffectRef) :
    (db.withEffectedBy i refs).effect? ref = db.effect? ref :=
  bind_trait?_withEffectedBy fun _ ↦ rfl

theorem parentOf?_withEffectedBy : (db.withEffectedBy i refs).parentOf? j = db.parentOf? j :=
  bind_trait?_withEffectedBy fun _ ↦ rfl

theorem isCategory_withEffectedBy : (db.withEffectedBy i refs).isCategory j = db.isCategory j := by
  have hany (db : Database) :
      db.isCategory j = ((db.trait? j).map Trait.isCategory).getD false := by
    rw [isCategory]
    cases db.trait? j <;> rfl
  rw [hany, hany, map_trait?_withEffectedBy fun _ ↦ rfl]

theorem inheritanceRoot?_withEffectedBy :
    (db.withEffectedBy i refs).inheritanceRoot? j = db.inheritanceRoot? j := by
  rw [inheritanceRoot?, inheritanceRoot?, size_withEffectedBy]
  -- both chains have the same links, for however many steps
  generalize db.size + 1 = steps
  induction steps generalizing j with
  | zero => rfl
  | succ steps ih =>
    rw [rootWithin, rootWithin, parentOf?_withEffectedBy]
    split
    · exact ih
    · rfl

theorem writtenDifficulty?_withEffectedBy :
    (db.withEffectedBy i refs).writtenDifficulty? j = db.writtenDifficulty? j :=
  bind_trait?_withEffectedBy fun _ ↦ rfl

theorem difficulty?_withEffectedBy :
    (db.withEffectedBy i refs).difficulty? j = db.difficulty? j := by
  rw [difficulty?, difficulty?, size_withEffectedBy]
  generalize db.size + 1 = rounds, 0 = steps
  induction rounds generalizing j steps with
  | zero => rfl
  | succ rounds ih =>
    rw [difficultyFrom_succ, difficultyFrom_succ]
    simp only [ih, writtenDifficulty?_withEffectedBy, parentOf?_withEffectedBy,
      isCategory_withEffectedBy]

theorem baseFormula?_withEffectedBy {t' : Trait} (hkind : t'.kind = t.kind) :
    (db.withEffectedBy i refs).baseFormula? j t' = db.baseFormula? j t := by
  rw [baseFormula?, baseFormula?, hkind, inheritanceRoot?_withEffectedBy]
  cases t.kind with
  | skill | inheritedSkill =>
    exact Option.bind_congr fun root _ ↦ bind_trait?_withEffectedBy fun _ ↦ rfl
  | leveledAdvantage | plainAdvantage | «attribute» => rfl

/-- **In another order of the effects on a trait, traits rest on the same traits.** -/
theorem points_withEffectedBy (ht : db.trait? i = some t) (hrefs : refs.Perm t.effectedBy.toList)
    (h : (db.withEffectedBy i refs).evaluationGraph.Points j k) :
    db.evaluationGraph.Points j k := by
  obtain ⟨u', hu', f, hf, hk⟩ := mem_evaluationGraph.1 h
  rw [trait?_withEffectedBy] at hu'
  obtain ⟨u, hu, rfl⟩ := Option.map_eq_some_iff.1 hu'
  refine mem_evaluationGraph.2 ⟨u, hu, f, ?_, hk⟩
  rcases mem_levelFormulas_iff.1 hf with hbase | ⟨ref, href, effect, heffect, hkind, hformula⟩
  · refine mem_levelFormulas_iff.2 (.inl ?_)
    rw [← hbase]
    refine (baseFormula?_withEffectedBy ?_).symm
    split <;> rfl
  · refine mem_levelFormulas_iff.2 (.inr ⟨ref, ?_, effect, ?_, hkind, hformula⟩)
    · split at href
      case isTrue hij =>
        obtain rfl := Option.some.inj (ht.symm.trans (hij ▸ hu))
        exact Array.mem_toList_iff.1 (hrefs.mem_iff.1 (List.mem_toArray.1 href))
      case isFalse => exact href
    · rw [← heffect, effect?_withEffectedBy]

/-! ### A small database with several effects -/

/-- A source with an advantage that raises and lowers an attribute, and its own cost. -/
def fateSource : Source :=
  ⟨"fate.txt", "Might = 0\nFate: 5 * level \x7b\nMight += 9223372036854775800\n" ++
    "Might += 4 * level\nMight -= level\nFate.cost += 50%\nFate.cost -= 20%\n\x7d\n"⟩

/-- The attribute of that source. -/
def might : Trait := .new "Might" (.attribute (.integer 0)) ⟨"fate.txt", 1⟩

/-- The effects of the advantage of that source. -/
def fateEffects : List Effect :=
  [⟨"Fate", "Might", .level, .integer 9223372036854775800, ⟨"fate.txt", 3⟩⟩,
    ⟨"Fate", "Might", .level, .binary .multiply (.integer 4) .level, ⟨"fate.txt", 4⟩⟩,
    ⟨"Fate", "Might", .level, .negate .level, ⟨"fate.txt", 5⟩⟩,
    ⟨"Fate", "Fate", .cost .raise, .percent 50, ⟨"fate.txt", 6⟩⟩,
    ⟨"Fate", "Fate", .cost .lower, .percent 20, ⟨"fate.txt", 7⟩⟩]

/-- The advantage of that source. -/
def fate : Trait :=
  { Trait.new "Fate" (.leveledAdvantage (.binary .multiply (.integer 5) .level))
      ⟨"fate.txt", 2⟩ with effects := fateEffects.toArray }

/-- The traits of that source, before an analysis. -/
def fated : Database := (empty.push might).push fate

theorem indexOf?_fated (name : String) :
    fated.indexOf? name =
      if fate.name = name then some 1 else if might.name = name then some 0 else none := by
  rw [fated, indexOf?_push, indexOf?_push]
  simp [empty, push, indexOf?, size]

theorem addSources_fated : empty.addSources [fateSource] = .ok fated := by
  have htraits : fateSource.traits = .ok [might, fate] :=
    Except.eq_ok_of_toOption (by decide +kernel)
  have hnone (name : String) : empty.indexOf? name = none := by simp [empty, indexOf?]
  have hmight : empty.refusal? might = none := by
    rw [refusal?, find?, hnone]
    rfl
  have hfate : (empty.push might).refusal? fate = none := by
    rw [refusal?, find?, indexOf?_push, if_neg (by decide), hnone]
    rfl
  rw [addSources, addSource, htraits]
  simp only [registerAll, hmight, hfate]
  rfl

theorem traits_fated : fated.traits = #[might, fate] := rfl

theorem allLinks_fated : fated.allLinks =
    [⟨0, ⟨1, 0⟩⟩, ⟨0, ⟨1, 1⟩⟩, ⟨0, ⟨1, 2⟩⟩, ⟨1, ⟨1, 3⟩⟩, ⟨1, ⟨1, 4⟩⟩] := by
  rw [allLinks, traits_fated]
  simp [linksAt, linksFrom, might, fate, fateEffects, Trait.new, indexOf?_fated]

theorem traits_noted_fated :
    fated.noted.traits = #[{ might with effectedBy := #[⟨1, 0⟩, ⟨1, 1⟩, ⟨1, 2⟩] },
      { fate with effectedBy := #[⟨1, 3⟩, ⟨1, 4⟩] }] := by
  rw [noted, allLinks_fated]
  simp [link, traits_fated, resolved, might, fate, Trait.new]

theorem effect?_fated (k : Nat) : fated.noted.effect? ⟨1, k⟩ = fateEffects[k]? := by
  rw [effect?, trait?, traits_noted_fated]
  simp [fate]

/-- Nothing rests on anything: the formulas of both traits mention no names. -/
theorem graph_fated (relation : Relation) : fated.noted.graph relation = #[[], []] := by
  cases relation with
  | inheritance =>
    simp [graph, inheritanceGraph, traits_noted_fated, might, fate, Trait.new, Trait.parentIndex?]
  | functions =>
    simp [graph, functionGraph, traits_noted_fated, might, fate, Trait.new, placesIn,
      Formula.mentions]
  | evaluation =>
    simp [graph, evaluationGraph, traits_noted_fated, might, fate, Trait.new, levelFormulas,
      baseFormula?, placesIn, Formula.mentions, effect?_fated, fateEffects]

/-- The formulas of both traits have their sorts, and all effects have their targets. -/
theorem passes_fated {i : Nat} {t : Trait} (ht : fated.trait? i = some t) : fated.Passes t := by
  have hmem : t = might ∨ t = fate := by
    have hmem : t ∈ #[might, fate] := Array.mem_of_getElem? ht
    simpa using hmem
  have hown {t : Trait} {f : Formula} (hf : t.ownFormula? = some f)
      (hcheck : Scope.check ⟨fated, t⟩ .integer f = .ok ()) (g : Formula)
      (hg : t.ownFormula? = some g) : Scope.check ⟨fated, t⟩ .integer g = .ok () :=
    Option.some.inj (hf.symm.trans hg) ▸ hcheck
  rcases hmem with rfl | rfl
  · exact ⟨hown rfl rfl, fun _ heffect ↦ by simp [might, Trait.new] at heffect⟩
  · refine ⟨hown rfl rfl, fun effect heffect ↦ ?_⟩
    have hmight : fated.indexOf? "Might" = some 0 := by
      rw [indexOf?_fated, if_neg (by decide), if_pos (by decide)]
    have hfate : fated.indexOf? "Fate" = some 1 := by rw [indexOf?_fated, if_pos (by decide)]
    have hmem : effect ∈ fateEffects := List.mem_toArray.1 heffect
    simp only [fateEffects, List.mem_cons, List.not_mem_nil, or_false] at hmem
    rcases hmem with rfl | rfl | rfl | rfl | rfl
    · exact ⟨0, hmight, ⟨might, rfl, rfl⟩, rfl⟩
    · exact ⟨0, hmight, ⟨might, rfl, rfl⟩, rfl⟩
    · exact ⟨0, hmight, ⟨might, rfl, rfl⟩, rfl⟩
    · exact ⟨1, hfate, ⟨fate, rfl, rfl⟩, rfl⟩
    · exact ⟨1, hfate, ⟨fate, rfl, rfl⟩, rfl⟩

/-- A database with several effects on one trait can be loaded. -/
theorem load_fated : load [fateSource] ⟨[], false⟩ = .ok fated.noted := by
  have hanalyzed : fated.analyze = .ok fated.noted := by
    refine analyze_eq_ok_iff.2 ⟨rfl, fun _ _ ↦ passes_fated, fun i t ht ↦ ?_, fun relation ↦ ?_, ?_⟩
    · -- no trait inherits
      intro _ _ _ _ hkind
      have hmem : t ∈ #[might, fate] := Array.mem_of_getElem? ht
      rcases (by simpa using hmem : t = might ∨ t = fate) with rfl | rfl <;> cases hkind
    · rw [checkCycles, graph_fated]
      exact Except.mapError_eq_ok_iff.2 (by decide)
    · rw [checkSpecialties, traits_noted_fated]
      rfl
  exact load_eq_ok_iff.2 ⟨by decide, fated, addSources_fated, rfl, hanalyzed, rfl⟩

end Database
end PointBuy
