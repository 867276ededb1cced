import PointBuy.Proofs.Database.Extension
import PointBuy.Proofs.Database.Inheritance
import PointBuy.Proofs.Database.Sorting
import PointBuy.Proofs.Graph.Completeness
import PointBuy.Proofs.Sheet.Reading

/-!
# Well-formed databases

Which databases an analysis accepts is said here without any of its stages, of the traits as they
are written (`Database.WellFormed`). In the analysis, each stage looks at what the stages before it
have noted: the evaluation graph is built from the effects that are noted at traits and from the
ends of chains of noted parents. In `WellFormed` there are only names, formulas, and relations
between places that are read off them.

The two meet graph by graph. The graph of inheritance is `InheritsFrom` whatever the traits are; the
graph of evaluation is `ReadsLevel` only where all chains of inheritance end, and that of functions
is a part of it. As the depth of a search never matters for databases that are small enough, each
search then says whether a relation has a cycle.

## Main definitions

* `Database.Bare` : a database as the traits of its sources were registered.
* `Database.WellFormed` : what a database has to satisfy.
* `Database.CompletedBy` : what an analysis adds to a database.

## Main statement

* `Database.analyze_accepts` : an analysis accepts exactly the well-formed databases.
-/

namespace PointBuy

/-- The name of the skill that a skill inherits from. -/
def Trait.parentName? (t : Trait) : Option String :=
  match t.kind with
  | .inheritedSkill parent _ _ _ => some parent
  | .skill .. | .leveledAdvantage _ | .plainAdvantage _ | .attribute _ => none

namespace Database

variable {db db' : Database} {t t' : Trait} {f : Formula} {i j root : Nat} {parent : String}

/-! ### What a database has to satisfy -/

/-- A database at whose traits nothing has been noted yet, and each of them is found under its own
name. -/
structure Bare (db : Database) : Prop where
  indexed : db.Indexed
  effectedBy_eq : ∀ {i t}, db.trait? i = some t → t.effectedBy = #[]
  parentIndex?_eq : ∀ {i t}, db.trait? i = some t → t.parentIndex? = none

/-- The traits of all sources make a bare database. -/
theorem bare_of_addSources {sources : List Source} (h : empty.addSources sources = .ok db) :
    db.Bare where
  indexed := (registered_of_addSources h).indexed
  effectedBy_eq ht := ((registered_of_addSources h).fresh _ _ ht).effectedBy_eq
  parentIndex?_eq ht := ((registered_of_addSources h).fresh _ _ ht).parentIndex?_eq

/-- `db.InheritsFrom i j` : the skill at the place `i` names the trait at the place `j` as its
parent. -/
def InheritsFrom (db : Database) (i j : Nat) : Prop :=
  ∃ t parent, db.trait? i = some t ∧ t.parentName? = some parent ∧ db.indexOf? parent = some j

/-- The formulas that the level of the trait at a place is computed from. -/
inductive LevelFormula (db : Database) (i : Nat) : Formula → Prop
  /-- The formula of an attribute. -/
  | function {t : Trait} {f : Formula} (found : db.trait? i = some t)
      (kind : t.kind = .attribute f) : LevelFormula db i f
  /-- The base of the skill that a chain of inheritance leads to. -/
  | base {root : Nat} {t : Trait} {difficulty : Difficulty} {f : Formula} {category : Bool}
      (chain : Relation.ReflTransGen db.InheritsFrom i root) (found : db.trait? root = some t)
      (kind : t.kind = .skill difficulty f category) : LevelFormula db i f
  /-- The formula of an effect on the level. -/
  | change {ref : EffectRef} {effect : Effect} (found : db.effect? ref = some effect)
      (target : db.indexOf? effect.target = some i) (kind : effect.kind = .level) :
      LevelFormula db i effect.formula

/-- `db.ReadsLevel i j` : the level of the trait at the place `i` is computed from what the trait at
the place `j` stands for. -/
def ReadsLevel (db : Database) (i j : Nat) : Prop := ∃ f, db.LevelFormula i f ∧ j ∈ db.placesIn f

/-- An effect of a trait is on a trait that there is, of a kind that has what the effect changes, by
a formula of its sort. -/
structure WellFormedEffect (db : Database) (owner : Trait) (effect : Effect) (target : Trait) :
    Prop where
  found : db.find? effect.target = some target
  level : effect.kind = .level → ∀ cost, target.kind ≠ .plainAdvantage cost
  cost : ∀ sign, effect.kind = .cost sign → ∀ formula, target.kind ≠ .attribute formula
  sorted : Scope.Sorted ⟨db, owner⟩ (sortOf effect.kind) effect.formula

/-- **What a database has to satisfy**, said of its traits as they are written. -/
structure WellFormed (db : Database) : Prop where
  /-- The base, the function or the cost of a trait is an integer. -/
  own : ∀ {i t f}, db.trait? i = some t → t.ownFormula? = some f → Scope.Sorted ⟨db, t⟩ .integer f
  effect : ∀ {i t effect}, db.trait? i = some t → effect ∈ t.effects →
    ∃ target, db.WellFormedEffect t effect target
  /-- A skill that inherits names a skill. -/
  parent : ∀ {i t parent}, db.trait? i = some t → t.parentName? = some parent →
    ∃ skill, db.find? parent = some skill ∧ skill.isSkill = true
  inheritance : ∀ i, ¬ Relation.TransGen db.InheritsFrom i i
  levels : ∀ i, ¬ Relation.TransGen db.ReadsLevel i i
  /-- A category is no specialty of a skill that is none. -/
  category : ∀ {i j}, db.InheritsFrom i j → db.isCategory i = true → db.isCategory j = true
  /-- Only specialties of categories have specialties. -/
  specialty : ∀ {i j k}, db.InheritsFrom i j → db.InheritsFrom j k → db.isCategory i = false →
    db.isCategory k = true

/-! ### Formulas and effects -/

theorem objection?_eq_none_iff {kind : EffectKind} :
    objection? t kind = none ↔ (kind = .level → ∀ cost, t.kind ≠ .plainAdvantage cost) ∧
      ∀ sign, kind = .cost sign → ∀ formula, t.kind ≠ .attribute formula := by
  cases kind <;> cases hkind : t.kind <;>
    simp [objection?, Trait.hasLevel, Trait.hasCost, hkind]

theorem exists_admitted_iff {effect : Effect} :
    (∃ place, db.Admitted t effect place) ↔ ∃ target, db.WellFormedEffect t effect target := by
  constructor
  · rintro ⟨place, hplace, ⟨target, htarget, hobjection⟩, hsorted⟩
    obtain ⟨hlevel, hcost⟩ := objection?_eq_none_iff.1 hobjection
    refine ⟨target, ?_, hlevel, hcost, Scope.sorted_of_check hsorted⟩
    rw [find?, hplace, Option.bind_some, htarget]
  · rintro ⟨target, hfound, hlevel, hcost, hsorted⟩
    obtain ⟨place, hplace, htarget⟩ := Option.bind_eq_some_iff.1 hfound
    have hobjection : objection? target effect.kind = none :=
      objection?_eq_none_iff.2 ⟨hlevel, hcost⟩
    exact ⟨place, hplace, ⟨target, htarget, hobjection⟩, Scope.check_of_sorted hsorted⟩

/-- What the checks of formulas ask of a trait, by the rules for sorts. -/
theorem passes_iff :
    db.Passes t ↔ (∀ f, t.ownFormula? = some f → Scope.Sorted ⟨db, t⟩ .integer f) ∧
      ∀ effect ∈ t.effects, ∃ target, db.WellFormedEffect t effect target := by
  simp only [← Scope.check_eq_ok_iff, ← exists_admitted_iff]
  exact ⟨fun ⟨hown, heffects⟩ ↦ ⟨hown, heffects⟩, fun ⟨hown, heffects⟩ ↦ ⟨hown, heffects⟩⟩

/-! ### Inheritance -/

theorem parentName?_eq_some_iff :
    t.parentName? = some parent ↔
      ∃ place difficulty category, t.kind = .inheritedSkill parent place difficulty category := by
  rw [Trait.parentName?]
  cases t.kind <;> simp

theorem inherits_iff :
    db.Inherits t ↔ ∀ parent, t.parentName? = some parent →
      ∃ skill, db.find? parent = some skill ∧ skill.isSkill = true := by
  constructor
  · intro h parent hparent
    obtain ⟨place, difficulty, category, hkind⟩ := parentName?_eq_some_iff.1 hparent
    exact h parent place difficulty category hkind
  · intro h parent place difficulty category hkind
    exact h parent (parentName?_eq_some_iff.2 ⟨place, difficulty, category, hkind⟩)

theorem parentIndex?_resolved : (db.resolved t).parentIndex? = t.parentName?.bind db.indexOf? := by
  rw [resolved, Trait.parentName?]
  cases hkind : t.kind <;> simp [Trait.parentIndex?, hkind]

/-- The noted parents are those that are named. -/
theorem parentOf?_noted : db.noted.parentOf? i = some j ↔ db.InheritsFrom i j := by
  rw [parentOf?, trait?_noted, Option.bind_map, Option.bind_eq_some_iff]
  constructor
  · rintro ⟨t, ht, hparent⟩
    obtain ⟨parent, hname, hplace⟩ :=
      Option.bind_eq_some_iff.1 (parentIndex?_resolved.symm.trans hparent)
    exact ⟨t, parent, ht, hname, hplace⟩
  · rintro ⟨t, parent, ht, hname, hplace⟩
    refine ⟨t, ht, parentIndex?_resolved.trans ?_⟩
    rw [hname, Option.bind_some, hplace]

theorem points_inheritanceGraph_noted :
    db.noted.inheritanceGraph.Points = db.InheritsFrom := by
  funext i j
  exact propext (points_inheritanceGraph.trans parentOf?_noted)

/-- The end of a chain that is short enough is found. -/
theorem rootWithin_of_isChain {steps : Nat} {path : List Nat}
    (hpath : (i :: path).IsChain db.inheritanceGraph.Points) (hlength : path.length < steps)
    (hlast : (i :: path).getLast? = some root) (hroot : db.parentOf? root = none) :
    db.rootWithin steps i = some root := by
  induction path generalizing i steps with
  | nil =>
    obtain rfl : i = root := Option.some.inj hlast
    obtain ⟨steps, rfl⟩ := Nat.exists_eq_add_one_of_ne_zero (Nat.ne_of_gt hlength)
    rw [rootWithin, hroot]
  | cons j path ih =>
    obtain ⟨hpoints, hpath⟩ := List.isChain_cons_cons.1 hpath
    obtain ⟨steps, rfl⟩ := Nat.exists_eq_add_one_of_ne_zero (Nat.ne_zero_of_lt hlength)
    rw [rootWithin, points_inheritanceGraph.1 hpoints]
    rw [List.getLast?_cons_cons] at hlast
    exact ih hpath (Nat.lt_of_succ_lt_succ hlength) hlast

/-- A chain leads to its end. -/
theorem reflTransGen_of_rootWithin {steps : Nat} (h : db.noted.rootWithin steps i = some root) :
    Relation.ReflTransGen db.InheritsFrom i root := by
  induction steps generalizing i with
  | zero => cases h
  | succ steps ih =>
    rw [rootWithin] at h
    cases hparent : db.noted.parentOf? i with
    | none =>
      rw [hparent] at h
      exact Option.some.inj h ▸ .refl
    | some j =>
      rw [hparent] at h
      exact .head (parentOf?_noted.1 hparent) (ih h)

/-- **Where no chain is a cycle, the end of each is found.** -/
theorem inheritanceRoot?_noted (h : db.Bare)
    (hacyclic : ∀ i, ¬ Relation.TransGen db.InheritsFrom i i) (hi : i < db.size)
    (hchain : Relation.ReflTransGen db.InheritsFrom i root)
    (hroot : db.noted.parentOf? root = none) : db.noted.inheritanceRoot? i = some root := by
  obtain ⟨path, hpath, hlast⟩ := List.exists_isChain_cons_of_relationReflTransGen hchain
  rw [← points_inheritanceGraph_noted] at hpath
  have hgraph : db.noted.inheritanceGraph.Acyclic := by
    rwa [Graph.Acyclic, points_inheritanceGraph_noted]
  have hlength : (i :: path).length ≤ db.noted.size := by
    refine length_le_size_of_acyclic hgraph (fun hparent ↦ ?_) (db.size_noted ▸ hi) hpath
    obtain ⟨_, _, -, -, hplace⟩ := parentOf?_noted.1 hparent
    exact db.size_noted ▸ h.indexed.lt_size hplace
  refine rootWithin_of_isChain hpath ?_ ?_ hroot
  · rw [List.length_cons] at hlength
    omega
  · rw [List.getLast?_eq_some_getLast (List.cons_ne_nil i path), hlast]

/-! ### Kinds of traits that something is noted at -/

/-- A trait that something is noted at was written. -/
theorem exists_of_trait?_noted (ht' : db.noted.trait? i = some t') :
    ∃ t, db.trait? i = some t ∧ t'.kind = (db.resolved t).kind := by
  rw [trait?_noted] at ht'
  obtain ⟨t, ht, rfl⟩ := Option.map_eq_some_iff.1 ht'
  exact ⟨t, ht, rfl⟩

/-- Something is noted at each trait. -/
theorem exists_trait?_noted (ht : db.trait? i = some t) :
    ∃ t', db.noted.trait? i = some t' ∧ t'.kind = (db.resolved t).kind := by
  rw [trait?_noted, ht]
  exact ⟨_, rfl, rfl⟩

theorem kind_resolved_eq_attribute_iff :
    (db.resolved t).kind = .attribute f ↔ t.kind = .attribute f := by
  rw [resolved]
  cases hkind : t.kind <;> simp [hkind]

theorem kind_resolved_eq_skill_iff {difficulty : Difficulty} {category : Bool} :
    (db.resolved t).kind = .skill difficulty f category ↔
      t.kind = .skill difficulty f category := by
  rw [resolved]
  cases hkind : t.kind <;> simp [hkind]

theorem isSkill_of_kind_eq (hkind : t'.kind = (db.resolved t).kind) : t'.isSkill = t.isSkill := by
  have hresolved : (db.resolved t).isSkill = t.isSkill := by
    rw [resolved]
    cases hkind : t.kind <;> simp [Trait.isSkill, hkind]
  rw [← hresolved, Trait.isSkill, Trait.isSkill, hkind]

theorem isCategory_noted (db : Database) (i : Nat) : db.noted.isCategory i = db.isCategory i := by
  have hresolved (t : Trait) : (db.resolved t).isCategory = t.isCategory := by
    rw [resolved]
    cases hkind : t.kind <;> simp [Trait.isCategory, hkind]
  rw [isCategory, isCategory, trait?_noted]
  cases db.trait? i with
  | none => rfl
  | some t => exact hresolved t

/-! ### What levels read -/

/-- The ends of chains of inheritance are skills. -/
theorem isSkill_of_reflTransGen (hinherits : ∀ i t, db.trait? i = some t → db.Inherits t)
    (hchain : Relation.ReflTransGen db.InheritsFrom i root) (ht : db.trait? i = some t)
    (hskill : t.isSkill = true) : ∃ u, db.trait? root = some u ∧ u.isSkill = true := by
  rcases Relation.ReflTransGen.cases_tail hchain with rfl | ⟨j, -, u, parent, hu, hname, hplace⟩
  · exact ⟨t, ht, hskill⟩
  · obtain ⟨skill, hfound, hisSkill⟩ := inherits_iff.1 (hinherits j u hu) parent hname
    rw [find?, hplace] at hfound
    exact ⟨skill, hfound, hisSkill⟩

theorem exists_kind_of_ownFormula? (hskill : t.isSkill = true) (hf : t.ownFormula? = some f) :
    ∃ difficulty category, t.kind = .skill difficulty f category := by
  rw [Trait.isSkill] at hskill
  rw [Trait.ownFormula?] at hf
  cases hkind : t.kind with
  | skill difficulty base category =>
    rw [hkind] at hf
    exact ⟨difficulty, category, by rw [Option.some.inj hf]⟩
  | inheritedSkill =>
    rw [hkind] at hf
    cases hf
  | leveledAdvantage | plainAdvantage | «attribute» =>
    rw [hkind] at hskill
    cases hskill

/-- The formula at the end of a chain of inheritance is the base of a skill. -/
theorem levelFormula_of_root (hinherits : ∀ i t, db.trait? i = some t → db.Inherits t)
    (ht : db.trait? i = some t) (hskill : t.isSkill = true)
    (hroot : db.noted.inheritanceRoot? i = some root) (ht' : db.noted.trait? root = some t')
    (hf : t'.ownFormula? = some f) : db.LevelFormula i f := by
  have hchain := reflTransGen_of_rootWithin hroot
  obtain ⟨u, hu, hkind'⟩ := exists_of_trait?_noted ht'
  obtain ⟨_, hu', hrootSkill⟩ := isSkill_of_reflTransGen hinherits hchain ht hskill
  obtain rfl := Option.some.inj (hu.symm.trans hu')
  obtain ⟨difficulty, category, hkind⟩ :=
    exists_kind_of_ownFormula? ((isSkill_of_kind_eq hkind').trans hrootSkill) hf
  exact .base hchain hu (kind_resolved_eq_skill_iff.1 (hkind'.symm.trans hkind))

/-- The formula that a level starts from is one that it is computed from. -/
theorem levelFormula_of_baseFormula? (hinherits : ∀ i t, db.trait? i = some t → db.Inherits t)
    (ht' : db.noted.trait? i = some t') (hf : db.noted.baseFormula? i t' = some f) :
    db.LevelFormula i f := by
  obtain ⟨t, ht, hkind'⟩ := exists_of_trait?_noted ht'
  rw [baseFormula?] at hf
  cases hkind : t'.kind with
  | «attribute» formula =>
    rw [hkind] at hf
    obtain rfl := Option.some.inj hf
    exact .function ht (kind_resolved_eq_attribute_iff.1 (hkind'.symm.trans hkind))
  | skill | inheritedSkill =>
    rw [hkind] at hf
    obtain ⟨root, hroot, hf⟩ := Option.bind_eq_some_iff.1 hf
    obtain ⟨u', hu', hf⟩ := Option.bind_eq_some_iff.1 hf
    have hskill : t'.isSkill = true := by rw [Trait.isSkill, hkind]
    exact levelFormula_of_root hinherits ht (isSkill_of_kind_eq hkind' ▸ hskill) hroot hu' hf
  | leveledAdvantage | plainAdvantage =>
    rw [hkind] at hf
    cases hf

/-- Where all chains of inheritance end, a level starts from the base of the skill at the end. -/
theorem baseFormula?_noted (h : db.Bare) (hacyclic : ∀ i, ¬ Relation.TransGen db.InheritsFrom i i)
    (hchain : Relation.ReflTransGen db.InheritsFrom i root) {u : Trait}
    (hu : db.trait? root = some u) {difficulty : Difficulty} {category : Bool}
    (hkind : u.kind = .skill difficulty f category) :
    ∃ t', db.noted.trait? i = some t' ∧ db.noted.baseFormula? i t' = some f := by
  have hroot : db.noted.parentOf? root = none := by
    refine Option.eq_none_iff_forall_ne_some.2 fun j hparent ↦ ?_
    obtain ⟨_, parent, hu', hname, -⟩ := parentOf?_noted.1 hparent
    obtain rfl := Option.some.inj (hu.symm.trans hu')
    rw [Trait.parentName?, hkind] at hname
    cases hname
  obtain ⟨t, ht, hskill⟩ : ∃ t, db.trait? i = some t ∧ t.isSkill = true := by
    rcases Relation.ReflTransGen.cases_head hchain with rfl | ⟨_, ⟨t, parent, ht, hname, -⟩, -⟩
    · exact ⟨u, hu, by rw [Trait.isSkill, hkind]⟩
    · obtain ⟨_, _, _, hkind⟩ := parentName?_eq_some_iff.1 hname
      exact ⟨t, ht, by rw [Trait.isSkill, hkind]⟩
  obtain ⟨t', ht', hkind'⟩ := exists_trait?_noted ht
  obtain ⟨u', hu', hkindRoot⟩ := exists_trait?_noted hu
  have hend : ((db.noted.inheritanceRoot? i).bind db.noted.trait?).map Trait.kind =
      some (.skill difficulty f category) := by
    rw [inheritanceRoot?_noted h hacyclic (lt_size_of_trait? ht) hchain hroot, Option.bind_some,
      hu', Option.map_some, hkindRoot, kind_resolved_eq_skill_iff.2 hkind]
  exact ⟨t', ht', Sheet.baseFormula?_of_root ((isSkill_of_kind_eq hkind').trans hskill) hend⟩

theorem effectedBy_noted (h : db.Bare) (ht' : db.noted.trait? i = some t') :
    t'.effectedBy = (refsTo db.allLinks i).toArray := by
  rw [trait?_noted] at ht'
  obtain ⟨t, ht, rfl⟩ := Option.map_eq_some_iff.1 ht'
  dsimp only
  rw [h.effectedBy_eq ht, Array.empty_append]

/-- The effects that are noted at a trait are those on it. -/
theorem mem_effectedBy_noted (h : db.Bare) (ht' : db.noted.trait? i = some t') {ref : EffectRef} :
    ref ∈ t'.effectedBy ↔ db.Targets ref i := by
  rw [effectedBy_noted h ht', List.mem_toArray, mem_refsTo, mem_allLinks]

theorem effect?_noted (ref : EffectRef) : db.noted.effect? ref = db.effect? ref :=
  (db.writtenAlike_noted.effect?_eq ref).symm

/-- **The evaluation graph is what levels read**, where all chains of inheritance end in skills. -/
theorem points_evaluationGraph_noted (h : db.Bare)
    (hinherits : ∀ i t, db.trait? i = some t → db.Inherits t)
    (hacyclic : ∀ i, ¬ Relation.TransGen db.InheritsFrom i i) :
    db.noted.evaluationGraph.Points = db.ReadsLevel := by
  funext i j
  refine propext (mem_evaluationGraph.trans ⟨?_, ?_⟩)
  · rintro ⟨t', ht', f, hf, hplace⟩
    refine ⟨f, ?_, hplace⟩
    rcases mem_levelFormulas_iff.1 hf with hbase | ⟨ref, href, effect, heffect, hkind, rfl⟩
    · exact levelFormula_of_baseFormula? hinherits ht' hbase
    · obtain ⟨effect', heffect', htarget⟩ := (mem_effectedBy_noted h ht').1 href
      obtain rfl := Option.some.inj (heffect'.symm.trans (effect?_noted ref ▸ heffect))
      exact .change heffect' htarget hkind
  · rintro ⟨f, hf, hplace⟩
    cases hf with
    | @function t _ found kind =>
      obtain ⟨t', ht', hkind'⟩ := exists_trait?_noted found
      refine ⟨t', ht', f, mem_levelFormulas_iff.2 (.inl ?_), hplace⟩
      rw [baseFormula?, hkind', kind_resolved_eq_attribute_iff.2 kind]
    | base chain found kind =>
      obtain ⟨t', ht', hbase⟩ := baseFormula?_noted h hacyclic chain found kind
      exact ⟨t', ht', f, mem_levelFormulas_iff.2 (.inl hbase), hplace⟩
    | @change ref effect found target kind =>
      obtain ⟨t, ht, -⟩ := h.indexed.exists_trait target
      obtain ⟨t', ht', -⟩ := exists_trait?_noted ht
      have href : ref ∈ t'.effectedBy := (mem_effectedBy_noted h ht').2 ⟨effect, found, target⟩
      refine ⟨t', ht', _, mem_levelFormulas_iff.2 (.inr ?_), hplace⟩
      exact ⟨ref, href, effect, (effect?_noted ref).trans found, kind, rfl⟩

/-- Attributes that are computed from one another read one another's levels. -/
theorem readsLevel_of_points_functionGraph (hpoints : db.noted.functionGraph.Points i j) :
    db.ReadsLevel i j := by
  rw [Graph.Points, Graph.pointedTo, functionGraph, Array.getElem?_map] at hpoints
  cases ht' : db.noted.traits[i]? with
  | none =>
    rw [ht'] at hpoints
    cases hpoints
  | some t' =>
    rw [ht', Option.map_some, Option.getD_some] at hpoints
    obtain ⟨t, ht, hkind'⟩ := exists_of_trait?_noted ht'
    cases hkind : t'.kind with
    | «attribute» f =>
      rw [hkind] at hpoints
      have hplace := (List.mem_filter.1 (List.mem_eraseDups.1 hpoints)).1
      exact ⟨f, .function ht (kind_resolved_eq_attribute_iff.1 (hkind'.symm.trans hkind)), hplace⟩
    | skill | inheritedSkill | leveledAdvantage | plainAdvantage =>
      rw [hkind] at hpoints
      cases hpoints

/-! ### Searches and specialties -/

theorem size_graph (relation : Relation) : Array.size (db.graph relation) = db.size := by
  cases relation with
  | inheritance => exact size_inheritanceGraph
  | functions => exact Array.size_map
  | evaluation => exact size_evaluationGraph

/-- A search of a database that is small enough finds exactly the cycles. -/
theorem checkCycles_eq_ok_iff (hsize : db.size ≤ Limits.dependencyDepth + 1) {relation : Relation} :
    db.checkCycles relation = .ok () ↔ (db.graph relation).Acyclic := by
  rw [checkCycles, Except.mapError_eq_ok_iff]
  exact Graph.search_eq_ok_iff (size_graph relation ▸ hsize)

theorem misplacement?_eq_none_iff :
    db.misplacement? t = none ↔ ∀ parent, t.parentIndex? = some parent →
      (t.isCategory = true → db.isCategory parent = true) ∧
      (t.isCategory = false → ∀ grandparent, db.parentOf? parent = some grandparent →
        db.isCategory grandparent = true) := by
  rw [misplacement?]
  cases t.parentIndex? with
  | none => simp
  | some parent =>
    cases t.isCategory <;> cases db.parentOf? parent <;> simp

theorem checkSpecialties_eq_ok_iff :
    db.checkSpecialties = .ok () ↔ ∀ i t, db.trait? i = some t → db.misplacement? t = none := by
  rw [checkSpecialties, Except.forM_eq_ok_iff, ← forall_mem_traits]
  refine forall₂_congr fun t _ ↦ ?_
  cases db.misplacement? t <;> simp

/-- The rules for specialties, by the parents that are named. -/
theorem checkSpecialties_noted_eq_ok_iff :
    db.noted.checkSpecialties = .ok () ↔
      (∀ i j, db.InheritsFrom i j → db.isCategory i = true → db.isCategory j = true) ∧
      ∀ i j k, db.InheritsFrom i j → db.InheritsFrom j k → db.isCategory i = false →
        db.isCategory k = true := by
  have hcategory {i : Nat} {t' : Trait} (ht' : db.noted.trait? i = some t') :
      t'.isCategory = db.isCategory i := by
    rw [← isCategory_noted, isCategory, ht', Option.any_some]
  have hparent {i j : Nat} {t' : Trait} (ht' : db.noted.trait? i = some t') :
      t'.parentIndex? = some j ↔ db.InheritsFrom i j := by
    rw [← parentOf?_noted, parentOf?, ht', Option.bind_some]
  rw [checkSpecialties_eq_ok_iff]
  simp only [misplacement?_eq_none_iff, isCategory_noted, parentOf?_noted]
  constructor
  · intro h
    have hrules {i j : Nat} (hinherits : db.InheritsFrom i j) :
        (db.isCategory i = true → db.isCategory j = true) ∧
          (db.isCategory i = false → ∀ k, db.InheritsFrom j k → db.isCategory k = true) := by
      obtain ⟨t, _, ht, -, -⟩ := id hinherits
      obtain ⟨t', ht', -⟩ := exists_trait?_noted ht
      exact hcategory ht' ▸ h i t' ht' j ((hparent ht').2 hinherits)
    exact ⟨fun i j hinherits ↦ (hrules hinherits).1,
      fun i j k hinherits hinherits' hnone ↦ (hrules hinherits).2 hnone k hinherits'⟩
  · rintro ⟨hcategories, hspecialties⟩ i t' ht' j hplace
    have hinherits := (hparent ht').1 hplace
    rw [hcategory ht']
    exact ⟨hcategories i j hinherits, fun hnone k hinherits' ↦
      hspecialties i j k hinherits hinherits' hnone⟩

/-! ### The whole analysis -/

/-- **A database is well-formed exactly where no stage of an analysis objects.** -/
theorem wellFormed_iff (h : db.Bare) (hsize : db.size ≤ Limits.dependencyDepth + 1) :
    db.WellFormed ↔ (∀ i t, db.trait? i = some t → db.Passes t) ∧
      (∀ i t, db.trait? i = some t → db.Inherits t) ∧
      (∀ relation, db.noted.checkCycles relation = .ok ()) ∧
      db.noted.checkSpecialties = .ok () := by
  have hcycles (relation : Relation) :
      db.noted.checkCycles relation = .ok () ↔ (db.noted.graph relation).Acyclic :=
    checkCycles_eq_ok_iff (db.size_noted ▸ hsize)
  have hinheritance : (db.noted.graph .inheritance).Acyclic ↔
      ∀ i, ¬ Relation.TransGen db.InheritsFrom i i := by
    rw [Graph.Acyclic, graph, points_inheritanceGraph_noted]
  simp only [hcycles, checkSpecialties_noted_eq_ok_iff, passes_iff]
  constructor
  · rintro ⟨hown, heffect, hparent, hchains, hlevels, hcategories, hspecialties⟩
    have hinherits (i : Nat) (t : Trait) (ht : db.trait? i = some t) : db.Inherits t :=
      inherits_iff.2 fun _ ↦ hparent ht
    have hpoints := points_evaluationGraph_noted h hinherits hchains
    refine ⟨fun i t ht ↦ ⟨fun f ↦ hown ht, fun effect ↦ heffect ht⟩, hinherits, fun relation ↦ ?_,
      fun i j ↦ hcategories, fun i j k ↦ hspecialties⟩
    cases relation with
    | inheritance => exact hinheritance.2 hchains
    | functions =>
      have hle : db.noted.functionGraph.Points ≤ db.ReadsLevel :=
        fun _ _ ↦ readsLevel_of_points_functionGraph
      exact fun i hway ↦ hlevels i (Relation.TransGen.mono hle i i hway)
    | evaluation =>
      rw [Graph.Acyclic, graph, hpoints]
      exact hlevels
  · rintro ⟨hpasses, hinherits, hacyclic, hcategories, hspecialties⟩
    have hchains := hinheritance.1 (hacyclic .inheritance)
    have hpoints := points_evaluationGraph_noted h hinherits hchains
    have hlevels := hacyclic .evaluation
    rw [Graph.Acyclic, graph, hpoints] at hlevels
    exact ⟨fun ht ↦ (hpasses _ _ ht).1 _, fun ht ↦ (hpasses _ _ ht).2 _,
      fun ht ↦ inherits_iff.1 (hinherits _ _ ht) _, hchains, hlevels, hcategories _ _,
      hspecialties _ _ _⟩

/-- **What an analysis adds to a database**: at each trait the effects on it and the place of its
parent, and nothing else. -/
structure CompletedBy (db db' : Database) : Prop where
  index_eq : db'.index = db.index
  /-- The effects at a trait are exactly those on it. -/
  mem_effectedBy : ∀ {i t}, db'.trait? i = some t → ∀ ref, ref ∈ t.effectedBy ↔ db.Targets ref i
  /-- The effects at a trait are in the order they are written, and so each is there once. -/
  ordered : ∀ {i t}, db'.trait? i = some t → t.effectedBy.toList.Pairwise EffectRef.Before
  parent : ∀ {i t parent}, db'.trait? i = some t → t.parentName? = some parent →
    ∃ j u, t.parentIndex? = some j ∧ db'.trait? j = some u ∧ u.name = parent
  /-- Without what is noted at it, each trait is what it was. -/
  rest : ∀ i, db.trait? i =
    (db'.trait? i).map fun t ↦ { t with kind := t.kind.written, effectedBy := #[] }

/-- Without what is noted at a trait, it is what it was. -/
theorem resolved_rest (hby : t.effectedBy = #[]) (hparent : t.parentIndex? = none) :
    { db.resolved t with kind := (db.resolved t).kind.written, effectedBy := #[] } = t := by
  obtain ⟨name, shownAs, comment, location, format, kind, effects, effectedBy⟩ := t
  obtain rfl : effectedBy = #[] := hby
  cases kind with
  | inheritedSkill parent place difficulty category =>
    obtain rfl : place = none := hparent
    rfl
  | skill | leveledAdvantage | plainAdvantage | «attribute» => rfl

/-- What the analysis notes completes a database in which all parents are found. -/
theorem completedBy_noted (h : db.Bare)
    (hinherits : ∀ i t, db.trait? i = some t → db.Inherits t) : db.CompletedBy db.noted where
  index_eq := rfl
  mem_effectedBy ht' _ := mem_effectedBy_noted h ht'
  ordered ht' := by
    rw [effectedBy_noted h ht']
    exact pairwise_refsTo _
  parent {i t' parent} ht' hname := by
    rw [trait?_noted] at ht'
    obtain ⟨t, ht, rfl⟩ := Option.map_eq_some_iff.1 ht'
    have hparent : t.parentName? = some parent := by
      rw [← hname, Trait.parentName?, Trait.parentName?, resolved]
      cases hkind : t.kind <;> simp [hkind]
    obtain ⟨skill, hfound, -⟩ := inherits_iff.1 (hinherits i t ht) parent hparent
    obtain ⟨j, hplace, -⟩ := Option.bind_eq_some_iff.1 hfound
    obtain ⟨u, hu, hnamed⟩ := (db.writtenAlike_noted.indexed h.indexed).exists_trait hplace
    refine ⟨j, u, parentIndex?_resolved.trans ?_, hu, hnamed⟩
    rw [hparent, Option.bind_some, hplace]
  rest i := by
    rw [trait?_noted, Option.map_map]
    cases ht : db.trait? i with
    | none => rfl
    | some t => exact congrArg some (resolved_rest (h.effectedBy_eq ht) (h.parentIndex?_eq ht)).symm

/-- **An analysis accepts exactly the well-formed databases**, and completes them. -/
theorem analyze_accepts (h : db.Bare) (hsize : db.size ≤ Limits.dependencyDepth + 1) :
    ((∃ db', db.analyze = .ok db') ↔ db.WellFormed) ∧
      ∀ db', db.analyze = .ok db' → db.CompletedBy db' := by
  constructor
  · rw [wellFormed_iff h hsize]
    exact ⟨fun ⟨_, hdb'⟩ ↦ (analyze_eq_ok_iff.1 hdb').2,
      fun hwell ↦ ⟨db.noted, analyze_eq_ok_iff.2 ⟨rfl, hwell⟩⟩⟩
  · intro db' hdb'
    obtain ⟨rfl, -, hinherits, -⟩ := analyze_eq_ok_iff.1 hdb'
    exact completedBy_noted h hinherits

/-- An analysis accepts the small database with more sources, and notes at the attribute the one
effect on it. -/
theorem analyze_accepts_gifted :
    smallGifted.Bare ∧ smallGifted.size ≤ Limits.dependencyDepth + 1 ∧ smallGifted.WellFormed ∧
      smallGifted.CompletedBy smallGifted.noted ∧ smallGifted.Targets ⟨2, 0⟩ 0 := by
  have hsources : empty.addSources ([smallSource] ++ [giftedSource]) = .ok smallGifted := by
    rw [addSources_append, addSources_small, Except.ok_bind, addSources_gifted]
  have hbare : smallGifted.Bare := bare_of_addSources hsources
  have hsize : smallGifted.size ≤ Limits.dependencyDepth + 1 := by decide
  obtain ⟨hiff, hcompleted⟩ := analyze_accepts hbare hsize
  have hgifted := hcompleted smallGifted.noted analyze_gifted
  have hdx : smallGifted.noted.trait? 0 = some { dx with effectedBy := #[⟨2, 0⟩] } := by
    rw [trait?, traits_noted_gifted]
    rfl
  refine ⟨hbare, hsize, hiff.1 ⟨_, analyze_gifted⟩, hgifted, ?_⟩
  exact (hgifted.mem_effectedBy hdx ⟨2, 0⟩).1 (Array.mem_singleton.2 rfl)

end Database
end PointBuy
