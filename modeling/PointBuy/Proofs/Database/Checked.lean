import PointBuy.Proofs.Database.Linking
import PointBuy.Proofs.Graph.Search

/-!
# What holds of every loaded database

A database is loaded only if its analysis finds nothing wrong. This module collects what that means
(`Checked`): names are found, every formula has the sort that it is read as, every effect reaches
the trait it names and every trait knows just the effects on it, every skill inherits from a skill,
and no relation between traits runs in a circle. The later theory of levels and costs starts from
these facts and never looks at the loader again.

## Main definition

* `Database.Checked` : what an analysis guarantees.

## Main statements

* `Database.checked_of_load` : every loaded database is checked.
* `Database.load_small` : there are databases that can be loaded.
-/

namespace PointBuy.Database

/-! ### Checked databases -/

/-- **What an analysis guarantees** of the database that it returns. -/
structure Checked (db : Database) : Prop where
  /-- The index finds exactly the traits that are there. -/
  indexed : db.Indexed
  /-- The formula of a trait is an integer. -/
  own : ∀ {i t f}, db.trait? i = some t → t.ownFormula? = some f →
    Scope.check ⟨db, t⟩ .integer f = .ok ()
  /-- An effect has a target that it may change, and a formula of its sort. -/
  effect : ∀ {i t effect}, db.trait? i = some t → effect ∈ t.effects →
    ∃ target, db.Admitted t effect target
  /-- The effects that a trait refers to are effects on it. -/
  linked : ∀ {i t ref}, db.trait? i = some t → ref ∈ t.effectedBy →
    ∃ owner effect, db.trait? ref.owner = some owner ∧ db.effect? ref = some effect ∧
      db.Admitted owner effect i
  /-- A skill that inherits inherits from a skill. -/
  parent : ∀ {i t name place difficulty category}, db.trait? i = some t →
    t.kind = .inheritedSkill name place difficulty category →
    ∃ j parent, place = some j ∧ db.trait? j = some parent ∧ parent.isSkill = true
  /-- Only traits that one has or has not are shown as words. -/
  yesNo : ∀ {i t}, db.trait? i = some t → t.format = .yesNo → ∃ cost, t.kind = .plainAdvantage cost
  /-- No relation has a cycle. -/
  searched : ∀ relation : Relation, (db.graph relation).search Limits.dependencyDepth = .ok ()

theorem Admitted.of_writtenAlike {db db' : Database} {owner owner' : Trait} {effect : Effect}
    {target : Nat} (h : db.WrittenAlike db') (howner : owner.written = owner'.written)
    (hadmitted : db.Admitted owner effect target) : db'.Admitted owner' effect target where
  indexOf?_eq := h.indexOf?_eq effect.target ▸ hadmitted.indexOf?_eq
  targeted := by
    obtain ⟨t, ht, hobjection⟩ := hadmitted.targeted
    obtain ⟨t', ht', hwritten⟩ := h.exists_trait ht
    exact ⟨t', ht', by rw [← t'.objection?_written, ← hwritten, t.objection?_written, hobjection]⟩
  sorted := by rw [← h.check_eq howner, hadmitted.sorted]

/-- What the stages after registration make of a registered trait: the trait at the end is written
alike, and refers to the effects of the links to it. -/
structure Staged (registered : Database) (links : List EffectLink) (i : Nat) (t : Trait) :
    Prop where
  written : ∃ first, registered.trait? i = some first ∧ first.written = t.written
  effectedBy_eq : t.effectedBy = (refsTo links i).toArray
  parent : ∀ {name place difficulty category},
    t.kind = .inheritedSkill name place difficulty category →
      ∃ j parent, place = some j ∧ (registered.trait? j).map Trait.written = some parent ∧
        parent.isSkill = true
  yesNo : t.format = .yesNo → ∃ cost, t.kind = .plainAdvantage cost

section Noted

variable {registered : Database} {dress : Trait → Trait}

/-- Each trait at the end comes from a registered one. -/
theorem staged_of_noted (hregistered : registered.Registered)
    (hinherits : ∀ i t, registered.trait? i = some t → registered.Inherits t)
    (hdress : ∀ t, Redressed t (dress t)) {i : Nat} {t : Trait}
    (ht : (registered.noted.dressed dress).trait? i = some t) :
    registered.Staged registered.allLinks i t := by
  have hstripped (t : Trait) : (dress t).stripped = t.stripped := (hdress t).stripped_eq
  rw [trait?_dressed, trait?_noted, Option.map_map] at ht
  obtain ⟨first, hfirst, rfl⟩ := Option.map_eq_some_iff.1 ht
  rw [Function.comp_apply]
  have hfresh := hregistered.fresh i first hfirst
  refine ⟨⟨first, hfirst, ?_⟩, ?_, fun hkind ↦ ?_, fun hyesNo ↦ ?_⟩
  · rw [(hdress _).written_eq]
    exact written_resolved.symm
  · rw [effectedBy_dress hstripped, hfresh.effectedBy_eq]
    exact Array.empty_append
  · rw [kind_dress hstripped] at hkind
    obtain ⟨⟨_, hfirstKind⟩, hplace⟩ := kind_of_resolved hkind
    obtain ⟨parent, hfound, hskill⟩ := hinherits i first hfirst _ _ _ _ hfirstKind
    obtain ⟨j, hj, hparent⟩ := Option.bind_eq_some_iff.1 hfound
    refine ⟨j, parent.written, hplace.trans hj, ?_, by rw [Trait.isSkill_written, hskill]⟩
    rw [hparent, Option.map_some]
  · obtain ⟨shownAs, format, heq, hformat⟩ := hdress _
    rw [heq] at hyesNo
    rw [kind_dress hstripped]
    refine (hformat hyesNo).resolve_left fun hyesNo' ↦ ?_
    rw [format_resolved, hfresh.format_eq] at hyesNo'
    cases hyesNo'

/-- What an analysis notes at registered traits is checked, in whatever way they are shown. -/
theorem checked_of_noted (hregistered : registered.Registered)
    (hpasses : ∀ i t, registered.trait? i = some t → registered.Passes t)
    (hinherits : ∀ i t, registered.trait? i = some t → registered.Inherits t)
    (hsearched : ∀ relation : Relation,
      (registered.noted.graph relation).search Limits.dependencyDepth = .ok ())
    (hdress : ∀ t, Redressed t (dress t)) : (registered.noted.dressed dress).Checked := by
  have halike : registered.WrittenAlike (registered.noted.dressed dress) :=
    registered.writtenAlike_noted.trans (writtenAlike_dressed hdress)
  -- what was checked of registered traits holds of those at the end, as they are written alike
  have hstaged {i : Nat} {t : Trait} (ht : (registered.noted.dressed dress).trait? i = some t) :
      registered.Staged registered.allLinks i t := staged_of_noted hregistered hinherits hdress ht
  refine ⟨halike.indexed hregistered.indexed, fun ht hf ↦ ?_, fun ht heffect ↦ ?_,
    fun ht href ↦ ?_, fun ht hkind ↦ ?_, fun ht ↦ (hstaged ht).yesNo, fun relation ↦ ?_⟩
  · obtain ⟨first, hfirst, hwritten⟩ := (hstaged ht).written
    rw [← Trait.ownFormula?_written, ← hwritten, Trait.ownFormula?_written] at hf
    rw [← halike.check_eq hwritten]
    exact (hpasses _ first hfirst).own _ hf
  · obtain ⟨first, hfirst, hwritten⟩ := (hstaged ht).written
    rw [← Trait.effects_written, ← hwritten, Trait.effects_written] at heffect
    obtain ⟨target, hadmitted⟩ := (hpasses _ first hfirst).effects _ heffect
    exact ⟨target, hadmitted.of_writtenAlike halike hwritten⟩
  · rw [(hstaged ht).effectedBy_eq] at href
    obtain ⟨effect, heffect, htarget⟩ := mem_allLinks.1 (mem_refsTo.1 (List.mem_toArray.1 href))
    obtain ⟨first, hfirst, hmem⟩ := Option.bind_eq_some_iff.1 heffect
    obtain ⟨target, hadmitted⟩ := (hpasses _ first hfirst).effects effect
      (Array.mem_of_getElem? hmem)
    obtain rfl := Option.some.inj (hadmitted.indexOf?_eq.symm.trans htarget)
    obtain ⟨owner, howner, hwritten⟩ := halike.exists_trait hfirst
    exact ⟨owner, effect, howner, halike.effect?_eq _ ▸ heffect,
      hadmitted.of_writtenAlike halike hwritten⟩
  · obtain ⟨j, written, hj, hparent, hskill⟩ := (hstaged ht).parent hkind
    obtain ⟨parent, hplace, rfl⟩ := Option.map_eq_some_iff.1 (halike.trait?_eq j ▸ hparent)
    exact ⟨j, parent, hj, hplace, Trait.isSkill_written parent ▸ hskill⟩
  · rw [graph_dressed fun t ↦ (hdress t).stripped_eq]
    exact hsearched relation

end Noted

/-- **Every loaded database is checked.** -/
theorem checked_of_load {sources : List Source} {preferences : LoadPreferences} {db : Database}
    (h : load sources preferences = .ok db) : db.Checked := by
  obtain ⟨registered, hregistered, hanalyzed, rfl⟩ := exists_registered_of_load h
  obtain ⟨-, hpasses, hinherits, hcycles, -⟩ := analyze_eq_ok_iff.1 hanalyzed
  obtain ⟨dress, heq, hdress⟩ := present_eq_dressed registered.noted preferences
  rw [heq]
  exact checked_of_noted (registered_of_addSources hregistered) hpasses hinherits
    (fun relation ↦ Except.mapError_eq_ok_iff.1 (hcycles relation)) hdress

/-! ### A small database -/

/-- A source with an attribute, and a skill that starts from it. -/
def smallSource : Source := ⟨"small.txt", "DX = 10\nBrawling: DX E\n"⟩

/-- The attribute of that source. -/
def dx : Trait := .new "DX" (.attribute (.integer 10)) ⟨"small.txt", 1⟩

/-- The skill of that source. -/
def brawling : Trait := .new "Brawling" (.skill .easy (.trait "DX") false) ⟨"small.txt", 2⟩

/-- The database of that source. -/
def small : Database := (empty.push dx).push brawling

theorem parse_dx : Formula.parse "DX " = .ok (.trait "DX") := by
  have htail : Token.nameTail [' '] = ([], [' ']) := by
    rw [Token.nameTail]
    rfl
  have hread : Token.read 'D' ['X', ' '] = .ok (.identifier "DX", [' ']) := by
    have hword : ['D', 'X', ' '].dropWhile Token.isWordPart = [' '] := by decide
    rw [Token.read, if_neg (by decide), if_pos (by decide), Token.readWord, hword, htail]
    rfl
  have h : Token.readAll ['D', 'X', ' '] = .ok [.identifier "DX"] := by
    have hend : Token.readAll [' '] = .ok [] := by
      rw [Token.readAll]
      rfl
    rw [Token.readAll]
    split
    case h_1 heq => cases heq
    case h_2 heq =>
      cases heq
      split
      case h_1 heq =>
        rw [hread] at heq
        cases heq
      case h_2 heq =>
        rw [hread] at heq
        cases heq
        rw [hend]
        rfl
  have hlist : "DX ".toList = ['D', 'X', ' '] := by decide
  rw [Formula.parse, Formula.tokens, hlist, h]
  rfl

theorem traits_smallSource : smallSource.traits = .ok [dx, brawling] := by
  have hdeclarations : smallSource.declarations = .ok
      [⟨"DX", none, .function, "10", none, ⟨"small.txt", 1⟩, []⟩,
        ⟨"Brawling", none, .define, "DX E", none, ⟨"small.txt", 2⟩, []⟩] := by rfl
  have hattribute :
      Trait.ofDeclaration ⟨"DX", none, .function, "10", none, ⟨"small.txt", 1⟩, []⟩ = .ok dx := by
    decide +kernel
  have hskill :
      Trait.ofDeclaration ⟨"Brawling", none, .define, "DX E", none, ⟨"small.txt", 2⟩, []⟩ =
        .ok brawling := by
    have hsplit : Trait.splitDifficulty? "DX E" = some ("DX ", .easy) := by decide
    rw [Trait.ofDeclaration, Trait.outer]
    simp only [Trait.definedKind, hsplit, Trait.parseFormula, parse_dx]
    rfl
  rw [Source.traits, hdeclarations]
  simp only [Except.mapError_ok, Except.ok_bind, Trait.ofDeclarations, List.mapM_cons, hattribute,
    hskill]
  rfl

theorem indexOf?_small (name : String) :
    small.indexOf? name =
      if brawling.name = name then some 1 else if dx.name = name then some 0 else none := by
  rw [small, indexOf?_push, indexOf?_push]
  simp [empty, push, indexOf?, size]

theorem addSources_small : empty.addSources [smallSource] = .ok small := by
  have hnone : empty.indexOf? dx.name = none ∧ empty.indexOf? brawling.name = none := by
    simp [empty, indexOf?]
  have hdx : empty.refusal? dx = none := by
    rw [refusal?, find?, hnone.1]
    rfl
  have hbrawling : (empty.push dx).refusal? brawling = none := by
    rw [refusal?, find?, indexOf?_push, if_neg (by decide), hnone.2]
    rfl
  rw [addSources, addSource, traits_smallSource]
  simp only [registerAll, hdx, hbrawling]
  rfl

theorem traits_small : small.traits = #[dx, brawling] := rfl

theorem indexOf?_dx_small : small.indexOf? "DX" = some 0 := by
  rw [indexOf?_small, if_neg (by decide), if_pos (by decide)]

theorem effectLinks_small : small.effectLinks = .ok [] := by
  have hfind : small.find? "DX" = some dx := by
    rw [find?, indexOf?_dx_small]
    rfl
  have hcheck : Scope.check ⟨small, brawling⟩ .integer (.trait "DX") = .ok () := by
    rw [Scope.check, Scope.checkName, if_neg (by decide), hfind]
    rfl
  have hdx : small.checkTrait dx 0 = .ok [] := rfl
  have hbrawling : small.checkTrait brawling 1 = .ok [] := by
    rw [checkTrait, checkOwnFormula]
    simp only [brawling, Trait.new, Trait.ownFormula?, Scope.checkAt] at hcheck ⊢
    rw [hcheck]
    rfl
  rw [effectLinks, traits_small]
  simp only [List.zipIdx_cons, List.zipIdx_nil, List.mapM_cons, List.mapM_nil, hdx, hbrawling,
    Except.ok_bind]
  rfl

/-- Only the level of the skill rests on something, the attribute. -/
theorem graph_small (relation : Relation) :
    small.graph relation =
      match relation with
      | .inheritance | .functions => #[[], []]
      | .evaluation => #[[], [0]] := by
  cases relation with
  | inheritance =>
    simp [graph, inheritanceGraph, traits_small, dx, brawling, Trait.new, Trait.parentIndex?]
  | functions =>
    simp [graph, functionGraph, traits_small, dx, brawling, Trait.new, placesIn, Formula.mentions]
  | evaluation =>
    have hroot : small.inheritanceRoot? 1 = some 1 := by decide
    have htrait : small.trait? 1 = some brawling := rfl
    have hones : [0].eraseDups = [0] := by decide
    simp [graph, evaluationGraph, traits_small, dx, brawling, Trait.new, levelFormulas,
      baseFormula?, placesIn, Formula.mentions, hroot, htrait, Trait.ownFormula?,
      indexOf?_dx_small, hones]

theorem checkCycles_small (relation : Relation) : small.checkCycles relation = .ok () := by
  rw [checkCycles, graph_small]
  cases relation <;> decide

theorem analyze_small : small.analyze = .ok small := by
  have hparents : (small.link []).withParents = .ok small := rfl
  have hspecialties : small.checkSpecialties = .ok () := by decide
  rw [analyze, effectLinks_small, Except.ok_bind, hparents, Except.ok_bind, checkCycles_small,
    Except.ok_bind, checkCycles_small, Except.ok_bind, hspecialties, Except.ok_bind,
    checkCycles_small, Except.ok_bind]
  rfl

/-- A database that can be loaded. -/
theorem load_small : load [smallSource] ⟨[], false⟩ = .ok small := by
  rw [load, addSources_small]
  have hcount : checkSourceCount [smallSource] = .ok () := by decide
  have hnames : small.requireNames [] = .ok () := rfl
  rw [hcount, Except.ok_bind, Except.ok_bind, hnames, Except.ok_bind, analyze_small]
  rfl

end PointBuy.Database
