import PointBuy.Proofs.Database.Lineage

/-!
# More sources

Where more sources are read after some others, the traits of the first ones come first again, at the
same places and under the same names. All that an analysis notes at them it notes again, since the
names that they mention are found where they were. Only the list of effects on a trait may go on,
with effects of the new traits (`ExtendedBy`).

## Main definition

* `Database.ExtendedBy` : a database goes on with new traits.

## Main statement

* `Database.extendedBy_of_load` : more sources extend a database.
* `Database.ExtendedBy.difficulty?_eq` : the difficulties of its skills are what they were.
-/

namespace PointBuy.Database

variable {db db' : Database} {t t' : Trait} {i : Nat}

/-- **A database goes on with new traits.** The others are at their places and found under their
names, and are as they were, but for more effects on them, which are effects of the new traits. -/
structure ExtendedBy (db db' : Database) : Prop where
  indexOf?_eq : ∀ {name i}, db.indexOf? name = some i → db'.indexOf? name = some i
  trait?_eq : ∀ {i t}, db.trait? i = some t → ∃ more : List EffectRef,
    db'.trait? i = some { t with effectedBy := t.effectedBy ++ more.toArray } ∧
      ∀ ref ∈ more, db.size ≤ ref.owner

/-! ### Registration -/

theorem addSources_append {first more : List Source} :
    db.addSources (first ++ more) = db.addSources first >>= (·.addSources more) := by
  induction first generalizing db with
  | nil => rfl
  | cons source first ih =>
    rw [List.cons_append, addSources, addSources]
    split
    · exact ih
    · rfl

/-- What is registered stays at its place. -/
theorem exists_append_of_addSources {sources : List Source}
    (h : db.addSources sources = .ok db') : ∃ rest, db'.traits = db.traits ++ rest := by
  refine addSources_induction (P := fun d ↦ ∃ rest, d.traits = db.traits ++ rest)
    (fun {d t} hd _ _ ↦ ?_) ⟨#[], (Array.append_empty).symm⟩ h
  obtain ⟨rest, hrest⟩ := hd
  refine ⟨rest.push t, ?_⟩
  rw [push, hrest, Array.append_push]

section Registered

variable {registered registered' : Database} (h : registered.Registered)
  (h' : registered'.Registered) {rest : Array Trait}
  (hrest : registered'.traits = registered.traits ++ rest)

include hrest

theorem trait?_of_append (ht : registered.trait? i = some t) : registered'.trait? i = some t := by
  rw [trait?, hrest, Array.getElem?_append_left (lt_size_of_trait? ht)]
  exact ht

include h h'

theorem indexOf?_of_append {name : String} (hname : registered.indexOf? name = some i) :
    registered'.indexOf? name = some i := by
  obtain ⟨t, ht, hname⟩ := h.indexed.exists_trait hname
  exact (h'.indexed name i).2 ⟨t, trait?_of_append hrest ht, hname⟩

/-- The effects of a trait are linked as before, if all of them have been. -/
theorem linksAt_of_append (ht : registered.Passes t) (place : Nat) :
    registered'.linksAt (t, place) = registered.linksAt (t, place) := by
  refine List.filterMap_congr fun p hp ↦ ?_
  obtain ⟨target, hadmitted⟩ :=
    ht.effects p.1 (Array.mem_toList_iff.1 (List.fst_mem_of_mem_zipIdx hp))
  have hplace := hadmitted.indexOf?_eq
  dsimp only
  rw [hplace, indexOf?_of_append h h' hrest hplace]

/-- All links come first again, and the other ones are those of the new traits. -/
theorem allLinks_of_append (hpasses : ∀ i t, registered.trait? i = some t → registered.Passes t) :
    ∃ more, registered'.allLinks = registered.allLinks ++ more ∧
      ∀ l ∈ more, registered.size ≤ l.ref.owner := by
  refine ⟨(rest.toList.zipIdx registered.size).flatMap registered'.linksAt, ?_, fun l hl ↦ ?_⟩
  · have hsize : registered.traits.toList.length = registered.size := rfl
    rw [allLinks, hrest, Array.toList_append, List.zipIdx_append, List.flatMap_append, Nat.zero_add,
      hsize, allLinks]
    congr 1
    refine List.flatMap_congr fun p hp ↦ ?_
    exact linksAt_of_append h h' hrest (hpasses p.2 p.1 (mem_zipIdx_traits.1 hp)) p.2
  · obtain ⟨p, hp, hl⟩ := List.mem_flatMap.1 hl
    obtain ⟨q, -, hq⟩ := List.mem_filterMap.1 hl
    obtain ⟨target, -, rfl⟩ := Option.map_eq_some_iff.1 hq
    exact List.le_snd_of_mem_zipIdx hp

/-- A parent is found where it was. -/
theorem resolved_of_append (ht : registered.Inherits t) :
    registered'.resolved t = registered.resolved t := by
  rw [resolved, resolved]
  split
  case h_1 hkind =>
    obtain ⟨skill, hskill, -⟩ := ht _ _ _ _ hkind
    obtain ⟨place, hplace, -⟩ := Option.bind_eq_some_iff.1 hskill
    rw [hplace, indexOf?_of_append h h' hrest hplace]
  all_goals rfl

end Registered

/-! ### The analysis -/

/-- What is noted at the traits that come first is noted again. -/
theorem noted_extendedBy {registered registered' : Database} (h : registered.Registered)
    (h' : registered'.Registered) {rest : Array Trait}
    (hrest : registered'.traits = registered.traits ++ rest)
    (hpasses : ∀ i t, registered.trait? i = some t → registered.Passes t)
    (hinherits : ∀ i t, registered.trait? i = some t → registered.Inherits t) :
    registered.noted.ExtendedBy registered'.noted := by
  obtain ⟨more, hlinks, hmore⟩ := allLinks_of_append h h' hrest hpasses
  refine ⟨fun hname ↦ indexOf?_of_append h h' hrest hname, fun {i t} ht ↦ ?_⟩
  rw [trait?_noted] at ht
  obtain ⟨first, hfirst, rfl⟩ := Option.map_eq_some_iff.1 ht
  refine ⟨refsTo more i, ?_, fun ref href ↦ ?_⟩
  · have hrefs : refsTo registered'.allLinks i = refsTo registered.allLinks i ++ refsTo more i := by
      rw [hlinks, refsTo, List.filter_append, List.map_append]
      rfl
    have hresolved := resolved_of_append h h' hrest (hinherits i first hfirst)
    rw [trait?_noted, trait?_of_append hrest hfirst, Option.map_some, hrefs, hresolved]
    simp [Array.append_assoc]
  · rw [size_noted]
    exact hmore _ (mem_refsTo.1 href)

/-- How a trait is shown does not depend on the effects on it. -/
theorem tweak_effectedBy (t : Trait) (effectedBy : Array EffectRef) :
    tweak { t with effectedBy } = { tweak t with effectedBy } := by
  rw [tweak_eq, tweak_eq]

/-- All traits are shown in one way, which does not depend on the effects on them. -/
theorem exists_dress (preferences : LoadPreferences) :
    ∃ dress : Trait → Trait, (∀ db, present db preferences = db.dressed dress) ∧
      ∀ t effectedBy, dress { t with effectedBy } = { dress t with effectedBy } := by
  by_cases htweaks : preferences.tweaksPresentation = true
  · exact ⟨tweak, fun db ↦ if_pos htweaks, tweak_effectedBy⟩
  · refine ⟨id, fun db ↦ ?_, fun _ _ ↦ rfl⟩
    rw [present, if_neg htweaks, dressed, Array.map_id]

theorem ExtendedBy.present (h : db.ExtendedBy db') (preferences : LoadPreferences) :
    (db.present preferences).ExtendedBy (db'.present preferences) := by
  obtain ⟨dress, hpresent, hdress⟩ := exists_dress preferences
  rw [hpresent, hpresent]
  refine ⟨h.indexOf?_eq, fun {i t} ht ↦ ?_⟩
  rw [trait?_dressed] at ht
  obtain ⟨u, hu, rfl⟩ := Option.map_eq_some_iff.1 ht
  obtain ⟨more, hu', hmore⟩ := h.trait?_eq hu
  have heffectedBy : (dress u).effectedBy = u.effectedBy := by
    have hsame : dress u = { dress u with effectedBy := u.effectedBy } := hdress u u.effectedBy
    rw [hsame]
  refine ⟨more, ?_, fun ref href ↦ ?_⟩
  · rw [trait?_dressed, hu', Option.map_some, hdress, heffectedBy]
  · rw [size_dressed]
    exact hmore ref href

/-! ### Loading -/

/-- **More sources extend a database.** -/
theorem extendedBy_of_load {sources more : List Source} {preferences : LoadPreferences}
    (h : load sources preferences = .ok db) (h' : load (sources ++ more) preferences = .ok db') :
    db.ExtendedBy db' := by
  obtain ⟨registered, hregistered, hanalyzed, rfl⟩ := exists_registered_of_load h
  obtain ⟨registered', hregistered', -, rfl⟩ := exists_registered_of_load h'
  have hall := hregistered'
  rw [addSources_append, hregistered, Except.ok_bind] at hall
  obtain ⟨rest, hrest⟩ := exists_append_of_addSources hall
  obtain ⟨-, hpasses, hinherits, -⟩ := analyze_eq_ok_iff.1 hanalyzed
  refine ExtendedBy.present ?_ preferences
  exact noted_extendedBy (registered_of_addSources hregistered)
    (registered_of_addSources hregistered') hrest hpasses hinherits

/-! ### Reading an extended database -/

namespace ExtendedBy

variable (h : db.ExtendedBy db')

include h

theorem size_le : db.size ≤ db'.size := by
  by_contra hlt
  obtain ⟨t, ht⟩ := exists_trait?_of_lt (Nat.lt_of_not_le hlt)
  obtain ⟨_, ht', -⟩ := h.trait?_eq ht
  exact Nat.lt_irrefl _ (lt_size_of_trait? ht')

theorem map_kind_eq (hi : i < db.size) :
    (db'.trait? i).map Trait.kind = (db.trait? i).map Trait.kind := by
  obtain ⟨t, ht⟩ := exists_trait?_of_lt hi
  obtain ⟨_, ht', -⟩ := h.trait?_eq ht
  rw [ht, ht', Option.map_some, Option.map_some]

theorem parentOf?_eq (hi : i < db.size) : db'.parentOf? i = db.parentOf? i := by
  obtain ⟨t, ht⟩ := exists_trait?_of_lt hi
  obtain ⟨_, ht', -⟩ := h.trait?_eq ht
  rw [parentOf?, parentOf?, ht, ht']
  rfl

theorem isCategory_eq (hi : i < db.size) : db'.isCategory i = db.isCategory i := by
  obtain ⟨t, ht⟩ := exists_trait?_of_lt hi
  obtain ⟨_, ht', -⟩ := h.trait?_eq ht
  rw [isCategory, isCategory, ht, ht']
  rfl

theorem writtenDifficulty?_eq (hi : i < db.size) :
    db'.writtenDifficulty? i = db.writtenDifficulty? i := by
  obtain ⟨t, ht⟩ := exists_trait?_of_lt hi
  obtain ⟨_, ht', -⟩ := h.trait?_eq ht
  rw [writtenDifficulty?, writtenDifficulty?, ht, ht']
  rfl

theorem effect?_eq {ref : EffectRef} (howner : ref.owner < db.size) :
    db'.effect? ref = db.effect? ref := by
  obtain ⟨t, ht⟩ := exists_trait?_of_lt howner
  obtain ⟨_, ht', -⟩ := h.trait?_eq ht
  rw [effect?, effect?, ht, ht']
  rfl

variable (hchecked : db.Checked)

include hchecked

/-- Chains of inheritance stay among the traits that come first. -/
theorem lineage {above : List Nat} (hlineage : db.Lineage i above) (hi : i < db.size) :
    db'.Lineage i above := by
  induction hlineage with
  | root parent => exact .root ((h.parentOf?_eq hi).trans parent)
  | link parent _ ih =>
    obtain ⟨_, hskill, -⟩ := hchecked.isSkill_of_parentOf? parent
    exact .link ((h.parentOf?_eq hi).trans parent) (ih (lt_size_of_trait? hskill))

theorem hasDifficulty {difficulty : Difficulty} (hhas : db.HasDifficulty i difficulty)
    (hi : i < db.size) : db'.HasDifficulty i difficulty := by
  induction hhas with
  | written own => exact .written ((h.writtenDifficulty?_eq hi).trans own)
  | ofCategory own parent category _ ih =>
    obtain ⟨_, hskill, -⟩ := hchecked.isSkill_of_parentOf? parent
    have hj := lt_size_of_trait? hskill
    exact .ofCategory ((h.writtenDifficulty?_eq hi).trans own) ((h.parentOf?_eq hi).trans parent)
      ((h.isCategory_eq hj).trans category) (ih hj)
  | ofSkill own parent category _ ih =>
    obtain ⟨_, hskill, -⟩ := hchecked.isSkill_of_parentOf? parent
    have hj := lt_size_of_trait? hskill
    exact .ofSkill ((h.writtenDifficulty?_eq hi).trans own) ((h.parentOf?_eq hi).trans parent)
      ((h.isCategory_eq hj).trans category) (ih hj)

/-- The end of the chain of inheritance from a skill is where it was. -/
theorem inheritanceRoot?_eq (ht : db.trait? i = some t) (hskill : t.isSkill = true) :
    db'.inheritanceRoot? i = db.inheritanceRoot? i := by
  obtain ⟨above, habove⟩ := hchecked.exists_lineage ht hskill
  have habove' := h.lineage hchecked habove (lt_size_of_trait? ht)
  rw [habove.inheritanceRoot?_eq, habove'.inheritanceRoot?_eq]

/-- **The difficulty of a skill is what it was.** -/
theorem difficulty?_eq (hi : i < db.size) : db'.difficulty? i = db.difficulty? i := by
  obtain ⟨t, ht⟩ := exists_trait?_of_lt hi
  cases hskill : t.isSkill with
  | true =>
    obtain ⟨above, habove⟩ := hchecked.exists_lineage ht hskill
    obtain ⟨difficulty, hhas⟩ := hchecked.exists_hasDifficulty habove ht hskill
    have habove' := h.lineage hchecked habove hi
    have hhas' := h.hasDifficulty hchecked hhas hi
    rw [habove.difficulty?_eq_some_iff.2 hhas, habove'.difficulty?_eq_some_iff.2 hhas']
  | false =>
    -- nothing but a skill has a difficulty or a parent
    obtain ⟨hown, hparent⟩ := writtenDifficulty?_eq_none_of_isSkill ht hskill
    rw [difficulty?_eq_none hown hparent,
      difficulty?_eq_none ((h.writtenDifficulty?_eq hi).trans hown)
        ((h.parentOf?_eq hi).trans hparent)]

end ExtendedBy

/-! ### A small database with more sources -/

/-- A source with an advantage that raises the attribute of the small source. -/
def giftedSource : Source := ⟨"gifted.txt", "Gifted: 5 * level \x7b\nDX += 2 * level\n\x7d\n"⟩

/-- The advantage of that source. -/
def gifted : Trait :=
  { Trait.new "Gifted" (.leveledAdvantage (.binary .multiply (.integer 5) .level))
      ⟨"gifted.txt", 1⟩ with
    effects := #[⟨"Gifted", "DX", .level, .binary .multiply (.integer 2) .level,
      ⟨"gifted.txt", 2⟩⟩] }

/-- The traits of the small source and of this one, before an analysis. -/
def smallGifted : Database := small.push gifted

theorem addSources_gifted : small.addSources [giftedSource] = .ok smallGifted := by
  have htraits : giftedSource.traits = .ok [gifted] := Except.eq_ok_of_toOption (by decide +kernel)
  have hrefusal : small.refusal? gifted = none := by
    rw [refusal?, find?, indexOf?_small, if_neg (by decide), if_neg (by decide)]
    rfl
  rw [addSources, addSource, htraits]
  simp only [registerAll, hrefusal]
  rfl

theorem indexOf?_dx_gifted : smallGifted.indexOf? "DX" = some 0 := by
  rw [smallGifted, indexOf?_push, if_neg (by decide), indexOf?_dx_small]

theorem traits_gifted : smallGifted.traits = #[dx, brawling, gifted] := rfl

theorem traits_noted_gifted :
    smallGifted.noted.traits = #[{ dx with effectedBy := #[⟨2, 0⟩] }, brawling, gifted] := by
  have hlinks : smallGifted.allLinks = [⟨0, ⟨2, 0⟩⟩] := by
    rw [allLinks, traits_gifted]
    simp [linksAt, linksFrom, dx, brawling, gifted, Trait.new, indexOf?_dx_gifted]
  rw [noted, hlinks]
  simp [link, traits_gifted, resolved, dx, brawling, gifted, Trait.new]

/-- The level of the skill still rests on the attribute, and nothing else on anything. -/
theorem graph_gifted (relation : Relation) :
    smallGifted.noted.graph relation =
      match relation with
      | .inheritance | .functions => #[[], [], []]
      | .evaluation => #[[], [0], []] := by
  cases relation with
  | inheritance =>
    simp [graph, inheritanceGraph, traits_noted_gifted, dx, brawling, gifted, Trait.new,
      Trait.parentIndex?]
  | functions =>
    simp [graph, functionGraph, traits_noted_gifted, dx, brawling, gifted, Trait.new, placesIn,
      Formula.mentions]
  | evaluation =>
    have hparent : smallGifted.noted.parentOf? 1 = none := by
      rw [parentOf?, trait?, traits_noted_gifted]
      rfl
    have hroot : smallGifted.noted.inheritanceRoot? 1 = some 1 := by
      rw [inheritanceRoot?, rootWithin, hparent]
    have htrait : smallGifted.noted.trait? 1 = some brawling := by
      rw [trait?, traits_noted_gifted]
      rfl
    have heffect : smallGifted.noted.effect? ⟨2, 0⟩ = some ⟨"Gifted", "DX", .level,
        .binary .multiply (.integer 2) .level, ⟨"gifted.txt", 2⟩⟩ := by
      rw [effect?, trait?, traits_noted_gifted]
      rfl
    have hdx : smallGifted.noted.indexOf? "DX" = some 0 := indexOf?_dx_gifted
    have hones : [0].eraseDups = [0] := by decide
    simp [graph, evaluationGraph, traits_noted_gifted, dx, brawling, gifted, Trait.new,
      levelFormulas, baseFormula?, placesIn, Formula.mentions, hroot, htrait, Trait.ownFormula?,
      hdx, hones, heffect]

theorem eq_of_trait?_gifted {i : Nat} {t : Trait} (ht : smallGifted.trait? i = some t) :
    t = dx ∨ t = brawling ∨ t = gifted := by
  have hmem : t ∈ #[dx, brawling, gifted] := Array.mem_of_getElem? ht
  simpa using hmem

/-- The formulas of all three traits have their sorts, and the effect has its target. -/
theorem passes_gifted {i : Nat} {t : Trait} (ht : smallGifted.trait? i = some t) :
    smallGifted.Passes t := by
  have hfind : smallGifted.find? "DX" = some dx := by
    rw [find?, indexOf?_dx_gifted]
    rfl
  have hown {t : Trait} {f : Formula} (hf : t.ownFormula? = some f)
      (hcheck : Scope.check ⟨smallGifted, t⟩ .integer f = .ok ()) (g : Formula)
      (hg : t.ownFormula? = some g) : Scope.check ⟨smallGifted, t⟩ .integer g = .ok () :=
    Option.some.inj (hf.symm.trans hg) ▸ hcheck
  rcases eq_of_trait?_gifted ht with rfl | rfl | rfl
  · exact ⟨hown rfl rfl, fun _ heffect ↦ by simp [dx, Trait.new] at heffect⟩
  · refine ⟨hown rfl ?_, fun _ heffect ↦ by simp [brawling, Trait.new] at heffect⟩
    rw [Scope.check, Scope.checkName, if_neg (by decide), hfind]
    rfl
  · refine ⟨hown rfl rfl, fun effect heffect ↦ ⟨0, ?_⟩⟩
    obtain rfl := Array.mem_singleton.1 heffect
    exact ⟨indexOf?_dx_gifted, ⟨dx, rfl, rfl⟩, rfl⟩

theorem analyze_gifted : smallGifted.analyze = .ok smallGifted.noted := by
  refine analyze_eq_ok_iff.2 ⟨rfl, fun _ _ ↦ passes_gifted, fun i t ht ↦ ?_, fun relation ↦ ?_, ?_⟩
  · -- no trait inherits
    intro _ _ _ _ hkind
    rcases eq_of_trait?_gifted ht with rfl | rfl | rfl <;> cases hkind
  · rw [checkCycles, graph_gifted]
    cases relation <;> decide
  · rw [checkSpecialties, traits_noted_gifted]
    rfl

/-- A database with effects of a second source on a trait of the first one can be loaded. -/
theorem load_gifted :
    load ([smallSource] ++ [giftedSource]) ⟨[], false⟩ = .ok smallGifted.noted := by
  have hcount : checkSourceCount ([smallSource] ++ [giftedSource]) = .ok () := by decide
  have hnames : smallGifted.requireNames [] = .ok () := rfl
  rw [load, addSources_append, addSources_small, Except.ok_bind, addSources_gifted, hcount,
    Except.ok_bind, Except.ok_bind, hnames, Except.ok_bind, analyze_gifted]
  rfl

end PointBuy.Database
