import Mathlib.Algebra.GroupWithZero.Nat
import PointBuy.Proofs.Database.Extension
import PointBuy.Proofs.Database.Relocation

/-!
# Joined sources

It does not matter over how many sources a database is spread. Where the text of each source has
ended, the texts one behind the other declare what the sources declare, and the traits that they
define enter a database in the same order and under the same names. Only their locations are those
of the joined text: each trait is moved down by the lines of the sources before its own.

## Main definitions

* `Source.joined` : the texts of some sources as one source.
* `Source.linesBefore` : the lines of the sources before the one that a trait is from.

## Main statements

* `Source.traits_joined` : what a joined source defines.
* `Database.registerAll_of_names` : whether traits can enter depends on their names alone.
* `Database.load_joined` : joined sources make up the same database, with other locations.
-/

namespace PointBuy

/-! ### What joined sources define -/

namespace Source

/-- The traits of a source that has no fault. -/
def defined (source : Source) : List Trait := source.traits.toOption.getD []

/-- The texts of some sources, one behind the other, as one source. -/
def joined (path : String) (sources : List Source) : Source :=
  ⟨path, String.join (sources.map text)⟩

/-- The number of lines of the sources before the one that defines the trait at a place. -/
def linesBefore : List Source → Nat → Nat
  | [], _ => 0
  | source :: rest, i =>
    if i < source.defined.length then 0
    else source.lineCount + linesBefore rest (i - source.defined.length)

/-- A trait is defined by a source if it is one of those in its text, up to what is noted at it. -/
def Defines (source : Source) (t : Trait) : Prop :=
  ∃ ts u, source.traits = .ok ts ∧ u ∈ ts ∧ u.written = t.written

variable {source : Source} {sources : List Source} {path : String} {i : Nat} {t : Trait}

theorem defined_eq {ts : List Trait} (h : source.traits = .ok ts) : source.defined = ts := by
  rw [defined, h]
  rfl

/-- **What a joined source defines**: what its parts define, moved down. -/
theorem traits_joined (path : String) (hended : ∀ source ∈ sources, Text.Ended source.text.toList)
    (hdefined : ∀ source ∈ sources, source.traits = .ok source.defined) :
    (joined path sources).traits = .ok ((sources.flatMap defined).mapIdx fun i ↦
      Trait.relocated (.moved path (linesBefore sources i))) := by
  induction sources with
  | nil => rfl
  | cons source rest ih =>
    obtain ⟨hsource, hrest⟩ := List.forall_mem_cons.1 hended
    obtain ⟨hfirst, hothers⟩ := List.forall_mem_cons.1 hdefined
    have htext : (joined path (source :: rest)) =
        ⟨path, source.text ++ (joined path rest).text⟩ := by
      rw [joined, List.map_cons, String.join_cons]
      rfl
    rw [htext, traits_append path hsource hfirst (ih hrest hothers), List.flatMap_cons,
      List.mapIdx_append]
    congr 2
    · refine List.ext_getElem? fun i ↦ ?_
      rw [List.getElem?_map, List.getElem?_mapIdx]
      by_cases hi : i < source.defined.length
      · rw [linesBefore, if_pos hi]
      · rw [List.getElem?_eq_none (Nat.le_of_not_lt hi)]
        rfl
    · refine List.ext_getElem? fun i ↦ ?_
      rw [List.getElem?_map, List.getElem?_mapIdx, List.getElem?_mapIdx, Option.map_map]
      refine Option.map_congr fun t _ ↦ ?_
      have hlines : linesBefore (source :: rest) (i + source.defined.length) =
          linesBefore rest i + source.lineCount := by
        rw [linesBefore, if_neg (Nat.not_lt.2 (Nat.le_add_left _ _)), Nat.add_sub_cancel,
          Nat.add_comm]
      rw [Function.comp_apply, Trait.relocated_relocated, hlines]
      refine congrArg (Trait.relocated · t) (funext fun l ↦ ?_)
      rw [Function.comp_apply, Location.moved, Location.moved, Location.moved, Nat.add_assoc]

/-- Which source defines the trait at a place. -/
theorem exists_of_getElem?_defined (h : (sources.flatMap defined)[i]? = some t) :
    ∃ before source after, sources = before ++ source :: after ∧ t ∈ source.defined ∧
      linesBefore sources i = (before.map lineCount).sum := by
  induction sources generalizing i with
  | nil => simp at h
  | cons source rest ih =>
    rw [List.flatMap_cons] at h
    rw [linesBefore]
    by_cases hi : i < source.defined.length
    · rw [List.getElem?_append_left hi] at h
      exact ⟨[], source, rest, rfl, List.mem_of_getElem? h, if_pos hi⟩
    · rw [List.getElem?_append_right (Nat.le_of_not_lt hi)] at h
      obtain ⟨before, own, after, rfl, hmem, hlines⟩ := ih h
      refine ⟨source :: before, own, after, rfl, hmem, ?_⟩
      rw [if_neg hi, hlines, List.map_cons, List.sum_cons]

end Source

namespace Database

variable {db db' d : Database} {sources : List Source} {preferences : LoadPreferences}

/-! ### Entering them -/

/-- Whether a trait can enter depends on its name, on the index and on the number of traits. -/
theorem refusal?_of_name {t t' : Trait} (hname : t'.name = t.name) (hindex : db'.index = db.index)
    (hsize : db'.size = db.size) (h : db.refusal? t = none) : db'.refusal? t' = none := by
  rw [refusal?_eq_none_iff, find?, Option.bind_eq_none_iff] at h ⊢
  rw [indexOf?, hindex, hname, hsize]
  refine ⟨fun i hi ↦ ?_, h.2⟩
  rw [trait?_eq_none_iff, hsize, ← trait?_eq_none_iff]
  exact h.1 i hi

/-- **Whether traits can enter depends on their names alone**, and so do their places. -/
theorem registerAll_of_names {ts ts' : List Trait}
    (hnames : ts'.map Trait.name = ts.map Trait.name) (hindex : db'.index = db.index)
    (hsize : db'.size = db.size) (h : db.registerAll ts = (d, none)) :
    ∃ d', db'.registerAll ts' = (d', none) ∧ d'.index = d.index ∧
      d'.traits = db'.traits ++ ts'.toArray := by
  induction ts generalizing db db' ts' with
  | nil =>
    obtain rfl := List.map_eq_nil_iff.1 hnames
    obtain ⟨rfl, -⟩ := Prod.mk.inj h
    exact ⟨db', rfl, hindex, (Array.append_empty).symm⟩
  | cons t ts ih =>
    obtain ⟨t', ts', rfl, hname, hnames⟩ := List.map_eq_cons_iff.1 hnames
    rw [registerAll] at h
    cases hrefusal : db.refusal? t with
    | some e =>
      rw [hrefusal] at h
      cases h
    | none =>
      rw [hrefusal] at h
      have hindex' : (db'.push t').index = (db.push t).index := by
        rw [push, push]
        dsimp only
        rw [hindex, hsize, hname]
      have hsize' : (db'.push t').size = (db.push t).size := by
        rw [size, size, push, push, Array.size_push, Array.size_push]
        exact congrArg (· + 1) hsize
      obtain ⟨d', hall, hplaces, htraits⟩ := ih hnames hindex' hsize' h
      refine ⟨d', ?_, hplaces, ?_⟩
      · rw [registerAll, refusal?_of_name hname hindex hsize hrefusal]
        exact hall
      · rw [htraits, push]
        simp

/-- Traits enter one list behind the other, unless one of the first is refused. -/
theorem registerAll_append (db : Database) (ts us : List Trait) :
    db.registerAll (ts ++ us) =
      match db.registerAll ts with
      | (next, none) => next.registerAll us
      | (next, some e) => (next, some e) := by
  induction ts generalizing db with
  | nil => rfl
  | cons t ts ih =>
    rw [List.cons_append, registerAll, registerAll]
    cases db.refusal? t with
    | some e => rfl
    | none => exact ih (db.push t)

/-- The traits of all sources enter one after another. -/
theorem addSources_eq_ok_iff :
    db.addSources sources = .ok d ↔
      (∀ source ∈ sources, source.traits = .ok source.defined) ∧
        db.registerAll (sources.flatMap Source.defined) = (d, none) := by
  induction sources generalizing db with
  | nil =>
    rw [addSources, List.flatMap_nil, registerAll, Except.ok.injEq, Prod.mk.injEq]
    simp
  | cons source rest ih =>
    rw [addSources, addSource, List.forall_mem_cons, List.flatMap_cons]
    cases htraits : source.traits with
    | error e => simp
    | ok ts =>
      rw [Source.defined_eq htraits]
      obtain ⟨⟨next, fault⟩, hall⟩ : ∃ r, db.registerAll ts = r := ⟨_, rfl⟩
      cases fault with
      | none => simp [registerAll_append, hall, ih]
      | some e => simp [registerAll_append, hall]

/-- The traits of all sources stand in the order that they are written. -/
theorem traits_of_addSources (h : empty.addSources sources = .ok db) :
    db.traits = (sources.flatMap Source.defined).toArray := by
  obtain ⟨-, hall⟩ := addSources_eq_ok_iff.1 h
  obtain ⟨db', hall', -, htraits⟩ := @registerAll_of_names empty empty db _ _ rfl rfl rfl hall
  obtain ⟨rfl, -⟩ := Prod.mk.inj (hall.symm.trans hall')
  rw [htraits, empty, Array.empty_append]

/-! ### The same database -/

/-- What the traits of a joined source make up differs from what those of its parts make up in
nothing but locations. -/
theorem relocatedBy_of_addSources (h : empty.addSources sources = .ok db) (path : String)
    (hended : ∀ source ∈ sources, Text.Ended source.text.toList) :
    ∃ db', empty.addSources [.joined path sources] = .ok db' ∧
      RelocatedBy (fun i ↦ .moved path (Source.linesBefore sources i)) db db' := by
  obtain ⟨hdefined, hall⟩ := addSources_eq_ok_iff.1 h
  have hjoined := Source.traits_joined path hended hdefined
  have hnames : (Source.joined path sources).defined.map Trait.name =
      (sources.flatMap Source.defined).map Trait.name := by
    rw [Source.defined_eq hjoined]
    refine List.ext_getElem? fun i ↦ ?_
    rw [List.getElem?_map, List.getElem?_mapIdx, List.getElem?_map, Option.map_map]
    rfl
  obtain ⟨db', hall', hindex, htraits'⟩ := registerAll_of_names hnames rfl rfl hall
  refine ⟨db', addSources_eq_ok_iff.2 ⟨?_, ?_⟩, hindex, fun i ↦ ?_⟩
  · rw [List.forall_mem_singleton, Source.defined_eq hjoined]
    exact hjoined
  · rw [List.flatMap_singleton]
    exact hall'
  · rw [trait?, trait?, htraits', traits_of_addSources h, Source.defined_eq hjoined]
    simp [empty]

/-- **Joined sources make up the same database.** Where the text of each source is empty or ends in
a line feed, and the sources can be loaded, so can their texts one behind the other as one source.
It has the same index, and the same traits at the same places, with the same effects on them and the
same parents, shown in the same way; only all locations in a trait are moved down by the lines of
the sources before the one that defines it. -/
theorem load_joined (hended : ∀ source ∈ sources, Text.Ended source.text.toList)
    (h : load sources preferences = .ok db) (path : String) :
    ∃ db', load [.joined path sources] preferences = .ok db' ∧ db'.index = db.index ∧
      db'.size = db.size ∧ ∀ i t, db.trait? i = some t → ∃ before source after,
        sources = before ++ source :: after ∧ source.Defines t ∧
        db'.trait? i =
          some (t.relocated (.moved path (before.map Source.lineCount).sum)) := by
  obtain ⟨-, registered, hregistered, hcore, hanalyzed, rfl⟩ := load_eq_ok_iff.1 h
  obtain ⟨registered', hregistered', hrelocated⟩ :=
    relocatedBy_of_addSources hregistered path hended
  have hpresented := hrelocated.noted.present preferences
  have hcore' : registered'.requireNames preferences.coreNames = .ok () := by
    rw [requireNames] at hcore ⊢
    simpa only [hrelocated.indexOf?_eq] using hcore
  refine ⟨_, load_eq_ok_iff.2 ⟨Nat.succ_le_of_lt (by decide), registered', hregistered', hcore',
    hrelocated.analyze hanalyzed, rfl⟩, hpresented.index_eq, hpresented.size_eq, fun i t ht ↦ ?_⟩
  -- what is shown at the end has been registered
  obtain ⟨dress, hshown, hdress⟩ := present_eq_dressed registered.noted preferences
  have halike : registered.WrittenAlike (registered.noted.present preferences) :=
    hshown ▸ registered.writtenAlike_noted.trans (writtenAlike_dressed hdress)
  obtain ⟨u, hu, hwritten⟩ := halike.symm.exists_trait ht
  have hmem : (sources.flatMap Source.defined)[i]? = some u := by
    rw [trait?, traits_of_addSources hregistered, List.getElem?_toArray] at hu
    exact hu
  obtain ⟨before, source, after, rfl, hdefines, hlines⟩ := Source.exists_of_getElem?_defined hmem
  have htraits := (addSources_eq_ok_iff.1 hregistered).1 source
    (List.mem_append_right _ List.mem_cons_self)
  refine ⟨before, source, after, rfl, ⟨_, u, htraits, hdefines, hwritten.symm⟩, ?_⟩
  rw [hpresented.trait?_eq, ht, Option.map_some, hlines]

/-- The second of two sources stands in the third and fourth line of both together. -/
theorem load_joined_gifted :
    (∀ source ∈ [smallSource] ++ [giftedSource], Text.Ended source.text.toList) ∧
      load ([smallSource] ++ [giftedSource]) ⟨[], false⟩ = .ok smallGifted.noted ∧
      ∃ db' t, load [.joined "all.txt" ([smallSource] ++ [giftedSource])] ⟨[], false⟩ = .ok db' ∧
        db'.trait? 2 = some t ∧ t.location = ⟨"all.txt", 3⟩ ∧
        t.effects.map Effect.location = #[⟨"all.txt", 4⟩] := by
  have hended : ∀ source ∈ [smallSource] ++ [giftedSource], Text.Ended source.text.toList := by
    intro source hsource
    rcases List.mem_pair.1 hsource with rfl | rfl <;> exact .inr (by decide)
  refine ⟨hended, load_gifted, ?_⟩
  obtain ⟨db', hload, -, -, htraits⟩ := load_joined hended load_gifted "all.txt"
  have hgifted : smallGifted.noted.trait? 2 = some gifted := by
    rw [trait?, traits_noted_gifted]
    rfl
  obtain ⟨before, source, after, hsources, ⟨ts, u, hts, hu, hwritten⟩, htrait⟩ :=
    htraits 2 gifted hgifted
  obtain rfl : before = [smallSource] := by
    rcases before with _ | ⟨first, _ | ⟨second, before⟩⟩
    · -- the first source defines nothing of that name
      obtain ⟨rfl, -⟩ := List.cons.inj hsources
      obtain rfl := Except.ok.inj (hts.symm.trans traits_smallSource)
      have hname : u.name = "Gifted" := congrArg Trait.name hwritten
      rcases List.mem_pair.1 hu with rfl | rfl <;> exact absurd hname (by decide)
    · exact congrArg (· :: []) (List.cons.inj hsources).1.symm
    · have hlength := congrArg List.length hsources
      simp at hlength
  have hlines : ([smallSource].map Source.lineCount).sum = 2 := by decide
  rw [hlines] at htrait
  refine ⟨db', _, hload, htrait, rfl, ?_⟩
  simp [Trait.relocated, gifted, Effect.relocated, Location.moved]

end Database
end PointBuy
