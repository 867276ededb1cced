import Mathlib.Data.List.Nodup
import PointBuy.Proofs.Database.Inheritance
import PointBuy.Proofs.Database.NameTable

/-!
# Lineages

The lineage of a skill are the places that the chain of inheritance passes on its way up, from the
parent to the end. Three walks go along it, and each has its own way to stop if it should have no
end: one looks for the end within a number of steps; one collects what it passes, and stops where it
comes back or has collected too much; and one looks for a difficulty within a number of steps, and
counts on the way how much easier it gets. A lineage (`Lineage`) is simply as long as it is.

That no walk stops too early is not a matter of what has been checked. Each place has at most one
parent, so a chain that came to a place twice would never end, and one that ends is no longer than
the list of traits (`Lineage.length_le`). A chain without an end comes back to a place before it has
passed more places than there are traits (`Passed.length_le`), so that the walk that collects it
never stops for having collected too much.

The difficulty of a skill is defined by that of its parent (`HasDifficulty`): each is as hard as its
parent or one step easier, and so the last step up is the first to be taken off. The walk takes them
off in the other order, all at the end. This comes to the same, though nothing is easier than easy.

## Main definitions

* `Database.Lineage` : a chain of inheritance that ends.
* `Database.Passed` : a chain of inheritance as far as it has been followed.
* `Database.HasDifficulty` : the difficulty of a skill by that of its parent.

## Main statements

* `Database.inheritanceRoot?_eq_none` : the search for the end fails just where there is none.
* `Database.exists_passed_ancestors` : what is collected of any chain, whether it ends or not.
* `Database.Lineage.difficulty?_eq_some_iff` : the difficulty that is found, where a chain ends.
* `Database.walks_agree` : what the walks from a skill find in a loaded database.
-/

namespace PointBuy

/-- The last of some steps may as well be the first. -/
theorem Difficulty.eased_easier (difficulty : Difficulty) (steps : Nat) :
    difficulty.easier.eased steps = difficulty.eased (steps + 1) := by
  induction steps with
  | zero => rfl
  | succ steps ih =>
    rw [eased, Nat.fold_succ]
    exact congrArg easier ih

/-- The difficulty that is written on a skill itself. -/
def Trait.writtenDifficulty? (t : Trait) : Option Difficulty :=
  match t.kind with
  | .skill difficulty _ _ => some difficulty
  | .inheritedSkill _ _ difficulty _ => difficulty
  | .leveledAdvantage _ | .plainAdvantage _ | .attribute _ => none

namespace Database

variable {db : Database} {i j last root rounds steps : Nat} {chain above above' : List Nat}
  {t : Trait} {difficulty difficulty' : Difficulty}

/-- Only a trait has a parent. -/
theorem lt_size_of_parentOf? (h : db.parentOf? i = some j) : i < db.size := by
  obtain ⟨t, ht, -⟩ := Option.bind_eq_some_iff.1 h
  exact lt_size_of_trait? ht

/-! ### Chains that end -/

/-- `db.Lineage i above` : the chain of inheritance from the place `i` ends, and `above` are the
places that it passes after `i`, in order. -/
inductive Lineage (db : Database) : Nat → List Nat → Prop
  | root {i : Nat} (parent : db.parentOf? i = none) : Lineage db i []
  | link {i j : Nat} {above : List Nat} (parent : db.parentOf? i = some j)
      (rest : Lineage db j above) : Lineage db i (j :: above)

namespace Lineage

/-- The lineage of a place with a parent goes on with that of the parent. -/
theorem exists_eq_cons (h : db.Lineage i above) (parent : db.parentOf? i = some j) :
    ∃ rest, above = j :: rest ∧ db.Lineage j rest := by
  cases h with
  | root parent' =>
    rw [parent] at parent'
    cases parent'
  | @link _ _ rest parent' hrest =>
    obtain rfl := Option.some.inj (parent.symm.trans parent')
    exact ⟨rest, rfl, hrest⟩

/-- A place has one lineage. -/
theorem unique (h : db.Lineage i above) (h' : db.Lineage i above') : above = above' := by
  induction h generalizing above' with
  | root parent =>
    cases h' with
    | root => rfl
    | link parent' =>
      rw [parent] at parent'
      cases parent'
  | link parent _ ih =>
    obtain ⟨rest, rfl, hrest⟩ := h'.exists_eq_cons parent
    rw [ih hrest]

/-- Each place on a lineage has one of its own, which is shorter. -/
theorem exists_of_mem (h : db.Lineage i above) (hj : j ∈ above) :
    ∃ rest, db.Lineage j rest ∧ rest.length < above.length := by
  induction h with
  | root => cases hj
  | @link i k above parent rest ih =>
    rcases List.mem_cons.1 hj with rfl | hj
    · exact ⟨above, rest, Nat.lt_succ_self _⟩
    · obtain ⟨shorter, hshorter, hlt⟩ := ih hj
      exact ⟨shorter, hshorter, Nat.lt_succ_of_lt hlt⟩

/-- **A chain that ends comes to no place twice.** -/
theorem nodup (h : db.Lineage i above) : (i :: above).Nodup := by
  induction h with
  | root => exact List.nodup_singleton _
  | link parent rest ih =>
    refine List.nodup_cons.2 ⟨fun hmem ↦ ?_, ih⟩
    -- a place that comes again would have a shorter lineage than its own
    have hwhole := Lineage.link parent rest
    obtain ⟨shorter, hshorter, hlt⟩ := hwhole.exists_of_mem hmem
    rw [hshorter.unique hwhole] at hlt
    exact Nat.lt_irrefl _ hlt

/-- A chain goes on at traits only. -/
theorem subset_range (h : db.Lineage i above) :
    (i :: above).dropLast ⊆ List.range db.size := by
  induction h with
  | root => exact List.nil_subset _
  | @link i j above parent rest ih =>
    exact List.cons_subset.2 ⟨List.mem_range.2 (lt_size_of_parentOf? parent), ih⟩

/-- **A chain that ends has no more links than there are traits.** -/
theorem length_le (h : db.Lineage i above) : above.length ≤ db.size := by
  have hnodup : (i :: above).dropLast.Nodup := h.nodup.sublist (List.dropLast_sublist _)
  have hle := hnodup.length_le_of_subset h.subset_range
  rwa [List.length_dropLast, List.length_cons, Nat.add_sub_cancel, List.length_range] at hle

/-! ### Walks along a lineage -/

theorem rootWithin_eq (h : db.Lineage i above) (hsteps : above.length < steps) :
    db.rootWithin steps i = (i :: above).getLast? := by
  induction h generalizing steps with
  | root parent =>
    obtain ⟨steps, rfl⟩ := Nat.exists_eq_add_one_of_ne_zero (Nat.ne_zero_of_lt hsteps)
    rw [rootWithin, parent]
    rfl
  | link parent rest ih =>
    obtain ⟨steps, rfl⟩ := Nat.exists_eq_add_one_of_ne_zero (Nat.ne_zero_of_lt hsteps)
    rw [rootWithin, parent, List.getLast?_cons_cons]
    exact ih (Nat.lt_of_succ_lt_succ hsteps)

/-- What is collected of a chain that ends is all of it, if none of it is there already. -/
theorem ancestorsFrom_eq (h : db.Lineage i above) (hnodup : (chain ++ above).Nodup)
    (hlength : (chain ++ above).length ≤ db.size) :
    db.ancestorsFrom chain i = chain ++ above := by
  induction h generalizing chain with
  | root parent => rw [ancestorsFrom, parent, List.append_nil]
  | @link i j above parent rest ih =>
    have hnew : j ∉ chain := fun hj ↦
      (List.nodup_append.1 hnodup).2.2 j hj j List.mem_cons_self rfl
    have hroom : ¬ db.size < chain.length := by
      rw [List.length_append] at hlength
      omega
    rw [List.append_cons] at hnodup hlength
    rw [ancestorsFrom, parent]
    dsimp only
    rw [if_neg (by simp [hnew, hroom]), ih hnodup hlength, ← List.append_cons]

/-- The search for the end of a chain finds it. -/
theorem inheritanceRoot?_eq (h : db.Lineage i above) :
    db.inheritanceRoot? i = (i :: above).getLast? :=
  h.rootWithin_eq (Nat.lt_succ_of_le h.length_le)

/-- The ancestors of a trait are its lineage. -/
theorem ancestors_eq (h : db.Lineage i above) : db.ancestors i = above :=
  h.ancestorsFrom_eq (List.nodup_cons.1 h.nodup).2 h.length_le

end Lineage

/-- A chain of which an end is found has one. -/
theorem exists_lineage_of_rootWithin (h : db.rootWithin steps i = some root) :
    ∃ above, db.Lineage i above := by
  induction steps generalizing i with
  | zero => cases h
  | succ steps ih =>
    rw [rootWithin] at h
    cases hparent : db.parentOf? i with
    | none => exact ⟨[], .root hparent⟩
    | some j =>
      rw [hparent] at h
      obtain ⟨above, habove⟩ := ih h
      exact ⟨j :: above, .link hparent habove⟩

theorem exists_lineage_iff : (∃ above, db.Lineage i above) ↔ db.inheritanceRoot? i ≠ none := by
  constructor
  · rintro ⟨above, habove⟩
    rw [habove.inheritanceRoot?_eq]
    simp
  · intro h
    obtain ⟨root, hroot⟩ := Option.ne_none_iff_exists'.1 h
    exact exists_lineage_of_rootWithin hroot

/-- `db.Unending chain` : a chain of inheritance goes on forever. -/
def Unending (db : Database) (chain : Nat → Nat) : Prop :=
  ∀ n, db.parentOf? (chain n) = some (chain (n + 1))

/-- A place on a chain that never ends has no lineage. -/
theorem Unending.not_lineage {chain : Nat → Nat} (h : db.Unending chain) (n : Nat) :
    ¬ db.Lineage (chain n) above := by
  intro hlineage
  induction above generalizing n with
  | nil =>
    obtain ⟨rest, hrest, -⟩ := hlineage.exists_eq_cons (h n)
    cases hrest
  | cons j above ih =>
    obtain ⟨rest, hrest, hnext⟩ := hlineage.exists_eq_cons (h n)
    obtain ⟨rfl, rfl⟩ := List.cons.inj hrest
    exact ih (n + 1) hnext

/-- **The search for the end of a chain fails just where the chain never ends**, whatever has been
checked. -/
theorem inheritanceRoot?_eq_none :
    db.inheritanceRoot? i = none ↔ ∃ chain, chain 0 = i ∧ db.Unending chain := by
  rw [← not_iff_not, ← ne_eq, ← exists_lineage_iff]
  constructor
  · rintro ⟨above, habove⟩ ⟨chain, rfl, hchain⟩
    exact hchain.not_lineage 0 habove
  · intro h
    by_contra hnone
    -- from a place without a lineage the chain leads to another one
    have hnext (k : Nat) (hk : ¬ ∃ above, db.Lineage k above) :
        ∃ j, db.parentOf? k = some j ∧ ¬ ∃ above, db.Lineage j above := by
      cases hparent : db.parentOf? k with
      | none => exact absurd ⟨[], .root hparent⟩ hk
      | some j => exact ⟨j, rfl, fun ⟨above, habove⟩ ↦ hk ⟨j :: above, .link hparent habove⟩⟩
    choose! next hparent hunending using hnext
    have hall (n : Nat) : ¬ ∃ above, db.Lineage (next^[n] i) above := by
      induction n with
      | zero => exact hnone
      | succ n ih =>
        rw [Function.iterate_succ_apply']
        exact hunending _ ih
    refine h ⟨fun n ↦ next^[n] i, rfl, fun n ↦ ?_⟩
    show db.parentOf? (next^[n] i) = some (next^[n + 1] i)
    rw [Function.iterate_succ_apply']
    exact hparent _ (hall n)

/-- **The end of a chain** is the trait itself or one of its ancestors. -/
theorem eq_or_mem_ancestors (h : db.inheritanceRoot? i = some root) :
    root = i ∨ root ∈ db.ancestors i := by
  obtain ⟨above, habove⟩ := exists_lineage_of_rootWithin h
  rw [habove.inheritanceRoot?_eq] at h
  rw [habove.ancestors_eq]
  exact List.mem_cons.1 (List.mem_of_getLast? h)

/-! ### Chains with or without an end -/

/-- `db.Passed i chain last` : the chain of inheritance from the place `i` passes the places of
`chain`, each once, and has come to `last`. -/
structure Passed (db : Database) (i : Nat) (chain : List Nat) (last : Nat) : Prop where
  links : (i :: chain).IsChain fun j k ↦ db.parentOf? j = some k
  last_eq : (i :: chain).getLast? = some last
  nodup : chain.Nodup

namespace Passed

theorem nil (db : Database) (i : Nat) : db.Passed i [] i := ⟨.singleton i, rfl, List.nodup_nil⟩

/-- The chain goes on to the parent. -/
theorem push (h : db.Passed i chain last) (parent : db.parentOf? last = some j)
    (hnew : j ∉ chain) : db.Passed i (chain ++ [j]) j where
  links := by
    refine List.IsChain.append h.links (.singleton j) fun k hk l hl ↦ ?_
    obtain rfl := Option.some.inj (h.last_eq.symm.trans hk)
    obtain rfl := Option.some.inj hl
    exact parent
  last_eq := List.getLast?_concat (l := i :: chain)
  nodup := List.nodup_append.2 ⟨h.nodup, List.nodup_singleton j, fun k hk l hl heq ↦ by
    rw [List.mem_singleton] at hl
    exact hnew (hl ▸ heq ▸ hk)⟩

/-- What a chain has passed is the parent of some skill. -/
theorem exists_of_mem (h : db.Passed i chain last) {k : Nat} (hk : k ∈ chain) :
    ∃ j, db.parentOf? j = some k := by
  obtain ⟨before, after, rfl⟩ := List.append_of_mem hk
  have hlinks := h.links
  rw [← List.cons_append] at hlinks
  obtain ⟨-, -, hlink⟩ := List.isChain_append.1 hlinks
  exact ⟨_, hlink _ (List.getLast?_eq_some_getLast (List.cons_ne_nil i before)) k rfl⟩

/-- **A chain has not passed more places than there are traits** as long as it goes on. -/
theorem length_le (h : db.Passed i chain last) (parent : db.parentOf? last = some j) :
    chain.length ≤ db.size := by
  have htraits := Graph.forall_mem_of_isChain h.links h.last_eq lt_size_of_parentOf?
    (lt_size_of_parentOf? parent)
  have hsubset : chain ⊆ List.range db.size := fun k hk ↦
    List.mem_range.2 (htraits k (List.mem_cons_of_mem i hk))
  have hle := h.nodup.length_le_of_subset hsubset
  rwa [List.length_range] at hle

/-- What is collected of a chain from some place on. -/
theorem exists_ancestorsFrom (h : db.Passed i chain last) :
    ∃ final, db.Passed i (db.ancestorsFrom chain last) final ∧
      ∀ j, db.parentOf? final = some j → j ∈ db.ancestorsFrom chain last := by
  fun_induction ancestorsFrom db chain last with
  | case1 chain last hnone =>
    refine ⟨last, h, fun j hj ↦ ?_⟩
    rw [hnone] at hj
    cases hj
  | case2 chain last parent hparent hstop =>
    refine ⟨last, h, fun j hj ↦ ?_⟩
    obtain rfl := Option.some.inj (hparent.symm.trans hj)
    have hroom : ¬ db.size < chain.length := Nat.not_lt.2 (h.length_le hparent)
    simpa [hroom] using hstop
  | case3 chain last parent hparent hgo ih =>
    refine ih (h.push hparent fun hmem ↦ hgo ?_)
    simp [hmem]

end Passed

/-- **What is collected of any chain**, whether it ends or not: its places up to the end, or to the
first one whose parent has been collected already. -/
theorem exists_passed_ancestors (db : Database) (i : Nat) :
    ∃ last, db.Passed i (db.ancestors i) last ∧
      ∀ j, db.parentOf? last = some j → j ∈ db.ancestors i :=
  (Passed.nil db i).exists_ancestorsFrom

/-- Of two skills that inherit from one another, each is its own ancestor, and is so once. -/
example : ancestors ⟨#[.new "Foil" (.inheritedSkill "Saber" (some 1) none false) default,
    .new "Saber" (.inheritedSkill "Foil" (some 0) none false) default], ∅⟩ 0 = [1, 0] := by
  decide +kernel

/-! ### Difficulties -/

/-- The difficulty that is written on the skill at a place. -/
def writtenDifficulty? (db : Database) (i : Nat) : Option Difficulty :=
  (db.trait? i).bind Trait.writtenDifficulty?

/-- **The difficulty of a skill**: the one that is written on it, or else that of its parent, which
is one step easier if the parent is no category. -/
inductive HasDifficulty (db : Database) : Nat → Difficulty → Prop
  | written {i : Nat} {difficulty : Difficulty} (own : db.writtenDifficulty? i = some difficulty) :
      HasDifficulty db i difficulty
  | ofCategory {i j : Nat} {difficulty : Difficulty} (own : db.writtenDifficulty? i = none)
      (parent : db.parentOf? i = some j) (category : db.isCategory j = true)
      (ofParent : HasDifficulty db j difficulty) : HasDifficulty db i difficulty
  | ofSkill {i j : Nat} {difficulty : Difficulty} (own : db.writtenDifficulty? i = none)
      (parent : db.parentOf? i = some j) (category : db.isCategory j = false)
      (ofParent : HasDifficulty db j difficulty) : HasDifficulty db i difficulty.easier

theorem HasDifficulty.unique (h : db.HasDifficulty i difficulty)
    (h' : db.HasDifficulty i difficulty') : difficulty = difficulty' := by
  -- what is written on the skill, its parent and its kind say which rule gives its difficulty
  induction h generalizing difficulty' with
  | written own => cases h' <;> simp_all
  | ofCategory own parent category ofParent ih =>
    cases h' with
    | ofCategory _ parent' _ ofParent' =>
      obtain rfl := Option.some.inj (parent.symm.trans parent')
      exact ih ofParent'
    | written | ofSkill => simp_all
  | ofSkill own parent category ofParent ih =>
    cases h' with
    | ofSkill _ parent' _ ofParent' =>
      obtain rfl := Option.some.inj (parent.symm.trans parent')
      rw [ih ofParent']
    | written | ofCategory => simp_all

/-- No trait, no difficulty. -/
theorem difficultyFrom_eq_none_of_trait? (rounds steps : Nat) (h : db.trait? i = none) :
    db.difficultyFrom rounds steps i = none := by
  cases rounds with
  | zero => rfl
  | succ rounds => rw [difficultyFrom, h, Option.map_none]

/-- One round of the walk that looks for a difficulty. -/
theorem difficultyFrom_succ (rounds steps i : Nat) :
    db.difficultyFrom (rounds + 1) steps i =
      match db.writtenDifficulty? i with
      | some difficulty => some (difficulty.eased steps)
      | none => (db.parentOf? i).bind fun parent ↦
          db.difficultyFrom rounds (if db.isCategory parent then steps else steps + 1) parent := by
  have hparent (parent : Nat) : ((db.trait? parent).bind fun above ↦
      db.difficultyFrom rounds (if above.isCategory then steps else steps + 1) parent) =
        db.difficultyFrom rounds (if db.isCategory parent then steps else steps + 1) parent := by
    rw [isCategory]
    cases ht : db.trait? parent with
    | none => exact (difficultyFrom_eq_none_of_trait? _ _ ht).symm
    | some above => rfl
  rw [difficultyFrom, writtenDifficulty?, parentOf?]
  cases db.trait? i with
  | none => rfl
  | some t =>
    rw [Option.map_some, Option.bind_some, Option.bind_some, Trait.writtenDifficulty?,
      Trait.parentIndex?]
    cases t.kind with
    | inheritedSkill name place own category =>
      cases own with
      | some difficulty => rfl
      | none => exact Option.bind_congr fun parent _ ↦ hparent parent
    | skill | leveledAdvantage | plainAdvantage | «attribute» => rfl

theorem difficulty?_eq_none (hown : db.writtenDifficulty? i = none)
    (hparent : db.parentOf? i = none) : db.difficulty? i = none := by
  rw [difficulty?, difficultyFrom_succ, hown, hparent]
  rfl

/-- Nothing but a skill has a difficulty of its own or a parent. -/
theorem writtenDifficulty?_eq_none_of_isSkill (ht : db.trait? i = some t)
    (hskill : t.isSkill = false) : db.writtenDifficulty? i = none ∧ db.parentOf? i = none := by
  rw [Trait.isSkill] at hskill
  rw [writtenDifficulty?, parentOf?, ht, Option.bind_some, Option.bind_some,
    Trait.writtenDifficulty?, Trait.parentIndex?]
  cases hkind : t.kind with
  | skill | inheritedSkill =>
    rw [hkind] at hskill
    cases hskill
  | leveledAdvantage | plainAdvantage | «attribute» => exact ⟨rfl, rfl⟩

/-- A difficulty that is found is that of the skill, with the steps taken off that have been counted
before. -/
theorem exists_hasDifficulty_of_difficultyFrom
    (h : db.difficultyFrom rounds steps i = some difficulty) :
    ∃ own, db.HasDifficulty i own ∧ difficulty = own.eased steps := by
  induction rounds generalizing i steps with
  | zero => cases h
  | succ rounds ih =>
    rw [difficultyFrom_succ] at h
    cases hown : db.writtenDifficulty? i with
    | some own =>
      rw [hown] at h
      exact ⟨own, .written hown, (Option.some.inj h).symm⟩
    | none =>
      rw [hown] at h
      obtain ⟨parent, hparent, h⟩ := Option.bind_eq_some_iff.1 h
      obtain ⟨ofParent, hofParent, rfl⟩ := ih h
      cases hcategory : db.isCategory parent with
      | true => exact ⟨ofParent, .ofCategory hown hparent hcategory hofParent, rfl⟩
      | false =>
        exact ⟨ofParent.easier, .ofSkill hown hparent hcategory hofParent,
          (ofParent.eased_easier steps).symm⟩

/-- **Counting the steps first and taking them at the end** comes to the difficulty of a skill, if
the walk goes on for long enough. -/
theorem HasDifficulty.difficultyFrom_eq (h : db.HasDifficulty i difficulty)
    (hlineage : db.Lineage i above) (hrounds : above.length < rounds) (steps : Nat) :
    db.difficultyFrom rounds steps i = some (difficulty.eased steps) := by
  induction h generalizing above rounds steps with
  | written own =>
    obtain ⟨rounds, rfl⟩ := Nat.exists_eq_add_one_of_ne_zero (Nat.ne_zero_of_lt hrounds)
    rw [difficultyFrom_succ, own]
  | ofCategory own parent category _ ih =>
    obtain ⟨rest, rfl, hrest⟩ := hlineage.exists_eq_cons parent
    obtain ⟨rounds, rfl⟩ := Nat.exists_eq_add_one_of_ne_zero (Nat.ne_zero_of_lt hrounds)
    rw [difficultyFrom_succ, own, parent]
    dsimp only
    rw [Option.bind_some, if_pos category]
    exact ih hrest (Nat.lt_of_succ_lt_succ hrounds) steps
  | @ofSkill _ _ difficulty own parent category _ ih =>
    obtain ⟨rest, rfl, hrest⟩ := hlineage.exists_eq_cons parent
    obtain ⟨rounds, rfl⟩ := Nat.exists_eq_add_one_of_ne_zero (Nat.ne_zero_of_lt hrounds)
    rw [difficultyFrom_succ, own, parent, difficulty.eased_easier]
    dsimp only
    rw [Option.bind_some, if_neg (Bool.eq_false_iff.1 category)]
    exact ih hrest (Nat.lt_of_succ_lt_succ hrounds) (steps + 1)

/-- **The difficulty that is found** is that of the skill, where the chain from it ends. -/
theorem Lineage.difficulty?_eq_some_iff (h : db.Lineage i above) :
    db.difficulty? i = some difficulty ↔ db.HasDifficulty i difficulty := by
  constructor
  · intro hfound
    obtain ⟨own, hown, rfl⟩ := exists_hasDifficulty_of_difficultyFrom hfound
    exact hown
  · exact fun hhas ↦ hhas.difficultyFrom_eq h (Nat.lt_succ_of_le h.length_le) 0

/-! ### Loaded databases -/

/-- A skill of a checked database has a lineage. -/
theorem Checked.exists_lineage (h : db.Checked) (ht : db.trait? i = some t)
    (hskill : t.isSkill = true) : ∃ above, db.Lineage i above := by
  obtain ⟨root, _, _, _, _, hroot, -, -⟩ := h.exists_root ht hskill
  exact exists_lineage_of_rootWithin hroot

/-- By the rules, each skill has a difficulty. -/
theorem Checked.exists_hasDifficulty (h : db.Checked) (hlineage : db.Lineage i above)
    (ht : db.trait? i = some t) (hskill : t.isSkill = true) :
    ∃ difficulty, db.HasDifficulty i difficulty := by
  induction hlineage generalizing t with
  | @root i parent =>
    obtain ⟨difficulty, base, category, hkind⟩ := h.kind_of_parentOf?_eq_none ht hskill parent
    exact ⟨difficulty, .written (by
      rw [writtenDifficulty?, ht, Option.bind_some, Trait.writtenDifficulty?, hkind])⟩
  | @link i j above parent rest ih =>
    cases hown : db.writtenDifficulty? i with
    | some difficulty => exact ⟨difficulty, .written hown⟩
    | none =>
      obtain ⟨_, htrait, hparentSkill⟩ := h.isSkill_of_parentOf? parent
      obtain ⟨ofParent, hofParent⟩ := ih htrait hparentSkill
      cases hcategory : db.isCategory j with
      | true => exact ⟨ofParent, .ofCategory hown parent hcategory hofParent⟩
      | false => exact ⟨ofParent.easier, .ofSkill hown parent hcategory hofParent⟩

/-- **A skill of a checked database has a difficulty.** -/
theorem Checked.exists_difficulty (h : db.Checked) (ht : db.trait? i = some t)
    (hskill : t.isSkill = true) : ∃ difficulty, db.difficulty? i = some difficulty := by
  obtain ⟨above, habove⟩ := h.exists_lineage ht hskill
  obtain ⟨difficulty, hhas⟩ := h.exists_hasDifficulty habove ht hskill
  exact ⟨difficulty, habove.difficulty?_eq_some_iff.2 hhas⟩

/-- What the walks from a skill find, if its lineage is `above`. -/
structure Walked (db : Database) (i : Nat) (above : List Nat) : Prop where
  lineage : db.Lineage i above
  /-- The chain comes to no place twice. -/
  nodup : (i :: above).Nodup
  /-- The end that is found is the last place, and a skill that inherits nothing. -/
  root : ∃ root r difficulty base category, (i :: above).getLast? = some root ∧
    db.inheritanceRoot? i = some root ∧ db.trait? root = some r ∧
    r.kind = .skill difficulty base category
  ancestors_eq : db.ancestors i = above
  /-- The difficulty that is found is that of the skill. -/
  difficulty : ∃ difficulty, db.difficulty? i = some difficulty ∧
    ∀ other, db.HasDifficulty i other ↔ other = difficulty

theorem Checked.exists_walked (h : db.Checked) (ht : db.trait? i = some t)
    (hskill : t.isSkill = true) : ∃ above, db.Walked i above := by
  obtain ⟨root, r, found, base, category, hroot, hr, hkind⟩ := h.exists_root ht hskill
  obtain ⟨difficulty, hdifficulty⟩ := h.exists_difficulty ht hskill
  obtain ⟨above, habove⟩ := exists_lineage_of_rootWithin hroot
  have hhas := habove.difficulty?_eq_some_iff.1 hdifficulty
  refine ⟨above, habove, habove.nodup, ?_, habove.ancestors_eq, ?_⟩
  · exact ⟨root, r, found, base, category, habove.inheritanceRoot?_eq ▸ hroot, hroot, hr, hkind⟩
  · refine ⟨difficulty, hdifficulty, fun other ↦ ⟨fun hother ↦ hother.unique hhas, ?_⟩⟩
    rintro rfl
    exact hhas

/-- **The walks along a chain of inheritance agree** on every skill of a loaded database: it has a
lineage, the end and the ancestors that are found are those of the lineage, and the difficulty that
is found is the one that its definition gives. In any database, loaded or not, the search for the
end fails just where the chain never ends. -/
theorem walks_agree {sources : List Source} {preferences : LoadPreferences}
    (h : load sources preferences = .ok db) :
    (∀ i t, db.trait? i = some t → t.isSkill = true → ∃ above, db.Walked i above) ∧
      ∀ (other : Database) (i : Nat),
        other.inheritanceRoot? i = none ↔ ∃ chain, chain 0 = i ∧ other.Unending chain :=
  ⟨fun _ _ ht hskill ↦ (checked_of_load h).exists_walked ht hskill,
    fun _ _ ↦ inheritanceRoot?_eq_none⟩

/-! ### A small database with a lineage -/

/-- A source with a category, a category below it, a skill below that one, and its specialty. -/
def bladesSource : Source :=
  ⟨"blades.txt", "Blades: 10 H \x7b\ncategory = true\n\x7d\nSwords := Blades \x7b\n" ++
    "category = true\n\x7d\nSaber := Swords\nCavalry Saber := Saber\n"⟩

/-- The category of that source that inherits nothing. -/
def blades : Trait := .new "Blades" (.skill .hard (.integer 10) true) ⟨"blades.txt", 1⟩

/-- The category below it, with the place of its parent. -/
def swords (parent : Option Nat) : Trait :=
  .new "Swords" (.inheritedSkill "Blades" parent none true) ⟨"blades.txt", 4⟩

/-- The skill below that one, with the place of its parent. -/
def saber (parent : Option Nat) : Trait :=
  .new "Saber" (.inheritedSkill "Swords" parent none false) ⟨"blades.txt", 7⟩

/-- The specialty of that skill, with the place of its parent. -/
def cavalrySaber (parent : Option Nat) : Trait :=
  .new "Cavalry Saber" (.inheritedSkill "Saber" parent none false) ⟨"blades.txt", 8⟩

/-- The traits of that source, before an analysis. -/
def bladed : Database :=
  empty.pushAll [blades, swords none, saber none, cavalrySaber none]

theorem indexed_bladed : bladed.Indexed := indexed_pushAll_empty (by decide)

theorem addSources_bladed : empty.addSources [bladesSource] = .ok bladed := by
  have htraits : bladesSource.traits = .ok [blades, swords none, saber none, cavalrySaber none] :=
    Except.eq_ok_of_toOption (by decide +kernel)
  rw [addSources, addSource, htraits]
  dsimp only
  rw [registerAll_empty (by decide) (by decide)]
  rfl

theorem traits_bladed : bladed.traits = #[blades, swords none, saber none, cavalrySaber none] := rfl

/-- The traits of that source, with all places of parents noted. -/
theorem noted_bladed : bladed.noted =
    ⟨#[blades, swords (some 0), saber (some 1), cavalrySaber (some 2)], bladed.index⟩ := by
  have hplace (i : Nat) (t : Trait) (ht : bladed.trait? i = some t) :
      bladed.indexOf? t.name = some i := (indexed_bladed t.name i).2 ⟨t, ht, rfl⟩
  have hblades : bladed.indexOf? "Blades" = some 0 := hplace 0 blades rfl
  have hswords : bladed.indexOf? "Swords" = some 1 := hplace 1 (swords none) rfl
  have hsaber : bladed.indexOf? "Saber" = some 2 := hplace 2 (saber none) rfl
  have hlinks : bladed.allLinks = [] := rfl
  rw [noted, hlinks]
  simp [link, traits_bladed, resolved, blades, swords, saber, cavalrySaber, Trait.new, hblades,
    hswords, hsaber]

/-- Each trait but the first inherits from the one before it, and no formula mentions a name. -/
theorem graph_bladed (relation : Relation) :
    bladed.noted.graph relation =
      match relation with
      | .inheritance => #[[], [0], [1], [2]]
      | .functions | .evaluation => #[[], [], [], []] := by
  rw [noted_bladed]
  cases relation with
  | inheritance =>
    simp [graph, inheritanceGraph, blades, swords, saber, cavalrySaber, Trait.new,
      Trait.parentIndex?]
  | functions =>
    simp [graph, functionGraph, blades, swords, saber, cavalrySaber, Trait.new]
  | evaluation => rfl

theorem eq_of_trait?_bladed {i : Nat} {t : Trait} (ht : bladed.trait? i = some t) :
    t = blades ∨ t = swords none ∨ t = saber none ∨ t = cavalrySaber none := by
  have hmem : t ∈ #[blades, swords none, saber none, cavalrySaber none] :=
    Array.mem_of_getElem? ht
  simpa using hmem

theorem analyze_bladed : bladed.analyze = .ok bladed.noted := by
  refine analyze_eq_ok_iff.2 ⟨rfl, fun i t ht ↦ ?_, fun i t ht ↦ ?_, fun relation ↦ ?_, ?_⟩
  · -- the one formula is a number, and there are no effects
    rcases eq_of_trait?_bladed ht with rfl | rfl | rfl | rfl
    · refine ⟨fun f hf ↦ ?_, fun _ heffect ↦ absurd heffect (Array.not_mem_empty _)⟩
      obtain rfl := Option.some.inj hf
      rfl
    all_goals
      refine ⟨fun f hf ↦ ?_, fun _ heffect ↦ absurd heffect (Array.not_mem_empty _)⟩
      cases hf
  · have hfind (i : Nat) (t : Trait) (ht : bladed.trait? i = some t) :
        bladed.find? t.name = some t := indexed_bladed.find?_eq_some_iff.2 ⟨i, ht, rfl⟩
    intro _ _ _ _ hkind
    rcases eq_of_trait?_bladed ht with rfl | rfl | rfl | rfl <;> cases hkind
    · exact ⟨blades, hfind 0 _ rfl, rfl⟩
    · exact ⟨swords none, hfind 1 _ rfl, rfl⟩
    · exact ⟨saber none, hfind 2 _ rfl, rfl⟩
  · rw [checkCycles, graph_bladed]
    cases relation <;> decide
  · rw [noted_bladed]
    rfl

/-- A database with a lineage of three skills can be loaded. -/
theorem load_bladed : load [bladesSource] ⟨[], false⟩ = .ok bladed.noted :=
  load_eq_ok_iff.2 ⟨by decide, bladed, addSources_bladed, rfl, analyze_bladed, rfl⟩

/-- The lineage of the specialty. -/
theorem lineage_bladed : bladed.noted.Lineage 3 [2, 1, 0] := by
  rw [noted_bladed]
  exact .link rfl (.link rfl (.link rfl (.root rfl)))

/-- The walks from the specialty go up three skills, past one that is no category. -/
theorem walks_agree_bladed :
    load [bladesSource] ⟨[], false⟩ = .ok bladed.noted ∧
      bladed.noted.trait? 3 = some (cavalrySaber (some 2)) ∧
      (cavalrySaber (some 2)).isSkill = true ∧ bladed.noted.Walked 3 [2, 1, 0] ∧
      bladed.noted.difficulty? 3 = some .average := by
  have htrait : bladed.noted.trait? 3 = some (cavalrySaber (some 2)) := by
    rw [noted_bladed]
    rfl
  obtain ⟨above, hwalked⟩ := (walks_agree load_bladed).1 3 _ htrait rfl
  obtain rfl := hwalked.lineage.unique lineage_bladed
  have hdifficulty : bladed.noted.difficulty? 3 = some .average := by
    rw [noted_bladed]
    rfl
  exact ⟨load_bladed, htrait, rfl, hwalked, hdifficulty⟩

end Database
end PointBuy
