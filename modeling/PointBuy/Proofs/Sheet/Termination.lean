import PointBuy.Proofs.Database.Checked
import PointBuy.Proofs.Sheet.Reading

/-!
# Every evaluation ends

The level of a trait is computed from the levels of other traits, with a bound on the steps but no
other guard. In a checked database it needs none. One step only asks for levels that the evaluation
graph points to (`levelFrom_congr`), this graph has no cycle, and so no chain of steps meets a trait
twice: as many steps as there are traits are always enough, and more steps change nothing.

A call is said by what happens without it: the level of a trait calls that of another one if it is
given up as soon as the other level is, with all the rest known (`Calls`). So only levels that are
asked for count as calls, and no condition that is false calls the levels behind it.

## Main statements

* `levelWithin_eq_levels`, `levels_ne_none` : as many steps as there are traits are enough.
* `Calls.points` : calls follow the evaluation graph.
* `evaluation_terminates` : every evaluation over a loaded database ends.
-/

namespace PointBuy

namespace Database.Checked

variable {db : Database} (h : db.Checked)

include h

theorem acyclic_evaluation : db.evaluationGraph.Acyclic :=
  Graph.acyclic_of_search (h.searched .evaluation)

/-- The evaluation graph points to traits. -/
theorem lt_size_of_points {i j : Nat} (hpoints : db.evaluationGraph.Points i j) : j < db.size := by
  obtain ⟨_, -, f, -, hj⟩ := mem_evaluationGraph.1 hpoints
  obtain ⟨name, -, hname⟩ := List.mem_filterMap.1 hj
  exact h.indexed.lt_size hname

/-- A path in the evaluation graph that starts from a trait has no more members than there are
traits. -/
theorem length_le_size {i : Nat} {path : List Nat} (hi : i < db.size)
    (hpath : (i :: path).IsChain db.evaluationGraph.Points) : (i :: path).length ≤ db.size := by
  rw [← size_evaluationGraph] at hi ⊢
  refine h.acyclic_evaluation.length_le (fun hpoints ↦ ?_) hi hpath
  rw [size_evaluationGraph]
  exact h.lt_size_of_points hpoints

end Database.Checked

namespace Sheet

variable {s : Sheet} {levels levels' : Nat → Option (Option Amount)} {i : Nat}

/-! ### One step -/

/-- A step depends on the levels that the evaluation graph points to. -/
theorem levelFrom_congr_levels
    (h : ∀ j, s.database.evaluationGraph.Points i j → levels j = levels' j) :
    s.levelFrom levels i = s.levelFrom levels' i :=
  levelFrom_congr rfl rfl (fun _ _ _ _ ↦ rfl) fun j hj ↦ ⟨rfl, h j hj⟩

/-- A step is not given up if none of the levels is that the evaluation graph points to. -/
theorem levelFrom_ne_none_of_points
    (h : ∀ j, s.database.evaluationGraph.Points i j → levels j ≠ none) :
    s.levelFrom levels i ≠ none := by
  have hknown (j : Nat) (hj : s.database.evaluationGraph.Points i j) :
      levels j = some ((levels j).getD none) := by
    obtain ⟨level, hlevel⟩ := Option.ne_none_iff_exists'.1 (h j hj)
    rw [hlevel, Option.getD_some]
  rw [levelFrom_congr_levels hknown]
  exact levelFrom_ne_none fun _ ↦ Option.some_ne_none _

/-! ### All steps -/

/-- A bound that no path in the evaluation graph reaches is enough. -/
theorem levelWithin_stable {bound : Nat}
    (h : ∀ path, (i :: path).IsChain s.database.evaluationGraph.Points → path.length < bound) :
    s.levelWithin bound i ≠ none ∧
      ∀ more, s.levelWithin (bound + more) i = s.levelWithin bound i := by
  induction bound generalizing i with
  | zero => exact absurd (h [] (.singleton i)) (Nat.lt_irrefl 0)
  | succ bound ih =>
    -- a path from the next trait is shorter by the one that leads there
    have hnext (j : Nat) (hj : s.database.evaluationGraph.Points i j) :
        s.levelWithin bound j ≠ none ∧
          ∀ more, s.levelWithin (bound + more) j = s.levelWithin bound j := by
      refine ih fun path hpath ↦ ?_
      have hlt := h (j :: path) (.cons_cons hj hpath)
      rw [List.length_cons] at hlt
      omega
    refine ⟨levelFrom_ne_none_of_points fun j hj ↦ (hnext j hj).1, fun more ↦ ?_⟩
    rw [Nat.add_right_comm]
    exact levelFrom_congr_levels fun j hj ↦ (hnext j hj).2 more

section Checked

variable (h : s.database.Checked)

include h

theorem levelWithin_stable_of_lt (hi : i < s.database.size) :
    s.levelWithin s.database.size i ≠ none ∧
      ∀ more, s.levelWithin (s.database.size + more) i = s.levelWithin s.database.size i :=
  levelWithin_stable fun path hpath ↦ by
    have hle := h.length_le_size hi hpath
    rw [List.length_cons] at hle
    omega

/-- **As many steps as there are traits are enough** for the level of a trait. -/
theorem levels_ne_none (hi : i < s.database.size) : s.levels i ≠ none :=
  (levelWithin_stable_of_lt h hi).1

/-- More steps change nothing. -/
theorem levelWithin_eq_levels (hi : i < s.database.size) {bound : Nat}
    (hbound : s.database.size ≤ bound) : s.levelWithin bound i = s.levels i := by
  obtain ⟨more, rfl⟩ := Nat.exists_eq_add_of_le hbound
  exact (levelWithin_stable_of_lt h hi).2 more

/-- The levels of all traits are what one more step makes of them. -/
theorem levelFrom_levels (hi : i < s.database.size) : s.levelFrom s.levels i = s.levels i :=
  levelWithin_eq_levels h hi (Nat.le_succ _)

theorem levels_eq_some_level (hi : i < s.database.size) : s.levels i = some (s.level i) := by
  obtain ⟨value, hvalue⟩ := Option.ne_none_iff_exists'.1 (levels_ne_none h hi)
  rw [level, hvalue]
  rfl

/-! ### Calls -/

/-- The level of a trait calls the level of another one if it is given up where the other one is. -/
def Calls (s : Sheet) (i j : Nat) : Prop :=
  s.levelFrom (fun k ↦ if k = j then none else s.levels k) i = none

/-- Calls follow the evaluation graph. -/
theorem Calls.points {j : Nat} (hi : i < s.database.size) (hcalls : s.Calls i j) :
    s.database.evaluationGraph.Points i j := by
  by_contra hpoints
  -- without an edge, to give up the other level changes nothing
  have heq : s.levelFrom (fun k ↦ if k = j then none else s.levels k) i = s.levelFrom s.levels i :=
    levelFrom_congr_levels fun k hk ↦ if_neg fun hkj : k = j ↦ hpoints (hkj ▸ hk)
  rw [Calls, heq, levelFrom_levels h hi] at hcalls
  exact levels_ne_none h hi hcalls

/-- **A chain of calls meets no trait twice**, and so has no more members than there are traits. -/
theorem chain_of_calls {path : List Nat} (hi : i < s.database.size)
    (hpath : (i :: path).IsChain s.Calls) :
    (i :: path).Nodup ∧ (i :: path).length ≤ s.database.size := by
  have hpoints (i : Nat) (path : List Nat) (hi : i < s.database.size)
      (hpath : (i :: path).IsChain s.Calls) :
      (i :: path).IsChain s.database.evaluationGraph.Points := by
    induction path generalizing i with
    | nil => exact .singleton i
    | cons j path ih =>
      obtain ⟨hcalls, hpath⟩ := List.isChain_cons_cons.1 hpath
      have hj := Calls.points h hi hcalls
      exact .cons_cons hj (ih j (h.lt_size_of_points hj) hpath)
  have hchain := hpoints i path hi hpath
  exact ⟨h.acyclic_evaluation.nodup hchain, h.length_le_size hi hchain⟩

/-! ### What else is computed from levels -/

/-- Formulas read the levels of traits only. -/
theorem readerFrom_congr_of_lt (hlevels : ∀ i < s.database.size, levels i = levels' i) :
    s.readerFrom levels = s.readerFrom levels' := by
  have hplace (name : String) (i : Nat) (hname : s.database.indexOf? name = some i) :
      levels i = levels' i :=
    hlevels i (h.indexed.lt_size hname)
  rw [readerFrom, readerFrom]
  congr 1
  · funext name
    split
    · rename_i i hname
      exact hplace name i hname
    · rfl
  · funext name
    split
    · rename_i i hname
      exact truthFrom_congr rfl rfl (hplace name i hname)
    · rfl

/-- Costs are computed from the levels of traits only. -/
theorem costFrom_congr_of_lt (hlevels : ∀ i < s.database.size, levels i = levels' i) :
    s.costFrom levels i = s.costFrom levels' i := by
  have hsee (f : Formula) : SeeAlike s s levels levels' (s.database.placesIn f) := by
    intro j hj
    obtain ⟨name, -, hname⟩ := List.mem_filterMap.1 hj
    exact ⟨rfl, hlevels j (h.indexed.lt_size hname)⟩
  exact costFrom_congr rfl rfl (fun _ _ _ _ ↦ rfl) (fun _ _ f _ ↦ hsee f)
    fun _ _ _ _ effect _ ↦ hsee effect.formula

/-- All levels that formulas read are known. -/
theorem reader_eq : s.reader = s.readerFrom fun i ↦ some (s.level i) :=
  readerFrom_congr_of_lt h fun _ hi ↦ levels_eq_some_level h hi

theorem reader_total : s.reader.Total := by
  rw [reader_eq h]
  exact readerFrom_total fun _ ↦ Option.some_ne_none _

theorem costFrom_levels_ne_none : s.costFrom s.levels i ≠ none := by
  rw [costFrom_congr_of_lt h fun _ hi ↦ levels_eq_some_level h hi]
  exact costFrom_ne_none fun _ ↦ Option.some_ne_none _

theorem truthFrom_levels_ne_none (hi : i < s.database.size) : s.truthFrom s.levels i ≠ none := by
  have htruth : s.truthFrom s.levels i = s.truthFrom (fun j ↦ some (s.level j)) i :=
    truthFrom_congr rfl rfl (levels_eq_some_level h hi)
  rw [htruth]
  exact truthFrom_ne_none fun _ ↦ Option.some_ne_none _

end Checked

/-! ### Loaded databases -/

/-- What an evaluation gives, whatever it is computed from, when it is not given up and every larger
bound on the steps gives the same. -/
def Ends {α : Type} (s : Sheet) (evaluate : (Nat → Option (Option Amount)) → Option α) : Prop :=
  evaluate s.levels ≠ none ∧
    ∀ bound, s.database.size ≤ bound → evaluate (s.levelWithin bound) = evaluate s.levels

/-- **Every evaluation over a loaded database ends**, whatever has been purchased: the levels,
truths and costs of all traits, and all values of all formulas, are there with as many steps as
there are traits, and are the same with more. No chain of calls meets a trait twice. -/
theorem evaluation_terminates {sources : List Source} {preferences : LoadPreferences}
    (hload : Database.load sources preferences = .ok s.database) :
    (∀ i < s.database.size, s.Ends (fun levels ↦ levels i) ∧ s.Ends (s.truthFrom · i) ∧
      s.Ends (s.costFrom · i)) ∧
    (∀ (f : Formula) (own : Amount), s.Ends (fun levels ↦ f.integer? (s.readerFrom levels) own) ∧
      s.Ends (fun levels ↦ f.truth? (s.readerFrom levels) own) ∧
      s.Ends (fun levels ↦ f.percent? (s.readerFrom levels) own)) ∧
    (∀ i path, i < s.database.size → (i :: path).IsChain s.Calls →
      (i :: path).Nodup ∧ (i :: path).length ≤ s.database.size) := by
  have h : s.database.Checked := Database.checked_of_load hload
  have hlevels {bound : Nat} (hbound : s.database.size ≤ bound) (i : Nat)
      (hi : i < s.database.size) : s.levelWithin bound i = s.levels i :=
    levelWithin_eq_levels h hi hbound
  have hreader {bound : Nat} (hbound : s.database.size ≤ bound) :
      s.readerFrom (s.levelWithin bound) = s.readerFrom s.levels :=
    readerFrom_congr_of_lt h (hlevels hbound)
  refine ⟨fun i hi ↦ ⟨⟨levels_ne_none h hi, fun _ hbound ↦ hlevels hbound i hi⟩, ?_, ?_⟩,
    fun f own ↦ ⟨?_, ?_, ?_⟩, fun i path hi hpath ↦ chain_of_calls h hi hpath⟩
  · exact ⟨truthFrom_levels_ne_none h hi,
      fun _ hbound ↦ truthFrom_congr rfl rfl (hlevels hbound i hi)⟩
  · exact ⟨costFrom_levels_ne_none h, fun _ hbound ↦ costFrom_congr_of_lt h (hlevels hbound)⟩
  · refine ⟨Formula.integer?_ne_none (reader_total h), fun _ hbound ↦ ?_⟩
    dsimp only
    rw [hreader hbound]
  · refine ⟨Formula.truth?_ne_none (reader_total h), fun _ hbound ↦ ?_⟩
    dsimp only
    rw [hreader hbound]
  · refine ⟨Formula.percent?_ne_none (reader_total h), fun _ hbound ↦ ?_⟩
    dsimp only
    rw [hreader hbound]

/-- The level of a skill that starts from an attribute, and its cost. -/
theorem evaluation_terminates_small :
    Database.load [Database.smallSource] ⟨[], false⟩ = .ok Database.small ∧
      Ends ⟨Database.small, #[0, 1]⟩ (fun levels ↦ levels 1) ∧
      Ends ⟨Database.small, #[0, 1]⟩ (costFrom ⟨Database.small, #[0, 1]⟩ · 1) := by
  have h := evaluation_terminates (s := ⟨Database.small, #[0, 1]⟩) Database.load_small
  exact ⟨Database.load_small, (h.1 1 (by decide)).1, (h.1 1 (by decide)).2.2⟩

end Sheet
end PointBuy
