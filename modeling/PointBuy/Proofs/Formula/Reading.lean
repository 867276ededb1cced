import PointBuy.Formula.Value

/-!
# What the value of a formula rests on

The value of a formula rests on what its reader says of the names that it mentions, and on nothing
else that the reader might say: two readers that agree on these names give the same values
(`integer?_congr`, `percent?_congr`). A formula gives up only where its reader does,
so a reader that never gives up gives every formula a value (`integer?_ne_none` and its companions).
-/

namespace PointBuy.Formula

variable {reader reader' : Reader} {own : Amount} {f : Formula}

/-! ### Products of percentages -/

/-- The percentage of a product, where one factor is the percentage and the other the integer that
scales it. -/
def scaled? (reader : Reader) (own : Amount) (scale percent : Formula) : Option (Option Amount) :=
  if scale.mentionsLevel then do
    match ← percent.percent? reader own with
    | none => return none
    | some points => return (← scale.integer? reader own).map (· * points)
  else some none

/-- A product is scaled by its left factor, or else by its right one. -/
theorem percent?_multiply (reader : Reader) (own : Amount) (left right : Formula) :
    (binary .multiply left right).percent? reader own = (do
      match ← scaled? reader own left right with
      | some points => return some points
      | none => scaled? reader own right left) := by
  rw [percent?, scaled?, scaled?]
  cases left.mentionsLevel with
  | false => rfl
  | true =>
    -- the left factor scales only if the right one has a percentage
    rcases right.percent? reader own with - | - | points
    · rfl
    · rfl
    · cases left.integer? reader own <;> rfl

/-! ### Readers that agree -/

/-- Two readers say the same of each of some names. -/
def Reader.Agree (reader reader' : Reader) (names : List String) : Prop :=
  ∀ name ∈ names, reader.level name = reader'.level name ∧ reader.truth name = reader'.truth name

namespace Reader.Agree

variable {names names' : List String}

theorem left (h : reader.Agree reader' (names ++ names')) : reader.Agree reader' names :=
  fun name hname ↦ h name (List.mem_append_left names' hname)

theorem right (h : reader.Agree reader' (names ++ names')) : reader.Agree reader' names' :=
  fun name hname ↦ h name (List.mem_append_right names hname)

end Reader.Agree

/-- Integers and truths rest on the names that the formula mentions. The two are shown together,
since conditions stand inside integers and comparisons inside truths. -/
theorem integer?_truth?_congr (h : reader.Agree reader' f.mentions) :
    f.integer? reader own = f.integer? reader' own ∧
      f.truth? reader own = f.truth? reader' own := by
  induction f with
  | trait name => exact h name (List.mem_singleton_self name)
  | level | integer | percent | boolean => exact ⟨rfl, rfl⟩
  | negate operand ih =>
    refine ⟨?_, rfl⟩
    rw [integer?, integer?, (ih h).1]
  | binary op left right ihl ihr =>
    obtain ⟨hli, hlt⟩ := ihl h.left
    obtain ⟨hri, hrt⟩ := ihr h.right
    constructor
    · rw [integer?, integer?, hli, hri]
    · cases op <;> simp only [truth?, hli, hri, hlt, hrt]
  | conditional condition whenTrue whenFalse ihc iht ihf =>
    have hc := (ihc h.left).2
    obtain ⟨hti, htt⟩ := iht h.right.left
    obtain ⟨hfi, hft⟩ := ihf h.right.right
    constructor
    · rw [integer?, integer?, hc, hti, hfi]
    · rw [truth?, truth?, hc, htt, hft]

/-- An integer rests on the names that the formula mentions. -/
theorem integer?_congr (h : reader.Agree reader' f.mentions) :
    f.integer? reader own = f.integer? reader' own :=
  (integer?_truth?_congr h).1

/-- A percentage rests on the names that the formula mentions. -/
theorem percent?_congr (h : reader.Agree reader' f.mentions) :
    f.percent? reader own = f.percent? reader' own := by
  induction f with
  | trait | level | integer | percent | boolean | negate | conditional => rfl
  | binary op left right ihl ihr =>
    cases op
    case multiply =>
      simp only [percent?_multiply, scaled?, ihl h.left, ihr h.right, integer?_congr h.left,
        integer?_congr h.right]
    all_goals rfl

/-! ### Readers that never give up -/

/-- A reader that never gives up on a trait. -/
structure Reader.Total (reader : Reader) : Prop where
  level : ∀ name, reader.level name ≠ none
  truth : ∀ name, reader.truth name ≠ none

/-- A sequence gives up only where one of its parts does. -/
theorem bind_ne_none {α β : Type} {x : Option α} {g : α → Option β} (hx : x ≠ none)
    (hg : ∀ a, g a ≠ none) : (x >>= g) ≠ none := by
  obtain ⟨a, rfl⟩ := Option.ne_none_iff_exists'.1 hx
  exact hg a

theorem integer?_truth?_ne_none (h : reader.Total) :
    f.integer? reader own ≠ none ∧ f.truth? reader own ≠ none := by
  induction f with
  | trait name => exact ⟨h.level name, h.truth name⟩
  | level | integer | percent | boolean => exact ⟨Option.some_ne_none _, Option.some_ne_none _⟩
  | negate operand ih =>
    exact ⟨bind_ne_none ih.1 fun _ ↦ Option.some_ne_none _, Option.some_ne_none _⟩
  | binary op left right ihl ihr =>
    constructor
    · refine bind_ne_none ihl.1 fun a ↦ ?_
      cases a with
      | none => exact Option.some_ne_none _
      | some a =>
        refine bind_ne_none ihr.1 fun b ↦ ?_
        cases b <;> exact Option.some_ne_none _
    · cases op
      case and =>
        refine bind_ne_none ihl.2 fun a ↦ ?_
        cases a
        · exact Option.some_ne_none _
        · exact ihr.2
      case or =>
        refine bind_ne_none ihl.2 fun a ↦ ?_
        cases a
        · exact ihr.2
        · exact Option.some_ne_none _
      case less | lessEqual | greater | greaterEqual =>
        refine bind_ne_none ihl.1 fun a ↦ bind_ne_none ihr.1 fun b ↦ ?_
        cases a <;> cases b <;> exact Option.some_ne_none _
      all_goals exact Option.some_ne_none _
  | conditional condition whenTrue whenFalse ihc iht ihf =>
    constructor <;> refine bind_ne_none ihc.2 fun c ↦ ?_ <;> cases c
    · exact ihf.1
    · exact iht.1
    · exact ihf.2
    · exact iht.2

/-- An integer is given up only by the reader. -/
theorem integer?_ne_none (h : reader.Total) : f.integer? reader own ≠ none :=
  (integer?_truth?_ne_none h).1

/-- A truth is given up only by the reader. -/
theorem truth?_ne_none (h : reader.Total) : f.truth? reader own ≠ none :=
  (integer?_truth?_ne_none h).2

theorem scaled?_ne_none (h : reader.Total) {scale percent : Formula}
    (hpercent : percent.percent? reader own ≠ none) : scaled? reader own scale percent ≠ none := by
  rw [scaled?]
  split
  · refine bind_ne_none hpercent fun points ↦ ?_
    cases points with
    | none => exact Option.some_ne_none _
    | some => exact bind_ne_none (integer?_ne_none h) fun _ ↦ Option.some_ne_none _
  · exact Option.some_ne_none _

/-- A percentage is given up only by the reader. -/
theorem percent?_ne_none (h : reader.Total) : f.percent? reader own ≠ none := by
  induction f with
  | trait | level | integer | percent | boolean | negate | conditional =>
    exact Option.some_ne_none _
  | binary op left right ihl ihr =>
    cases op
    case multiply =>
      rw [percent?_multiply]
      refine bind_ne_none (scaled?_ne_none h ihr) fun onLeft ↦ ?_
      cases onLeft with
      | some => exact Option.some_ne_none _
      | none => exact scaled?_ne_none h ihl
    all_goals exact Option.some_ne_none _

end PointBuy.Formula
