import Mathlib.Data.Option.NAry
import PointBuy.Proofs.Database.Sorting
import PointBuy.Proofs.Formula.Reading

/-!
# Strict values of formulas

The value of a formula is defined for every formula: where a formula makes no sense as an integer
its integer is absent, and where it makes no sense as a truth it is false. A strict evaluation takes
the same steps, but stops with a defect where the other one would go on with such a value. Of a
formula that has the sort it is read as, both give the same, so that no evaluation of it ever comes
to a step that makes no sense (`agrees_of_sorted`).

A percentage looks at both factors of a product for the one that is the percentage, so that looking
at an integer for a percentage is no defect. What a percentage is computed from is said by `Scaled`:
the literal, and the integers that scale it.

## Main definitions

* `Defect` : what an evaluation of a checked formula never meets.
* `strictInteger`, `strictTruth`, `strictPercent` : strict values of a formula.
* `Scaled` : a percentage with its scales.

## Main statements

* `agrees_of_sorted` : the strict value of a formula of a sort is its value.
* `Scaled.percent?_eq_none_iff` : a percentage is absent where one of its scales is.
-/

namespace PointBuy

/-- What an evaluation over a checked database never meets. -/
inductive Defect where
  /-- A name that is not defined. -/
  | undefinedName (name : String)
  /-- A percentage, a truth, a comparison, a connective or a comma in the place of an integer. -/
  | notInteger (got : Formula)
  /-- The name of an advantage that one has or has not in the place of an integer. -/
  | notIntegerName (name : String)
  | zeroDivisor (got : Formula)
  /-- A purchased level, a number, a percentage or arithmetic in the place of a truth. -/
  | notTruth (got : Formula)
  /-- The name of an advantage that is bought in levels, or of an attribute, in the place of a
  truth. -/
  | notTruthName (name : String)
  /-- A skill whose chain of inheritance does not end in a skill with a formula of its own, or that
  has no difficulty. -/
  | noRoot (place : Nat)
  /-- A level that would take more steps than it may. -/
  | endless
deriving DecidableEq

namespace Formula

/-! ### Strict values -/

/-- What is known, or a defect where it has been given up. -/
def known {α : Type} : Option α → Except Defect α
  | some a => .ok a
  | none => .error .endless

theorem known_bind {α β : Type} (x : Option α) (g : α → Option β) :
    known (x >>= g) = known x >>= fun a ↦ known (g a) := by
  cases x <;> rfl

/-- What formulas read, strictly. -/
structure StrictReader where
  level : String → Except Defect (Option Amount)
  truth : String → Except Defect Bool

/-- Whether an operator makes an integer of two integers. -/
def Operator.isArithmetic : Operator → Bool
  | .add | .subtract | .multiply | .divide => true
  | .lessEqual | .less | .greaterEqual | .greater | .and | .or | .comma => false

mutual

/-- The integer that a formula stands for, where nothing else stands in the place of an integer. -/
def strictInteger (reader : StrictReader) (own : Amount) : Formula → Except Defect (Option Amount)
  | .integer value => .ok (some value)
  | .level => .ok (some own)
  | .trait name => reader.level name
  | .negate operand => do return (← operand.strictInteger reader own).map (- ·)
  | .binary op left right =>
    if op.isArithmetic then do
      match ← left.strictInteger reader own with
      | none => return none
      | some a =>
        match ← right.strictInteger reader own with
        | none => return none
        | some b =>
          match op.apply? a b with
          | some c => return some c
          | none => throw (.zeroDivisor (.binary op left right))
    else .error (.notInteger (.binary op left right))
  | .conditional condition whenTrue whenFalse => do
    if ← condition.strictTruth reader own then whenTrue.strictInteger reader own
    else whenFalse.strictInteger reader own
  | .percent hundredths => .error (.notInteger (.percent hundredths))
  | .boolean value => .error (.notInteger (.boolean value))

/-- The truth that a formula stands for, where nothing else stands in the place of a truth. -/
def strictTruth (reader : StrictReader) (own : Amount) : Formula → Except Defect Bool
  | .boolean value => .ok value
  | .trait name => reader.truth name
  | .binary op left right =>
    match op with
    | .and => do
      if ← left.strictTruth reader own then right.strictTruth reader own else return false
    | .or => do
      if ← left.strictTruth reader own then return true else right.strictTruth reader own
    | _ =>
      match op.comparison? with
      | none => .error (.notTruth (.binary op left right))
      | some compare => do
        let a ← left.strictInteger reader own
        let b ← right.strictInteger reader own
        match a, b with
        | some a, some b => return compare a b
        | _, _ => return false
  | .conditional condition whenTrue whenFalse => do
    if ← condition.strictTruth reader own then whenTrue.strictTruth reader own
    else whenFalse.strictTruth reader own
  | .level => .error (.notTruth .level)
  | .integer value => .error (.notTruth (.integer value))
  | .percent hundredths => .error (.notTruth (.percent hundredths))
  | .negate operand => .error (.notTruth (.negate operand))

end

/-- The percentage of a product, where one factor is the integer that scales it and the percentage
of the other one is given. -/
def strictScaled (reader : StrictReader) (own : Amount) (scale : Formula)
    (percent : Except Defect (Option Amount)) : Except Defect (Option Amount) :=
  if scale.mentionsLevel then do
    match ← percent with
    | none => return none
    | some points => return (← scale.strictInteger reader own).map (· * points)
  else .ok none

/-- The percentage that a formula stands for, where the integers that scale it are strict. -/
def strictPercent (reader : StrictReader) (own : Amount) : Formula → Except Defect (Option Amount)
  | .percent hundredths => .ok (some hundredths)
  | .binary .multiply left right => do
    match ← strictScaled reader own left (right.strictPercent reader own) with
    | some points => return some points
    | none => strictScaled reader own right (left.strictPercent reader own)
  | _ => .ok none

/-! ### Formulas of a sort -/

section Sorted

variable {scope : Scope} {strict : StrictReader} {reader : Reader} {own : Amount} {f : Formula}

/-- A strict reader knows what a reader says of the names of a sort. -/
structure StrictReader.Follows (strict : StrictReader) (scope : Scope) (reader : Reader) :
    Prop where
  level : ∀ {name t}, scope.database.find? name = some t →
    Scope.admits .integer t.kind = true → strict.level name = known (reader.level name)
  truth : ∀ {name t}, scope.database.find? name = some t →
    Scope.admits .boolean t.kind = true → strict.truth name = known (reader.truth name)

/-- The strict value of a formula, read as a sort, is its value. -/
def Agrees (strict : StrictReader) (reader : Reader) (own : Amount) : ValueSort → Formula → Prop
  | .integer, f => f.strictInteger strict own = known (f.integer? reader own)
  | .boolean, f => f.strictTruth strict own = known (f.truth? reader own)
  | .percent, f => f.strictPercent strict own = known (f.percent? reader own)

/-- An integer has no percentage. -/
theorem percent?_of_integer (h : scope.Sorted .integer f) : f.percent? reader own = some none := by
  induction f with
  | binary op left right ihl ihr =>
    cases op
    case multiply =>
      rw [percent?_multiply, scaled?, scaled?, ihl h.factors.1, ihr h.factors.2]
      cases left.mentionsLevel <;> cases right.mentionsLevel <;> rfl
    all_goals rfl
  | percent => cases h
  | trait | level | integer | boolean | negate | conditional => rfl

theorem strictPercent_of_integer (h : scope.Sorted .integer f) :
    f.strictPercent strict own = .ok none := by
  induction f with
  | binary op left right ihl ihr =>
    cases op
    case multiply =>
      rw [strictPercent, strictScaled, strictScaled, ihl h.factors.1, ihr h.factors.2]
      cases left.mentionsLevel <;> cases right.mentionsLevel <;> rfl
    all_goals rfl
  | percent => cases h
  | trait | level | integer | boolean | negate | conditional => rfl

/-- A product with an integer in the place of the percentage has none. -/
theorem scaled?_of_integer (h : scope.Sorted .integer f) (scale : Formula) :
    scaled? reader own scale f = some none := by
  rw [scaled?, percent?_of_integer h]
  cases scale.mentionsLevel <;> rfl

theorem strictScaled_of_integer (h : scope.Sorted .integer f) (scale : Formula) :
    strictScaled strict own scale (f.strictPercent strict own) = .ok none := by
  rw [strictScaled, strictPercent_of_integer h]
  cases scale.mentionsLevel <;> rfl

theorem strictScaled_eq {scale percent : Formula} (hscale : Agrees strict reader own .integer scale)
    (hpercent : Agrees strict reader own .percent percent) :
    strictScaled strict own scale (percent.strictPercent strict own) =
      known (scaled? reader own scale percent) := by
  rw [strictScaled, scaled?, hscale, hpercent]
  split
  · rcases percent.percent? reader own with - | - | points
    · rfl
    · rfl
    · cases scale.integer? reader own <;> rfl
  · rfl

/-- An operator that has a result on all values of its operands. -/
theorem agrees_binary {op : Operator} {left right : Formula} (harithmetic : op.isArithmetic = true)
    (hresult : ∀ a b, right.integer? reader own = some (some b) → ∃ c, op.apply? a b = some c)
    (hl : Agrees strict reader own .integer left) (hr : Agrees strict reader own .integer right) :
    Agrees strict reader own .integer (.binary op left right) := by
  rw [Agrees, strictInteger, if_pos harithmetic, integer?, hl, hr, known_bind]
  rcases left.integer? reader own with - | - | a
  · rfl
  · rfl
  · rcases hright : right.integer? reader own with - | - | b
    · rfl
    · rfl
    · obtain ⟨c, hc⟩ := hresult a b hright
      simp [known, hc]

/-- A comparison of two integers. -/
theorem agrees_comparison {op : Operator} {left right : Formula}
    {compare : Amount → Amount → Bool} (compares : op.comparison? = some compare)
    (hl : Agrees strict reader own .integer left) (hr : Agrees strict reader own .integer right) :
    Agrees strict reader own .boolean (.binary op left right) := by
  have hvalues : (do
      let a ← left.strictInteger strict own
      let b ← right.strictInteger strict own
      match a, b with
      | some a, some b => return compare a b
      | _, _ => return false) = known (do
      let a ← left.integer? reader own
      let b ← right.integer? reader own
      match a, b with
      | some a, some b => return compare a b
      | _, _ => return false) := by
    rw [hl, hr, known_bind]
    rcases left.integer? reader own with - | a
    · rfl
    · rcases right.integer? reader own with - | b
      · rfl
      · cases a <;> cases b <;> rfl
  cases op
  case less | lessEqual | greater | greaterEqual =>
    obtain rfl := Option.some.inj compares
    exact hvalues
  all_goals cases compares

/-- **The strict value of a formula of a sort is its value.** -/
theorem agrees_of_sorted (hreader : strict.Follows scope reader) {sort : ValueSort}
    (h : scope.Sorted sort f) : Agrees strict reader own sort f := by
  induction h with
  | integer | percent | boolean | level => rfl
  | @name sort name t found admitted =>
    cases sort with
    | integer => exact hreader.level found admitted
    | boolean => exact hreader.truth found admitted
    | percent => cases admitted
  | @negate operand _ ih =>
    rw [Agrees, strictInteger, integer?, ih, known_bind]
    cases operand.integer? reader own <;> rfl
  | @arithmetic op left right harithmetic _ _ ihl ihr =>
    cases op
    case add | subtract | multiply => exact agrees_binary rfl (fun _ _ _ ↦ ⟨_, rfl⟩) ihl ihr
    all_goals cases harithmetic
  | @divide left divisor nonzero _ ihl =>
    -- the divisor is a literal, and so its value is the one that has been checked
    refine agrees_binary rfl (fun a b hright ↦ ?_) ihl rfl
    obtain rfl := Option.some.inj (Option.some.inj hright)
    exact ⟨_, if_neg nonzero⟩
  | comparison compares _ _ ihl ihr => exact agrees_comparison compares ihl ihr
  | @and left right _ _ ihl ihr =>
    rw [Agrees, strictTruth, truth?, ihl, ihr, known_bind]
    rcases left.truth? reader own with - | - | - <;> rfl
  | @or left right _ _ ihl ihr =>
    rw [Agrees, strictTruth, truth?, ihl, ihr, known_bind]
    rcases left.truth? reader own with - | - | - <;> rfl
  | @scaledLeft scale percent mentions hscale _ ihs ihp =>
    rw [Agrees, strictPercent, percent?_multiply, strictScaled_eq ihs ihp,
      strictScaled_of_integer hscale, scaled?_of_integer hscale]
    rcases scaled? reader own scale percent with - | - | points <;> rfl
  | @scaledRight percent scale mentions _ hscale ihp ihs =>
    -- the left factor is tried first, and has no percentage to offer
    rw [Agrees, strictPercent, percent?_multiply, strictScaled_eq ihs ihp,
      strictScaled_of_integer hscale, scaled?_of_integer hscale]
    rfl
  | @conditional sort condition whenTrue whenFalse notPercent _ _ _ ihc iht ihf =>
    cases sort with
    | integer =>
      rw [Agrees, strictInteger, integer?, ihc, iht, ihf, known_bind]
      rcases condition.truth? reader own with - | - | - <;> rfl
    | boolean =>
      rw [Agrees, strictTruth, truth?, ihc, iht, ihf, known_bind]
      rcases condition.truth? reader own with - | - | - <;> rfl
    | percent => exact absurd rfl notPercent

end Sorted

/-! ### Percentages and their scales -/

/-- `Scaled scope scales literal f` : the percentage of the formula is the literal, scaled by the
integers of the scales, the outermost first. -/
inductive Scaled (scope : Scope) : List Formula → Amount → Formula → Prop
  | literal (hundredths : Amount) : Scaled scope [] hundredths (.percent hundredths)
  | left {scales : List Formula} {literal : Amount} {scale percent : Formula}
      (mentions : scale.mentionsLevel = true) (ofScale : scope.Sorted .integer scale)
      (inner : Scaled scope scales literal percent) :
      Scaled scope (scale :: scales) literal (.binary .multiply scale percent)
  | right {scales : List Formula} {literal : Amount} {percent scale : Formula}
      (mentions : scale.mentionsLevel = true) (ofScale : scope.Sorted .integer scale)
      (inner : Scaled scope scales literal percent) :
      Scaled scope (scale :: scales) literal (.binary .multiply percent scale)

section Scaled

variable {scope : Scope} {reader : Reader} {own : Amount} {f : Formula}

/-- A percentage has a literal and scales. -/
theorem exists_scaled (h : scope.Sorted .percent f) :
    ∃ scales literal, Scaled scope scales literal f := by
  induction h using Scope.Sorted.percent_induction with
  | literal hundredths => exact ⟨[], hundredths, .literal hundredths⟩
  | left mentions ofScale _ ih =>
    obtain ⟨scales, literal, inner⟩ := ih
    exact ⟨_, literal, .left mentions ofScale inner⟩
  | right mentions _ ofScale ih =>
    obtain ⟨scales, literal, inner⟩ := ih
    exact ⟨_, literal, .right mentions ofScale inner⟩

/-- A product with an integer is scaled by it, on whichever side it stands. -/
theorem percent?_of_scale {scale percent : Formula} (ofScale : scope.Sorted .integer scale) :
    (binary .multiply scale percent).percent? reader own = scaled? reader own scale percent ∧
      (binary .multiply percent scale).percent? reader own = scaled? reader own scale percent := by
  rw [percent?_multiply, percent?_multiply, scaled?_of_integer ofScale]
  rcases scaled? reader own scale percent with - | - | points <;> exact ⟨rfl, rfl⟩

/-- What is scaled is the product of the integer and of the percentage, absent where one of them
is. -/
theorem scaled?_eq {scale percent : Formula} {amount points : Option Amount}
    (mentions : scale.mentionsLevel = true) (hscale : scale.integer? reader own = some amount)
    (hpercent : percent.percent? reader own = some points) :
    scaled? reader own scale percent = some (Option.map₂ (· * ·) amount points) := by
  rw [scaled?, if_pos mentions, hscale, hpercent]
  cases points <;> cases amount <;> rfl

theorem scaled?_eq_none_iff (hreader : reader.Total) {scale percent : Formula}
    (mentions : scale.mentionsLevel = true) :
    scaled? reader own scale percent = some none ↔
      scale.integer? reader own = some none ∨ percent.percent? reader own = some none := by
  obtain ⟨amount, hamount⟩ : ∃ amount, scale.integer? reader own = some amount :=
    Option.ne_none_iff_exists'.1 (integer?_ne_none hreader)
  obtain ⟨points, hpoints⟩ : ∃ points, percent.percent? reader own = some points :=
    Option.ne_none_iff_exists'.1 (percent?_ne_none hreader)
  rw [scaled?_eq mentions hamount hpoints, hamount, hpoints, Option.some.injEq,
    Option.map₂_eq_none_iff, Option.some.injEq, Option.some.injEq]

/-- **A percentage is absent just where one of its scales is.** -/
theorem Scaled.percent?_eq_none_iff (hreader : reader.Total) {scales : List Formula}
    {literal : Amount} (h : Scaled scope scales literal f) :
    f.percent? reader own = some none ↔
      ∃ scale ∈ scales, scale.integer? reader own = some none := by
  induction h with
  | literal hundredths => simp [percent?]
  | left mentions ofScale _ ih =>
    rw [(percent?_of_scale ofScale).1, scaled?_eq_none_iff hreader mentions, ih]
    simp
  | right mentions ofScale _ ih =>
    rw [(percent?_of_scale ofScale).2, scaled?_eq_none_iff hreader mentions, ih]
    simp

end Scaled

end Formula
end PointBuy
