import PointBuy.Proofs.Formula.Reading
import PointBuy.Proofs.Reckoning

/-!
# Exact values of formulas

The values of formulas are defined once more, with integers in the place of amounts: the same
operators are evaluated in the same order, absent operands make absent results and quotients are
rounded toward zero, but no result is brought into the range. Each result of an operator is passed.

The value of a formula follows the exact one (`integer?_follows`, `percent?_follows`), because each
operation on amounts is the exact one brought into the range. The exact value gives up only where
the reader does on a name that the formula mentions (`exactInteger_settles` and its companions).

## Main definitions

* `Formula.exactInteger`, `Formula.exactTruth`, `Formula.exactPercent` : exact values of a formula.

## Main statements

* `Formula.integer?_follows`, `Formula.percent?_follows` : values follow exact values.
-/

namespace PointBuy.Formula

open Amount (clamp)
open Reckoning

/-! ### Exact values -/

/-- What formulas read, as integers. -/
structure ExactReader where
  level : String → Reckoning (Option Int)
  truth : String → Reckoning Bool

/-- The exact result of an operator on two integers, if it has one. -/
def Operator.exactResult (op : Operator) (a b : Int) : Option Int :=
  match op with
  | .add => some (a + b)
  | .subtract => some (a - b)
  | .multiply => some (a * b)
  | .divide => if b = 0 then none else some (a.tdiv b)
  | .lessEqual | .less | .greaterEqual | .greater | .and | .or | .comma => none

/-- The comparison of integers that an operator makes, if it makes one. -/
def Operator.exactComparison : Operator → Option (Int → Int → Bool)
  | .less => some fun a b ↦ decide (a < b)
  | .lessEqual => some fun a b ↦ decide (a ≤ b)
  | .greater => some fun a b ↦ decide (b < a)
  | .greaterEqual => some fun a b ↦ decide (b ≤ a)
  | .multiply | .divide | .add | .subtract | .and | .or | .comma => none

mutual

/-- The exact integer that a formula stands for. -/
def exactInteger (reader : ExactReader) (own : Int) : Formula → Reckoning (Option Int)
  | .integer value => pure (some value.val)
  | .level => pure (some own)
  | .trait name => reader.level name
  | .negate operand => do
    let a ← operand.exactInteger reader own
    passing? (a.map (- ·))
  | .binary op left right => do
    match ← left.exactInteger reader own with
    | none => return none
    | some a =>
      match ← right.exactInteger reader own with
      | none => return none
      | some b => passing? (op.exactResult a b)
  | .conditional condition whenTrue whenFalse => do
    if ← condition.exactTruth reader own then whenTrue.exactInteger reader own
    else whenFalse.exactInteger reader own
  | .percent _ | .boolean _ => pure none

/-- The truth that a formula stands for, with exact integers in its comparisons. -/
def exactTruth (reader : ExactReader) (own : Int) : Formula → Reckoning Bool
  | .boolean value => pure value
  | .trait name => reader.truth name
  | .binary op left right =>
    match op with
    | .and => do if ← left.exactTruth reader own then right.exactTruth reader own else return false
    | .or => do if ← left.exactTruth reader own then return true else right.exactTruth reader own
    | _ =>
      match op.exactComparison with
      | none => pure false
      | some compare => do
        let a ← left.exactInteger reader own
        let b ← right.exactInteger reader own
        match a, b with
        | some a, some b => return compare a b
        | _, _ => return false
  | .conditional condition whenTrue whenFalse => do
    if ← condition.exactTruth reader own then whenTrue.exactTruth reader own
    else whenFalse.exactTruth reader own
  | .level | .integer _ | .percent _ | .negate _ => pure false

end

/-- The exact percentage of a product, where one factor is the integer that scales it and the
percentage of the other one is given. -/
def exactScaled (reader : ExactReader) (own : Int) (scale : Formula)
    (percent : Reckoning (Option Int)) : Reckoning (Option Int) :=
  if scale.mentionsLevel then do
    match ← percent with
    | none => return none
    | some points =>
      let factor ← scale.exactInteger reader own
      passing? (factor.map (· * points))
  else pure none

/-- The exact percentage that a formula stands for, in percent. -/
def exactPercent (reader : ExactReader) (own : Int) : Formula → Reckoning (Option Int)
  | .percent hundredths => pure (some hundredths.val)
  | .binary .multiply left right => do
    match ← exactScaled reader own left (right.exactPercent reader own) with
    | some points => return some points
    | none => exactScaled reader own right (left.exactPercent reader own)
  | _ => pure none

/-! ### Operators -/

/-- The result on amounts is the exact one, brought into the range. -/
theorem Operator.map_clamp_exactResult (op : Operator) (a b : Amount) :
    (op.exactResult a.val b.val).map clamp = op.apply? a b := by
  cases op
  case divide =>
    rw [exactResult, Operator.apply?]
    split <;> rfl
  all_goals rfl

/-! ### Values follow -/

section Follows

variable {exactReader : ExactReader} {reader : Reader} {own : Amount} {f : Formula}

/-- What a reader says of names follows what another one says of them in integers. -/
structure ExactReader.FollowedBy (exactReader : ExactReader) (reader : Reader) : Prop where
  level : ∀ name, Follows Same (exactReader.level name) (reader.level name)
  truth : ∀ name, Follows Eq (exactReader.truth name) (reader.truth name)

theorem integer?_truth?_follow (h : exactReader.FollowedBy reader) :
    Follows Same (f.exactInteger exactReader own.val) (f.integer? reader own) ∧
      Follows Eq (f.exactTruth exactReader own.val) (f.truth? reader own) := by
  induction f with
  | trait name => exact ⟨h.level name, h.truth name⟩
  | level | integer | percent | boolean => exact ⟨follows_pure rfl, follows_pure rfl⟩
  | negate operand ih =>
    refine ⟨follows_bind_same ih.1 (follows_pure rfl) fun a ↦ ?_, follows_pure rfl⟩
    exact follows_passing? (some (-a.val))
  | binary op left right ihl ihr =>
    constructor
    · refine follows_bind_same ihl.1 (follows_pure rfl) fun a ↦
        follows_bind_same ihr.1 (follows_pure rfl) fun b ↦ ?_
      have hresult := follows_passing? (op.exactResult a.val b.val)
      rw [op.map_clamp_exactResult] at hresult
      exact hresult
    · cases op
      case and =>
        refine follows_bind ihl.2 fun a _ heq ↦ ?_
        cases heq
        cases a with
        | false => exact follows_pure rfl
        | true => exact ihr.2
      case or =>
        refine follows_bind ihl.2 fun a _ heq ↦ ?_
        cases heq
        cases a with
        | false => exact ihr.2
        | true => exact follows_pure rfl
      case less | lessEqual | greater | greaterEqual =>
        refine follows_bind ihl.1 fun _ a hsame ↦ follows_bind ihr.1 fun _ b hsame' ↦ ?_
        cases hsame
        cases hsame'
        cases a <;> cases b <;> exact follows_pure rfl
      all_goals exact follows_pure rfl
  | conditional condition whenTrue whenFalse ihc iht ihf =>
    constructor <;> refine follows_bind ihc.2 fun c _ heq ↦ ?_ <;> cases heq <;> cases c
    · exact ihf.1
    · exact iht.1
    · exact ihf.2
    · exact iht.2

/-- **An integer follows the exact one.** -/
theorem integer?_follows (h : exactReader.FollowedBy reader) :
    Follows Same (f.exactInteger exactReader own.val) (f.integer? reader own) :=
  (integer?_truth?_follow h).1

theorem scaled?_follows (h : exactReader.FollowedBy reader) {scale percent : Formula}
    (hpercent : Follows Same (percent.exactPercent exactReader own.val)
      (percent.percent? reader own)) :
    Follows Same (exactScaled exactReader own.val scale (percent.exactPercent exactReader own.val))
      (scaled? reader own scale percent) := by
  rw [exactScaled, scaled?]
  split
  case isFalse => exact follows_pure rfl
  case isTrue =>
    refine follows_bind_same hpercent (follows_pure rfl) fun points ↦
      follows_bind_same (integer?_follows h) (follows_pure rfl) fun factor ↦ ?_
    exact follows_passing? (some (factor.val * points.val))

/-- **A percentage follows the exact one.** -/
theorem percent?_follows (h : exactReader.FollowedBy reader) :
    Follows Same (f.exactPercent exactReader own.val) (f.percent? reader own) := by
  induction f with
  | trait | level | integer | percent | boolean | negate | conditional => exact follows_pure rfl
  | binary op left right ihl ihr =>
    cases op
    case multiply =>
      rw [percent?_multiply, exactPercent]
      exact follows_bind_same (scaled?_follows h ihr) (scaled?_follows h ihl)
        fun _ ↦ follows_pure rfl
    all_goals exact follows_pure rfl

end Follows

/-! ### Exact values that are not given up -/

section Settles

variable {reader : ExactReader} {own : Int} {f : Formula} {names : List String}

/-- A reader settles what it is asked of some names. -/
def ExactReader.Settles (reader : ExactReader) (names : List String) : Prop :=
  ∀ name ∈ names, Reckoning.Settles (reader.level name) ∧ Reckoning.Settles (reader.truth name)

namespace ExactReader.Settles

variable {names' : List String}

theorem left (h : reader.Settles (names ++ names')) : reader.Settles names :=
  fun name hname ↦ h name (List.mem_append_left names' hname)

theorem right (h : reader.Settles (names ++ names')) : reader.Settles names' :=
  fun name hname ↦ h name (List.mem_append_right names hname)

end ExactReader.Settles

theorem exactInteger_exactTruth_settle (h : reader.Settles f.mentions) :
    Settles (f.exactInteger reader own) ∧ Settles (f.exactTruth reader own) := by
  induction f with
  | trait name => exact h name (List.mem_singleton_self name)
  | level | integer | percent | boolean => exact ⟨settles_pure _, settles_pure _⟩
  | negate operand ih =>
    exact ⟨settles_bind (ih h).1 fun _ ↦ settles_passing? _, settles_pure _⟩
  | binary op left right ihl ihr =>
    have ihl := ihl h.left
    have ihr := ihr h.right
    constructor
    · exact settles_bind_optional ihl.1 (settles_pure _) fun _ ↦
        settles_bind_optional ihr.1 (settles_pure _) fun _ ↦ settles_passing? _
    · cases op
      case and | or =>
        refine settles_bind ihl.2 fun a ↦ ?_
        cases a
        all_goals first | exact ihr.2 | exact settles_pure _
      case less | lessEqual | greater | greaterEqual =>
        refine settles_bind ihl.1 fun a ↦ settles_bind ihr.1 fun b ↦ ?_
        cases a <;> cases b <;> exact settles_pure _
      all_goals exact settles_pure _
  | conditional condition whenTrue whenFalse ihc iht ihf =>
    have ihc := ihc h.left
    have iht := iht h.right.left
    have ihf := ihf h.right.right
    constructor <;> refine settles_bind ihc.2 fun c ↦ ?_ <;> cases c
    · exact ihf.1
    · exact iht.1
    · exact ihf.2
    · exact iht.2

/-- **An exact integer is given up only by the reader.** -/
theorem exactInteger_settles (h : reader.Settles f.mentions) :
    Settles (f.exactInteger reader own) :=
  (exactInteger_exactTruth_settle h).1

theorem exactScaled_settles {scale : Formula} (h : reader.Settles scale.mentions)
    {percent : Reckoning (Option Int)} (hpercent : Settles percent) :
    Settles (exactScaled reader own scale percent) := by
  rw [exactScaled]
  split
  case isFalse => exact settles_pure _
  case isTrue =>
    exact settles_bind_optional hpercent (settles_pure _) fun _ ↦
      settles_bind (exactInteger_settles h) fun _ ↦ settles_passing? _

/-- **An exact percentage is given up only by the reader.** -/
theorem exactPercent_settles (h : reader.Settles f.mentions) :
    Settles (f.exactPercent reader own) := by
  induction f with
  | trait | level | integer | percent | boolean | negate | conditional => exact settles_pure _
  | binary op left right ihl ihr =>
    cases op
    case multiply =>
      rw [exactPercent]
      exact settles_bind_optional (exactScaled_settles h.left (ihr h.right))
        (exactScaled_settles h.right (ihl h.left)) fun _ ↦ settles_pure _
    all_goals exact settles_pure _

end Settles

end PointBuy.Formula
