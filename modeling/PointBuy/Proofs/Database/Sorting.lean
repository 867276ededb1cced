import PointBuy.Database.Sorting
import PointBuy.Formula.Value
import PointBuy.Proofs.Except

/-!
# The sorts of formulas as a relation

The check of a formula tries the sorts that its parts may have. What it accepts is said here without
trying anything: a formula has a sort by the rules of `Sorted`, of which there is one for each way
to build it. A proof about checked formulas is an induction on these rules.

## Main statements

* `Scope.sorted_of_check` : what the check accepts has the sort.
* `Scope.check_of_sorted` : what has the sort, the check accepts.
* `Scope.Sorted.percent_induction` : a percentage is built from a literal by scales.
* `Scope.Sorted.not_integer`, `Scope.Sorted.not_boolean` : a percentage has no other sort.
-/

namespace PointBuy.Scope

variable {scope : Scope} {sort : ValueSort} {f : Formula}

/-- Whether an operator makes an integer of any two integers. -/
def isArithmetic : Formula.Operator → Bool
  | .add | .subtract | .multiply => true
  | .divide | .lessEqual | .less | .greaterEqual | .greater | .and | .or | .comma => false

/-- `scope.Sorted sort f` : the formula has the sort, in a scope. -/
inductive Sorted (scope : Scope) : ValueSort → Formula → Prop
  | integer (value : Amount) : Sorted scope .integer (.integer value)
  | percent (hundredths : Amount) : Sorted scope .percent (.percent hundredths)
  | boolean (value : Bool) : Sorted scope .boolean (.boolean value)
  | level (purchases : scope.hasPurchases = true) : Sorted scope .integer .level
  | name {sort : ValueSort} {name : String} {t : Trait} (found : scope.database.find? name = some t)
      (admitted : admits sort t.kind = true) : Sorted scope sort (.trait name)
  | negate {operand : Formula} (inner : Sorted scope .integer operand) :
      Sorted scope .integer (.negate operand)
  | arithmetic {op : Formula.Operator} {left right : Formula} (arithmetic : isArithmetic op = true)
      (onLeft : Sorted scope .integer left) (onRight : Sorted scope .integer right) :
      Sorted scope .integer (.binary op left right)
  | divide {left : Formula} {divisor : Amount} (nonzero : divisor.val ≠ 0)
      (onLeft : Sorted scope .integer left) :
      Sorted scope .integer (.binary .divide left (.integer divisor))
  | comparison {op : Formula.Operator} {left right : Formula}
      {compare : Amount → Amount → Bool} (compares : op.comparison? = some compare)
      (onLeft : Sorted scope .integer left) (onRight : Sorted scope .integer right) :
      Sorted scope .boolean (.binary op left right)
  | and {left right : Formula} (onLeft : Sorted scope .boolean left)
      (onRight : Sorted scope .boolean right) : Sorted scope .boolean (.binary .and left right)
  | or {left right : Formula} (onLeft : Sorted scope .boolean left)
      (onRight : Sorted scope .boolean right) : Sorted scope .boolean (.binary .or left right)
  | scaledLeft {scale percent : Formula} (mentions : scale.mentionsLevel = true)
      (ofScale : Sorted scope .integer scale) (ofPercent : Sorted scope .percent percent) :
      Sorted scope .percent (.binary .multiply scale percent)
  | scaledRight {percent scale : Formula} (mentions : scale.mentionsLevel = true)
      (ofPercent : Sorted scope .percent percent) (ofScale : Sorted scope .integer scale) :
      Sorted scope .percent (.binary .multiply percent scale)
  | conditional {sort : ValueSort} {condition whenTrue whenFalse : Formula}
      (notPercent : sort ≠ .percent) (ofCondition : Sorted scope .boolean condition)
      (ofWhenTrue : Sorted scope sort whenTrue) (ofWhenFalse : Sorted scope sort whenFalse) :
      Sorted scope sort (.conditional condition whenTrue whenFalse)

/-! ### What the check accepts -/

theorem sort_eq_of_checkLiteral {own : ValueSort}
    (h : checkLiteral own sort f = .ok ()) : sort = own := by
  rw [checkLiteral] at h
  split at h
  case isTrue heq => exact heq
  case isFalse => cases h

theorem sorted_of_checkName {name : String} (h : scope.checkName sort name = .ok ()) :
    scope.Sorted sort (.trait name) := by
  rw [checkName] at h
  split at h
  · cases h
  · split at h
    · cases h
    · rename_i t found
      split at h
      case isTrue admitted => exact .name found admitted
      case isFalse => cases h

/-- Two parts that are checked one after the other. -/
theorem sorted_pair {left right : Formula} {sort' : ValueSort}
    (ihl : scope.check sort left = .ok () → scope.Sorted sort left)
    (ihr : scope.check sort' right = .ok () → scope.Sorted sort' right)
    (h : (do scope.check sort left; scope.check sort' right) = .ok ()) :
    scope.Sorted sort left ∧ scope.Sorted sort' right := by
  obtain ⟨_, hl, hr⟩ := Except.bind_eq_ok_iff.1 h
  exact ⟨ihl hl, ihr hr⟩

theorem eq_ok_of_toBool {x : Except AnalysisFault Unit} (h : x.toBool = true) : x = .ok () := by
  cases x with
  | error => cases h
  | ok => rfl

/-- A product that is accepted as a percentage has a factor that scales the other one. -/
theorem sorted_of_checkProduct {left right : Formula}
    (ihl : ∀ {sort}, scope.check sort left = .ok () → scope.Sorted sort left)
    (ihr : ∀ {sort}, scope.check sort right = .ok () → scope.Sorted sort right)
    (h : scope.check .percent (.binary .multiply left right) = .ok ()) :
    scope.Sorted .percent (.binary .multiply left right) := by
  rw [check] at h
  split at h
  case isTrue hscaled =>
    simp only [Bool.or_eq_true, Bool.and_eq_true] at hscaled
    rcases hscaled with ⟨⟨mentions, hl⟩, hr⟩ | ⟨⟨mentions, hr⟩, hl⟩
    · exact .scaledLeft mentions (ihl (eq_ok_of_toBool hl)) (ihr (eq_ok_of_toBool hr))
    · exact .scaledRight mentions (ihl (eq_ok_of_toBool hl)) (ihr (eq_ok_of_toBool hr))
  case isFalse => cases h

/-- A quotient that is accepted has a literal below, which is not zero. -/
theorem sorted_of_checkQuotient {left right : Formula}
    (ihl : scope.check .integer left = .ok () → scope.Sorted .integer left)
    (h : scope.check .integer (.binary .divide left right) = .ok ()) :
    scope.Sorted .integer (.binary .divide left right) := by
  obtain ⟨_, hl, hr⟩ := Except.bind_eq_ok_iff.1 h
  cases right with
  | integer divisor =>
    dsimp only at hr
    split at hr
    case isTrue => cases hr
    case isFalse nonzero => exact .divide nonzero (ihl hl)
  | trait | level | percent | boolean | negate | binary | conditional => cases hr

/-- **What the check accepts has the sort.** -/
theorem sorted_of_check (h : scope.check sort f = .ok ()) : scope.Sorted sort f := by
  induction f generalizing sort with
  | integer value =>
    obtain rfl := sort_eq_of_checkLiteral h
    exact .integer value
  | percent hundredths =>
    obtain rfl := sort_eq_of_checkLiteral h
    exact .percent hundredths
  | boolean value =>
    obtain rfl := sort_eq_of_checkLiteral h
    exact .boolean value
  | level =>
    rw [check] at h
    split at h
    case isTrue => cases h
    case isFalse hsort =>
      split at h
      case isTrue purchases =>
        obtain rfl := Decidable.of_not_not hsort
        exact .level purchases
      case isFalse => cases h
  | trait name => exact sorted_of_checkName h
  | negate operand ih =>
    cases sort with
    | integer => exact .negate (ih h)
    | boolean | percent => cases h
  | binary op left right ihl ihr =>
    cases op with
    | comma => cases sort <;> cases h
    | add | subtract =>
      cases sort with
      | integer =>
        obtain ⟨hl, hr⟩ := sorted_pair ihl ihr h
        exact .arithmetic rfl hl hr
      | boolean | percent => cases h
    | multiply =>
      cases sort with
      | integer =>
        obtain ⟨hl, hr⟩ := sorted_pair ihl ihr h
        exact .arithmetic rfl hl hr
      | boolean => cases h
      | percent => exact sorted_of_checkProduct ihl ihr h
    | divide =>
      cases sort with
      | integer => exact sorted_of_checkQuotient ihl h
      | boolean | percent => cases h
    | less | lessEqual | greater | greaterEqual =>
      cases sort with
      | boolean =>
        obtain ⟨hl, hr⟩ := sorted_pair ihl ihr h
        exact .comparison rfl hl hr
      | integer | percent => cases h
    | and =>
      cases sort with
      | boolean =>
        obtain ⟨hl, hr⟩ := sorted_pair ihl ihr h
        exact .and hl hr
      | integer | percent => cases h
    | or =>
      cases sort with
      | boolean =>
        obtain ⟨hl, hr⟩ := sorted_pair ihl ihr h
        exact .or hl hr
      | integer | percent => cases h
  | conditional condition whenTrue whenFalse ihc iht ihf =>
    cases sort with
    | percent => cases h
    | integer | boolean =>
      obtain ⟨_, hc, h⟩ := Except.bind_eq_ok_iff.1 h
      obtain ⟨ht, hf⟩ := sorted_pair iht ihf h
      exact .conditional (by decide) (ihc hc) ht hf

/-! ### What has the sort -/

theorem admits_percent (kind : TraitKind) : admits .percent kind = false := by
  cases kind <;> rfl

/-- Two parts that have their sorts are checked one after the other. -/
theorem check_pair {left right : Formula} {sort sort' : ValueSort}
    (hl : scope.check sort left = .ok ()) (hr : scope.check sort' right = .ok ()) :
    (do scope.check sort left; scope.check sort' right) = .ok () := by
  rw [hl, Except.ok_bind, hr]

theorem toBool_of_eq_ok {x : Except AnalysisFault Unit} (h : x = .ok ()) : x.toBool = true := by
  rw [h]
  rfl

/-- **What has the sort, the check accepts.** -/
theorem check_of_sorted (h : scope.Sorted sort f) : scope.check sort f = .ok () := by
  induction h with
  | integer | percent | boolean => rfl
  | level purchases => rw [check, if_neg (by decide), if_pos purchases]
  | @name sort name t found admitted =>
    have hsort : sort ≠ .percent := by
      rintro rfl
      rw [admits_percent] at admitted
      cases admitted
    rw [check, checkName, if_neg hsort, found]
    exact if_pos admitted
  | negate _ ih => exact ih
  | @arithmetic op _ _ harithmetic _ _ ihl ihr =>
    cases op with
    | add | subtract | multiply => exact check_pair ihl ihr
    | divide | lessEqual | less | greaterEqual | greater | and | or | comma => cases harithmetic
  | divide nonzero _ ih =>
    rw [check, ih, Except.ok_bind]
    exact if_neg nonzero
  | @comparison op _ _ _ hcompares _ _ ihl ihr =>
    cases op with
    | lessEqual | less | greaterEqual | greater => exact check_pair ihl ihr
    | add | subtract | multiply | divide | and | or | comma => cases hcompares
  | and _ _ ihl ihr | or _ _ ihl ihr => exact check_pair ihl ihr
  | scaledLeft mentions _ _ ihs ihp =>
    rw [check]
    refine if_pos ?_
    rw [mentions, toBool_of_eq_ok ihs, toBool_of_eq_ok ihp]
    rfl
  | scaledRight mentions _ _ ihp ihs =>
    rw [check]
    refine if_pos ?_
    rw [mentions, toBool_of_eq_ok ihs, toBool_of_eq_ok ihp, Bool.or_eq_true]
    exact .inr rfl
  | @conditional sort _ _ _ hsort _ _ _ ihc iht ihf =>
    cases sort with
    | percent => exact absurd rfl hsort
    | integer | boolean =>
      rw [check, ihc, Except.ok_bind]
      exact check_pair iht ihf

/-- **The check accepts exactly what has the sort.** -/
theorem check_eq_ok_iff : scope.check sort f = .ok () ↔ scope.Sorted sort f :=
  ⟨sorted_of_check, check_of_sorted⟩

/-! ### Percentages have no other sort -/

/-- The factors of a product that is an integer are integers. -/
theorem Sorted.factors {left right : Formula}
    (h : scope.Sorted .integer (.binary .multiply left right)) :
    scope.Sorted .integer left ∧ scope.Sorted .integer right := by
  cases h with
  | arithmetic _ onLeft onRight => exact ⟨onLeft, onRight⟩

/-- **Induction on percentages**: from a literal, through scales on either side. -/
theorem Sorted.percent_induction {motive : ∀ f, scope.Sorted .percent f → Prop}
    (literal : ∀ hundredths, motive (.percent hundredths) (.percent hundredths))
    (left : ∀ {scale percent} (mentions : scale.mentionsLevel = true)
      (ofScale : scope.Sorted .integer scale) (ofPercent : scope.Sorted .percent percent),
      motive percent ofPercent →
        motive (.binary .multiply scale percent) (.scaledLeft mentions ofScale ofPercent))
    (right : ∀ {percent scale} (mentions : scale.mentionsLevel = true)
      (ofPercent : scope.Sorted .percent percent) (ofScale : scope.Sorted .integer scale),
      motive percent ofPercent →
        motive (.binary .multiply percent scale) (.scaledRight mentions ofPercent ofScale))
    (h : scope.Sorted .percent f) : motive f h := by
  have hall {sort : ValueSort} {f : Formula} (hf : scope.Sorted sort f) (hsort : sort = .percent)
      (h : scope.Sorted .percent f) : motive f h := by
    induction hf with
    | percent hundredths => exact literal hundredths
    | scaledLeft mentions ofScale ofPercent _ ih =>
      exact left mentions ofScale ofPercent (ih rfl ofPercent)
    | scaledRight mentions ofPercent ofScale ih =>
      exact right mentions ofPercent ofScale (ih rfl ofPercent)
    | name _ admitted =>
      subst hsort
      cases admitted
    | conditional notPercent => exact absurd hsort notPercent
    | integer | boolean | level | negate | arithmetic | divide | comparison | and | or =>
      cases hsort
  exact hall h rfl h

/-- **A percentage is no integer.** Only a product could be both, and then so could the factor that
is the percentage. -/
theorem Sorted.not_integer (h : scope.Sorted .percent f) : ¬ scope.Sorted .integer f := by
  induction h using Sorted.percent_induction with
  | literal hundredths =>
    intro hinteger
    cases hinteger
  | left _ _ _ ih => exact fun hinteger ↦ ih hinteger.factors.2
  | right _ _ _ ih => exact fun hinteger ↦ ih hinteger.factors.1

/-- **A percentage is no truth**, since no literal and no product is one. -/
theorem Sorted.not_boolean (h : scope.Sorted .percent f) : ¬ scope.Sorted .boolean f := by
  intro hboolean
  cases h with
  | percent => cases hboolean
  | name _ admitted => cases admitted
  | scaledLeft | scaledRight =>
    cases hboolean with
    | comparison compares => cases compares
  | conditional notPercent => exact notPercent rfl

end PointBuy.Scope
