import PointBuy.Proofs.Sheet.Termination
import PointBuy.Proofs.Formula.Strict

/-!
# The orientation of percentages

A product that is accepted as a percentage has one factor that is a percentage itself, and one that
scales it, an integer that mentions the purchased levels. The check takes a product either way
round. The evaluation does so as well, but it looks at no sorts: it takes the left factor for the
scale where that comes to a value, and turns the product round where it does not, be it that the
product is the other way round, or that the scale is absent.

Yet the value is always that of the way round that was checked. A percentage is no integer
(`Scope.Sorted.not_integer`), so that the check accepts a product one way round at most; and of an
integer the evaluation makes no percentage (`Formula.percent?_of_integer`), so that the wrong way
round comes to nothing, also inside of nested products and where both factors mention the purchased
levels.

## Main definitions

* `Formula.Side` : the sides of a product.
* `Scope.ScaledOn` : the factor on a side scales the other one.
* `Sheet.Oriented` : the check and the evaluation agree on the sides of scales.

## Main statements

* `Scope.check_percent_iff` : what is accepted as a percentage.
* `Sheet.orientation_of_load` : sheets over loaded databases are oriented.
-/

namespace PointBuy

namespace Formula

/-- A side of a product. -/
inductive Side where
  | left
  | right
deriving DecidableEq

namespace Side

/-- The factor on a side. -/
def factor : Side → Formula → Formula → Formula
  | .left, onLeft, _ => onLeft
  | .right, _, onRight => onRight

/-- The other side. -/
def other : Side → Side
  | .left => .right
  | .right => .left

end Side
end Formula

namespace Scope

variable {scope : Scope} {left right f : Formula} {side side' : Formula.Side}

/-- The factor on a side of a product scales the other one, as the check sees it. -/
structure ScaledOn (scope : Scope) (side : Formula.Side) (left right : Formula) : Prop where
  mentions : (side.factor left right).mentionsLevel = true
  ofScale : scope.check .integer (side.factor left right) = .ok ()
  ofPercent : scope.check .percent (side.other.factor left right) = .ok ()

/-! ### One way round -/

/-- What is scaled by the left factor is not scaled by the right one, since that is a percentage. -/
theorem ScaledOn.not_right (h : scope.ScaledOn .left left right) :
    ¬ scope.ScaledOn .right left right :=
  fun h' ↦ (sorted_of_check h.ofPercent).not_integer (sorted_of_check h'.ofScale)

/-- **A product has at most one orientation.** -/
theorem ScaledOn.side_eq (h : scope.ScaledOn side left right)
    (h' : scope.ScaledOn side' left right) : side' = side := by
  cases side with
  | left =>
    cases side' with
    | left => rfl
    | right => exact absurd h' h.not_right
  | right =>
    cases side' with
    | left => exact absurd h h'.not_right
    | right => rfl

/-- A product with an orientation is a percentage. -/
theorem ScaledOn.sorted (h : scope.ScaledOn side left right) :
    scope.Sorted .percent (.binary .multiply left right) := by
  cases side with
  | left => exact .scaledLeft h.mentions (sorted_of_check h.ofScale) (sorted_of_check h.ofPercent)
  | right => exact .scaledRight h.mentions (sorted_of_check h.ofPercent) (sorted_of_check h.ofScale)

/-- **A product that is a percentage has exactly one orientation.** -/
theorem existsUnique_side (h : scope.Sorted .percent (.binary .multiply left right)) :
    ∃! side, scope.ScaledOn side left right := by
  obtain ⟨side, hside⟩ : ∃ side, scope.ScaledOn side left right := by
    cases h with
    | scaledLeft mentions ofScale ofPercent =>
      exact ⟨.left, mentions, check_of_sorted ofScale, check_of_sorted ofPercent⟩
    | scaledRight mentions ofPercent ofScale =>
      exact ⟨.right, mentions, check_of_sorted ofScale, check_of_sorted ofPercent⟩
  exact ⟨side, hside, fun _ ↦ hside.side_eq⟩

/-- **What is accepted as a percentage**: the literals, and the products with exactly one
orientation. -/
theorem check_percent_iff : scope.check .percent f = .ok () ↔
    (∃ literal, f = .percent literal) ∨
      ∃ left right, f = .binary .multiply left right ∧ ∃! side, scope.ScaledOn side left right := by
  constructor
  · intro h
    induction sorted_of_check h using Sorted.percent_induction with
    | literal hundredths => exact .inl ⟨hundredths, rfl⟩
    | left mentions ofScale ofPercent =>
      exact .inr ⟨_, _, rfl, existsUnique_side (.scaledLeft mentions ofScale ofPercent)⟩
    | right mentions ofPercent ofScale =>
      exact .inr ⟨_, _, rfl, existsUnique_side (.scaledRight mentions ofPercent ofScale)⟩
  · rintro (⟨literal, rfl⟩ | ⟨left, right, rfl, side, hside, -⟩)
    · rfl
    · exact check_of_sorted hside.sorted

/-! ### What the evaluation makes of it -/

/-- The evaluation finds the orientation of a product, without looking at sorts. -/
theorem ScaledOn.percent?_eq {reader : Formula.Reader} {own : Amount}
    (h : scope.ScaledOn side left right) :
    (Formula.binary .multiply left right).percent? reader own =
      Formula.scaled? reader own (side.factor left right) (side.other.factor left right) := by
  cases side with
  | left => exact (Formula.percent?_of_scale (sorted_of_check h.ofScale)).1
  | right => exact (Formula.percent?_of_scale (sorted_of_check h.ofScale)).2

/-- **The value of a product** is that of its scale times that of its percentage. -/
theorem ScaledOn.exists_percent? {reader : Formula.Reader} {own : Amount} (hreader : reader.Total)
    (h : scope.ScaledOn side left right) :
    ∃ amount points, (side.factor left right).integer? reader own = some amount ∧
      (side.other.factor left right).percent? reader own = some points ∧
      (Formula.binary .multiply left right).percent? reader own =
        some (Option.map₂ (· * ·) amount points) := by
  obtain ⟨amount, hamount⟩ : ∃ amount, (side.factor left right).integer? reader own = some amount :=
    Option.ne_none_iff_exists'.1 (Formula.integer?_ne_none hreader)
  obtain ⟨points, hpoints⟩ :
      ∃ points, (side.other.factor left right).percent? reader own = some points :=
    Option.ne_none_iff_exists'.1 (Formula.percent?_ne_none hreader)
  refine ⟨amount, points, hamount, hpoints, ?_⟩
  rw [h.percent?_eq, Formula.scaled?_eq h.mentions hamount hpoints]

end Scope

/-! ### Loaded databases -/

namespace Sheet

variable {s : Sheet}

/-- **The check and the evaluation agree on the sides of scales**, for the formulas of a trait and
its purchased level. -/
structure Oriented (s : Sheet) (owner : Trait) (own : Amount) : Prop where
  /-- What is accepted is a literal, or a product with exactly one orientation. -/
  accepted : ∀ f, Scope.check ⟨s.database, owner⟩ .percent f = .ok () ↔
    (∃ literal, f = .percent literal) ∨ ∃ left right, f = .binary .multiply left right ∧
      ∃! side, Scope.ScaledOn ⟨s.database, owner⟩ side left right
  /-- A literal is its own value. -/
  literal : ∀ literal, (Formula.percent literal).percent? s.reader own = some (some literal)
  /-- The value of a product is that of its scale times that of its percentage, and absent where one
  of them is. -/
  product : ∀ left right side, Scope.ScaledOn ⟨s.database, owner⟩ side left right →
    ∃ amount points, (side.factor left right).integer? s.reader own = some amount ∧
      (side.other.factor left right).percent? s.reader own = some points ∧
      (Formula.binary .multiply left right).percent? s.reader own =
        some (Option.map₂ (· * ·) amount points)
  /-- What is accepted has scales, the outermost first, and a literal at its end. -/
  scaled : ∀ (f : Formula), Scope.check ⟨s.database, owner⟩ .percent f = .ok () →
    ∃ scales literal, f.Scaled ⟨s.database, owner⟩ scales literal
  /-- The value is absent just where the integer of one of its scales is. -/
  absent_iff : ∀ (f : Formula) scales literal, f.Scaled ⟨s.database, owner⟩ scales literal →
    (f.percent? s.reader own = some none ↔
      ∃ scale ∈ scales, scale.integer? s.reader own = some none)
  /-- What is accepted as a percentage is accepted neither as an integer nor as a truth. -/
  exclusive : ∀ f, Scope.check ⟨s.database, owner⟩ .percent f = .ok () →
    Scope.check ⟨s.database, owner⟩ .integer f ≠ .ok () ∧
      Scope.check ⟨s.database, owner⟩ .boolean f ≠ .ok ()

/-- **Percentages are evaluated the way round in which they were checked**, over every loaded
database, whatever has been purchased and whichever trait they belong to. -/
theorem orientation_of_load {sources : List Source} {preferences : LoadPreferences}
    (hload : Database.load sources preferences = .ok s.database) (owner : Trait) (own : Amount) :
    s.Oriented owner own where
  accepted _ := Scope.check_percent_iff
  literal _ := rfl
  product _ _ _ hside := hside.exists_percent? (reader_total (Database.checked_of_load hload))
  scaled _ hf := Formula.exists_scaled (Scope.sorted_of_check hf)
  absent_iff _ _ _ hscaled :=
    hscaled.percent?_eq_none_iff (reader_total (Database.checked_of_load hload))
  exclusive _ hf := by
    have hsorted := Scope.sorted_of_check hf
    exact ⟨fun hinteger ↦ hsorted.not_integer (Scope.sorted_of_check hinteger),
      fun hboolean ↦ hsorted.not_boolean (Scope.sorted_of_check hboolean)⟩

/-- A percentage of which both factors mention the purchased level. -/
def brawlingDiscount : Formula :=
  .binary .multiply (.binary .add (.trait "Brawling") .level)
    (.binary .multiply .level (.percent 10))

/-- While the skill that it mentions is not learned, that percentage is absent: the product inside
of it has a value, but is no integer that could scale the sum. -/
theorem orientation_of_load_small :
    Database.load [Database.smallSource] ⟨[], false⟩ = .ok Database.small ∧
      Scope.check ⟨Database.small, Database.brawling⟩ .percent brawlingDiscount = .ok () ∧
      Scope.check ⟨Database.small, Database.brawling⟩ .integer brawlingDiscount ≠ .ok () ∧
      brawlingDiscount.percent? (reader ⟨Database.small, #[0, 0]⟩) 2 = some none := by
  have h := orientation_of_load (s := ⟨Database.small, #[0, 0]⟩) Database.load_small
    Database.brawling 2
  have hindex : Database.small.indexOf? "Brawling" = some 1 := by
    rw [Database.indexOf?_small, if_pos (by decide)]
  have hfind : Database.small.find? "Brawling" = some Database.brawling := by
    rw [Database.find?, hindex]
    rfl
  have hlevel : Scope.Sorted ⟨Database.small, Database.brawling⟩ .integer .level := .level rfl
  have hscale : Scope.Sorted ⟨Database.small, Database.brawling⟩ .integer
      (.binary .add (.trait "Brawling") .level) := .arithmetic rfl (.name hfind rfl) hlevel
  have hcheck :
      Scope.check ⟨Database.small, Database.brawling⟩ .percent brawlingDiscount = .ok () :=
    Scope.check_of_sorted (.scaledLeft rfl hscale (.scaledLeft rfl hlevel (.percent 10)))
  have hskill : (Formula.trait "Brawling").integer? (reader ⟨Database.small, #[0, 0]⟩) 2 =
      some none := by
    simp only [Formula.integer?, reader, readerFrom, hindex]
    rfl
  have habsent : (Formula.binary .add (.trait "Brawling") .level).integer?
      (reader ⟨Database.small, #[0, 0]⟩) 2 = some none := by
    rw [Formula.integer?, hskill]
    rfl
  refine ⟨Database.load_small, hcheck, (h.exclusive _ hcheck).1, ?_⟩
  exact (h.absent_iff _ _ _ (.left rfl hscale (.left rfl hlevel (.literal 10)))).2
    ⟨_, List.mem_cons_self, habsent⟩

end Sheet
end PointBuy
