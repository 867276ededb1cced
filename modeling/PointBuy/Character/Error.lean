import PointBuy.Amount

/-!
# Faults of purchases

Why something cannot be purchased, or a saved character cannot be read.
-/

namespace PointBuy

/-- Why a level of a trait makes no sense. -/
inductive LevelFault where
  /-- One has an advantage without levels or has it not. -/
  | notZeroOrOne
  /-- A skill cannot be unlearned. -/
  | negativeSkill
deriving DecidableEq

/-- The wording of a fault of a level. -/
def LevelFault.message : LevelFault → String
  | notZeroOrOne => "expected 0 or 1"
  | negativeSkill => "skills cannot be negative"

/-- Why something cannot be purchased, or a saved character cannot be read. -/
inductive CharacterError where
  | unknownTrait (name : String)
  | notPurchasable (name : String)
  | invalidLevel (name : String) (level : Amount) (fault : LevelFault)
  /-- A text that holds no saved character. -/
  | unreadable
deriving DecidableEq

namespace CharacterError

/-- The wording, as far as it is the same for all unreadable texts. -/
def message : CharacterError → String
  | unknownTrait name => s!"Unknown trait '{name}'"
  | notPurchasable name => s!"'{name}' is computed and cannot be purchased"
  | invalidLevel name level fault => s!"Invalid level {level.text} for '{name}': {fault.message}"
  | unreadable => "Invalid character snapshot"

/-- The code that a log line carries. -/
def code : CharacterError → String
  | unknownTrait _ => "E090"
  | notPurchasable _ => "E091"
  | invalidLevel .. => "E092"
  | unreadable => "E093"

end CharacterError
end PointBuy
