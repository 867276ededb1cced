import PointBuy.Character.Basic
import PointBuy.Proofs.Database.Registration

/-!
# What may be purchased

A purchase is checked against the trait that it is made of: an attribute is never purchased, a
skill not below zero, and of an advantage without levels one has one or none. Every sheet that
purchases lead to, from a blank one, holds a level for each trait of its database, and each of these
levels may be purchased again (`Sheet.Over`).

## Main statements

* `Database.checkPurchase_eq_ok_iff` : when a purchase passes its check.
* `Character.purchaseAll_induction` : what a checked purchase keeps, several of them keep.
* `Sheet.Over.purchase`, `Sheet.Over.purchaseAll` : checked purchases keep the invariant of sheets.
-/

namespace PointBuy

namespace Sheet

variable {i start : Nat}

theorem purchasedAt_blank (db : Database) (i : Nat) : (blank db).purchasedAt i = 0 := by
  rw [blank, purchasedAt, Array.getElem?_replicate]
  split <;> rfl

theorem purchasedAt_purchase (s : Sheet) (level : Amount) {k : Nat} (hk : k ≠ start) :
    s.purchasedAt k = (s.purchase start level).purchasedAt k := by
  rw [purchasedAt, purchasedAt, purchase, Array.getElem?_setIfInBounds_ne (Ne.symm hk)]

theorem purchasedAt_purchase_self (s : Sheet) (level : Amount) (hi : i < s.purchased.size) :
    (s.purchase i level).purchasedAt i = level := by
  rw [purchasedAt, purchase, Array.getElem?_setIfInBounds_self_of_lt hi, Option.getD_some]

/-- To purchase what has been purchased changes nothing. -/
theorem purchase_purchasedAt (s : Sheet) (hi : i < s.purchased.size) :
    s.purchase i (s.purchasedAt i) = s := by
  have hsame : s.purchased.setIfInBounds i (s.purchasedAt i) = s.purchased := by
    refine Array.ext_getElem? fun k ↦ ?_
    rw [Array.getElem?_setIfInBounds, purchasedAt, Array.getElem?_eq_getElem hi]
    split
    case isTrue hk =>
      subst hk
      rw [Array.getElem?_eq_getElem hi]
      rfl
    case isFalse => rfl
  rw [purchase, hsame]

/-- What is purchased of each trait over a database may be purchased. -/
structure Over (db : Database) (s : Sheet) : Prop where
  database_eq : s.database = db
  size_eq : s.purchased.size = db.size
  /-- Attributes are never purchased. -/
  purchasable : ∀ i t, db.trait? i = some t → (∀ f, t.kind ≠ .attribute f) →
    t.purchaseFault? (s.purchasedAt i) = none

end Sheet

namespace Database

variable {db : Database} {name : String} {level : Amount} {i : Nat}

theorem checkPurchase_eq_ok_iff :
    db.checkPurchase name level = .ok i ↔
      ∃ t, db.indexOf? name = some i ∧ db.trait? i = some t ∧ t.purchaseFault? level = none := by
  rw [checkPurchase, placeOf]
  cases hplace : db.indexOf? name with
  | none =>
    constructor
    · exact fun h ↦ (nomatch h)
    · rintro ⟨_, h, -⟩
      cases h
  | some place =>
    rw [Except.ok_bind]
    constructor
    · intro h
      split at h
      case h_1 => cases h
      case h_2 t ht =>
        split at h
        case h_1 => cases h
        case h_2 hfault =>
          obtain rfl := Except.ok.inj h
          exact ⟨t, rfl, ht, hfault⟩
    · rintro ⟨t, hi, ht, hfault⟩
      obtain rfl := Option.some.inj hi
      rw [ht]
      dsimp only
      rw [hfault]

end Database

/-- What each checked purchase keeps, several of them keep. -/
theorem Character.purchaseAll_induction {motive : Sheet → Prop}
    (step : ∀ {s : Sheet} {name : String} {level : Amount} {i : Nat}, motive s →
      s.database.checkPurchase name level = .ok i → motive (s.purchase i level))
    {s s' : Sheet} {purchases : List (String × Amount)} (h : motive s)
    (hall : purchaseAll s purchases = .ok s') : motive s' := by
  induction purchases generalizing s with
  | nil =>
    obtain rfl := Except.ok.inj hall
    exact h
  | cons p purchases ih =>
    rw [purchaseAll] at hall
    obtain ⟨i, hi, hrest⟩ := Except.bind_eq_ok_iff.1 hall
    exact ih (step h hi) hrest

namespace Sheet.Over

variable {db : Database} {s : Sheet}

theorem blank (db : Database) : Over db (.blank db) where
  database_eq := rfl
  size_eq := Array.size_replicate
  purchasable i t ht hkind := by
    rw [purchasedAt_blank, Trait.purchaseFault?]
    split
    case h_1 f hf => exact absurd hf (hkind f)
    all_goals rfl

/-- A purchase that has been checked. -/
theorem purchase (h : Over db s) {name : String} {level : Amount} {i : Nat}
    (hi : db.checkPurchase name level = .ok i) : Over db (s.purchase i level) where
  database_eq := h.database_eq
  size_eq := by rw [Sheet.purchase, Array.size_setIfInBounds, h.size_eq]
  purchasable k t ht hkind := by
    obtain ⟨t', -, ht', hfault⟩ := Database.checkPurchase_eq_ok_iff.1 hi
    by_cases hk : k = i
    · subst hk
      obtain rfl := Option.some.inj (ht.symm.trans ht')
      rw [purchasedAt_purchase_self s level (h.size_eq ▸ Database.lt_size_of_trait? ht), hfault]
    · rw [← purchasedAt_purchase s level hk, h.purchasable k t ht hkind]

/-- Over one database, sheets with the same purchases are the same. -/
theorem eq {s' : Sheet} (h : Over db s) (h' : Over db s')
    (hpurchased : s.purchased = s'.purchased) : s = s' := by
  rcases s with ⟨database, purchased⟩
  rcases s' with ⟨database', purchased'⟩
  obtain rfl : database = database' := h.database_eq.trans h'.database_eq.symm
  obtain rfl : purchased = purchased' := hpurchased
  rfl

/-- Several purchases, each of which is checked. -/
theorem purchaseAll (h : Over db s) {purchases : List (String × Amount)} {s' : Sheet}
    (hall : Character.purchaseAll s purchases = .ok s') : Over db s' :=
  Character.purchaseAll_induction (fun h hi ↦ h.purchase (h.database_eq ▸ hi)) h hall

end Sheet.Over

end PointBuy
