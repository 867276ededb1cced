import PointBuy.Proofs.Character.Propagation
import PointBuy.Proofs.Json.Members

/-!
# Saving and restoring

A character is saved as the purchases that are not zero, by the names of the traits. Here it is
shown that nothing else is lost by that: whatever was purchased can be purchased again, names stand
for traits, and what is left out is what a new character starts from.

Restoring goes through the purchases of the saved form one after another. As their names differ, no
purchase overwrites another one, and the sheet at the end holds each level that was saved
(`purchasedAt_of_purchaseAll`). Saving reads the same levels off a sheet again (`mem_purchases`).

## Main definitions

* `TraitKind.MayHold` : the levels of a trait that a sheet may hold.
* `Character.Arises` : the characters that any calls lead to.
* `Sheet.Kept` : the invariant of their sheets.

## Main statements

* `Character.Arises.kept` : all calls keep the invariant.
* `Character.restores_what_it_saves` : saving and restoring undo each other.
-/

namespace PointBuy

/-! ### Levels that may be purchased -/

/-- The levels that a trait of a kind may be held at. -/
def TraitKind.MayHold : TraitKind → Amount → Prop
  | .attribute _, level => level = 0
  | .plainAdvantage _, level => level = 0 ∨ level = 1
  | .skill .., level | .inheritedSkill .., level => 0 ≤ level.val
  | .leveledAdvantage _, _ => True

/-- There is nothing to be said against the purchase of a trait that may be held at that level,
unless it is an attribute. -/
theorem Trait.purchaseFault?_eq_none_iff {t : Trait} {level : Amount} :
    t.purchaseFault? level = none ↔ (∀ f, t.kind ≠ .attribute f) ∧ t.kind.MayHold level := by
  rw [Trait.purchaseFault?]
  cases t.kind with
  | «attribute» f => simp
  | leveledAdvantage => simp [TraitKind.MayHold]
  | skill | inheritedSkill => simp [TraitKind.MayHold]
  | plainAdvantage =>
    have hbounds : 0 ≤ level.val ∧ level.val ≤ 1 ↔ level = 0 ∨ level = 1 := by
      constructor
      · intro h
        rcases (show level.val = 0 ∨ level.val = 1 by omega) with h | h
        · exact .inl (Amount.ext h)
        · exact .inr (Amount.ext h)
      · rintro (rfl | rfl) <;> decide
    rw [TraitKind.MayHold, ← hbounds]
    simp

namespace Sheet

/-- **The invariant of sheets**: what is purchased may be purchased, and attributes are not. -/
structure Kept (db : Database) (s : Sheet) : Prop extends Over db s where
  unpurchased : ∀ {i t f}, db.trait? i = some t → t.kind = .attribute f → s.purchasedAt i = 0

variable {db : Database} {s s' : Sheet} {i : Nat} {t : Trait} {name : String} {level : Amount}

namespace Kept

theorem blank (db : Database) : Kept db (.blank db) :=
  ⟨.blank db, fun _ _ ↦ purchasedAt_blank db _⟩

theorem purchase (h : Kept db s) (hi : db.checkPurchase name level = .ok i) :
    Kept db (s.purchase i level) where
  toOver := h.toOver.purchase hi
  unpurchased {k t f} ht hkind := by
    obtain ⟨t', -, ht', hfault⟩ := Database.checkPurchase_eq_ok_iff.1 hi
    have hk : k ≠ i := by
      rintro rfl
      obtain rfl := Option.some.inj (ht.symm.trans ht')
      exact (Trait.purchaseFault?_eq_none_iff.1 hfault).1 f hkind
    rw [← purchasedAt_purchase s level hk]
    exact h.unpurchased ht hkind

theorem purchaseAll (h : Kept db s) {purchases : List (String × Amount)}
    (hall : Character.purchaseAll s purchases = .ok s') : Kept db s' :=
  Character.purchaseAll_induction (fun h hi ↦ h.purchase (h.database_eq ▸ hi)) h hall

/-- Every trait is held at a level that it may be held at. -/
theorem mayHold (h : Kept db s) (ht : db.trait? i = some t) :
    t.kind.MayHold (s.purchasedAt i) := by
  cases hkind : t.kind with
  | «attribute» f => exact h.unpurchased ht hkind
  | skill | inheritedSkill | leveledAdvantage | plainAdvantage =>
    rw [← hkind]
    refine (Trait.purchaseFault?_eq_none_iff.1 (h.purchasable i t ht fun f hf ↦ ?_)).2
    cases hkind.symm.trans hf

/-- What is purchased may be purchased again. -/
theorem checkPurchase (h : Kept db s) (hindexed : db.Indexed) (ht : db.trait? i = some t)
    (hlevel : s.purchasedAt i ≠ 0) : db.checkPurchase t.name (s.purchasedAt i) = .ok i := by
  refine Database.checkPurchase_eq_ok_iff.2 ⟨t, (hindexed t.name i).2 ⟨t, ht, rfl⟩, ht, ?_⟩
  exact h.purchasable i t ht fun f hkind ↦ hlevel (h.unpurchased ht hkind)

end Kept

/-- Sheets over one database with the same levels are the same. -/
theorem Over.eq_of_purchasedAt (h : Over db s) (h' : Over db s')
    (hlevels : ∀ i < db.size, s.purchasedAt i = s'.purchasedAt i) : s = s' := by
  refine h.eq h' (Array.ext (h.size_eq.trans h'.size_eq.symm) fun i hi hi' ↦ ?_)
  have hlevel := hlevels i (h.size_eq ▸ hi)
  rwa [purchasedAt, purchasedAt, Array.getElem?_eq_getElem hi, Array.getElem?_eq_getElem hi',
    Option.getD_some, Option.getD_some] at hlevel

end Sheet

namespace Character

variable {db : Database} {c : Character} {s s' : Sheet} {purchases : List (String × Amount)}
  {saved : SavedCharacter} {i : Nat} {t : Trait}

/-! ### Purchases of a saved character -/

/-- Purchases are accepted as a whole exactly where each of them is. -/
theorem exists_purchaseAll_iff (h : s.database = db) :
    (∃ s', purchaseAll s purchases = .ok s') ↔
      ∀ p ∈ purchases, ∃ i, db.checkPurchase p.1 p.2 = .ok i := by
  induction purchases generalizing s with
  | nil => exact ⟨fun _ _ hp ↦ (nomatch hp), fun _ ↦ ⟨s, rfl⟩⟩
  | cons p purchases ih =>
    have hsheet (i : Nat) : (s.purchase i p.2).database = db := h
    simp only [purchaseAll, h, Except.bind_eq_ok_iff, List.forall_mem_cons]
    constructor
    · rintro ⟨s', i, hi, hrest⟩
      exact ⟨⟨i, hi⟩, (ih (hsheet i)).1 ⟨s', hrest⟩⟩
    · rintro ⟨⟨i, hi⟩, hrest⟩
      obtain ⟨s', hs'⟩ := (ih (hsheet i)).2 hrest
      exact ⟨s', i, hi, hs'⟩

/-- A trait that no purchase names is held as before. -/
theorem purchasedAt_of_not_mem (h : s.database = db) (hindexed : db.Indexed)
    (hall : purchaseAll s purchases = .ok s') (ht : db.trait? i = some t)
    (hfree : t.name ∉ purchases.map Prod.fst) : s'.purchasedAt i = s.purchasedAt i := by
  induction purchases generalizing s with
  | nil => rw [Except.ok.inj hall]
  | cons p purchases ih =>
    obtain ⟨hname, hfree⟩ := List.ne_and_not_mem_of_not_mem_cons hfree
    obtain ⟨k, hk, hrest⟩ := Except.bind_eq_ok_iff.1 hall
    rw [h] at hk
    obtain ⟨u, hplace, -⟩ := Database.checkPurchase_eq_ok_iff.1 hk
    have hne : i ≠ k := by
      rintro rfl
      obtain ⟨t', ht', hname'⟩ := hindexed.exists_trait hplace
      obtain rfl := Option.some.inj (ht.symm.trans ht')
      exact hname hname'
    have hdatabase : (s.purchase k p.2).database = db := h
    rw [ih hdatabase hrest hfree, Sheet.purchasedAt_purchase s p.2 hne]

/-- **A trait that a purchase names is held at the level of that purchase**, where no two purchases
name one trait. -/
theorem purchasedAt_of_purchaseAll (h : s.Over db) (hindexed : db.Indexed)
    (hnodup : (purchases.map Prod.fst).Nodup) (hall : purchaseAll s purchases = .ok s')
    (ht : db.trait? i = some t) {level : Amount} (hmem : (t.name, level) ∈ purchases) :
    s'.purchasedAt i = level := by
  induction purchases generalizing s with
  | nil => cases hmem
  | cons p purchases ih =>
    obtain ⟨hfree, hnodup⟩ := List.nodup_cons.1 hnodup
    obtain ⟨k, hk, hrest⟩ := Except.bind_eq_ok_iff.1 hall
    rw [h.database_eq] at hk
    rcases List.mem_cons.1 hmem with rfl | hmem
    · obtain ⟨u, hplace, -⟩ := Database.checkPurchase_eq_ok_iff.1 hk
      obtain rfl : i = k :=
        Option.some.inj (((hindexed t.name i).2 ⟨t, ht, rfl⟩).symm.trans hplace)
      rw [purchasedAt_of_not_mem (h.purchase hk).database_eq hindexed hrest ht hfree]
      exact Sheet.purchasedAt_purchase_self s level
        (h.size_eq ▸ Database.lt_size_of_trait? ht)
    · exact ih (h.purchase hk) hnodup hrest hmem

/-- A purchase is accepted where its name is that of a trait, no attribute, that may be held at its
level. -/
theorem exists_checkPurchase_iff (hindexed : db.Indexed) {name : String} {level : Amount} :
    (∃ i, db.checkPurchase name level = .ok i) ↔ ∃ i t, db.trait? i = some t ∧ t.name = name ∧
      (∀ f, t.kind ≠ .attribute f) ∧ t.kind.MayHold level := by
  simp only [Database.checkPurchase_eq_ok_iff, Trait.purchaseFault?_eq_none_iff]
  constructor
  · rintro ⟨i, t, hplace, ht, hallowed⟩
    obtain ⟨t', ht', hname⟩ := hindexed.exists_trait hplace
    obtain rfl := Option.some.inj (ht.symm.trans ht')
    exact ⟨i, t, ht, hname, hallowed⟩
  · rintro ⟨i, t, ht, hname, hallowed⟩
    exact ⟨i, t, (hindexed name i).2 ⟨t, ht, hname⟩, ht, hallowed⟩

/-! ### What is saved -/

/-- What is saved of one place of a sheet: its level, if it is not zero. -/
def heldAt (db : Database) : Amount × Nat → Option (String × Amount)
  | (level, i) => if level.val = 0 then none else (db.trait? i).map fun t => (t.name, level)

/-- The purchases that are not zero, in the order of the traits. -/
def heldLevels (s : Sheet) : List (String × Amount) :=
  s.purchased.toList.zipIdx.filterMap (heldAt s.database)

theorem purchases_eq (c : Character) : c.purchases = Json.sortMembers (heldLevels c.sheet) := rfl

theorem heldAt_eq_some_iff {p : Amount × Nat} {m : String × Amount} :
    heldAt db p = some m ↔
      p.1 = m.2 ∧ m.2 ≠ 0 ∧ ∃ t, db.trait? p.2 = some t ∧ t.name = m.1 := by
  obtain ⟨level, place⟩ := p
  obtain ⟨name, level'⟩ := m
  rw [heldAt]
  split
  case isTrue hzero =>
    have hlevel : level = 0 := Amount.ext hzero
    constructor
    · exact fun h ↦ (nomatch h)
    · rintro ⟨rfl, hne, -⟩
      exact absurd hlevel hne
  case isFalse hzero =>
    have hlevel : level ≠ 0 := fun h ↦ hzero (congrArg Amount.val h)
    rw [Option.map_eq_some_iff]
    constructor
    · rintro ⟨t, ht, heq⟩
      obtain ⟨rfl, rfl⟩ := Prod.mk.inj heq
      exact ⟨rfl, hlevel, t, ht, rfl⟩
    · rintro ⟨rfl, -, t, ht, rfl⟩
      exact ⟨t, ht, rfl⟩

/-- The names that are saved are those of different traits. -/
theorem nodup_heldLevels (h : s.Over db) (hindexed : db.Indexed) :
    ((heldLevels s).map Prod.fst).Nodup := by
  rw [heldLevels, h.database_eq, List.Nodup, List.pairwise_map, List.pairwise_filterMap]
  refine (Database.pairwise_zipIdx s.purchased.toList 0).imp fun {p q} hlt m hm n hn hname ↦ ?_
  obtain ⟨-, -, t, ht, hp⟩ := heldAt_eq_some_iff.1 hm
  obtain ⟨-, -, u, hu, hq⟩ := heldAt_eq_some_iff.1 hn
  exact Nat.ne_of_lt hlt (hindexed.eq_of_name_eq ht hu (hp.trans (hname.trans hq.symm)))

/-- **What is saved** are the levels that are not zero, under the names of their traits. -/
theorem mem_purchases (h : c.sheet.Over db) (hindexed : db.Indexed) {m : String × Amount} :
    m ∈ c.purchases ↔
      m.2 ≠ 0 ∧ ∃ i t, db.trait? i = some t ∧ t.name = m.1 ∧ c.sheet.purchasedAt i = m.2 := by
  rw [purchases_eq, Json.mem_sortMembers (nodup_heldLevels h hindexed), heldLevels,
    List.mem_filterMap, h.database_eq]
  constructor
  · rintro ⟨p, hp, hm⟩
    obtain ⟨hlevel, hne, t, ht, hname⟩ := heldAt_eq_some_iff.1 hm
    rw [List.mem_zipIdx_iff_getElem?, Array.getElem?_toList] at hp
    refine ⟨hne, p.2, t, ht, hname, ?_⟩
    rw [Sheet.purchasedAt, hp, Option.getD_some, hlevel]
  · rintro ⟨hne, i, t, ht, hname, hlevel⟩
    have hi : i < c.sheet.purchased.size := h.size_eq ▸ Database.lt_size_of_trait? ht
    refine ⟨(m.2, i), ?_, heldAt_eq_some_iff.2 ⟨rfl, hne, t, ht, hname⟩⟩
    rw [List.mem_zipIdx_iff_getElem?, Array.getElem?_toList, Array.getElem?_eq_getElem hi,
      ← hlevel, Sheet.purchasedAt, Array.getElem?_eq_getElem hi, Option.getD_some]

theorem inOrder_purchases (h : c.sheet.Over db) (hindexed : db.Indexed) :
    Json.InOrder c.purchases :=
  Json.inOrder_sortMembers (nodup_heldLevels h hindexed)

/-! ### Saving and restoring -/

theorem restore_eq_ok_iff :
    restore db saved = .ok c ↔ ∃ s, purchaseAll (.blank db) saved.purchases = .ok s ∧
      c = { new db with name := saved.name, sheet := s, records := s.records,
                        layout := saved.layout } := by
  rw [restore, load, Except.bind_eq_ok_iff]
  simp only [Except.pure_eq_ok, Except.ok.injEq, eq_comm]
  rfl

/-- **What a character has saved is accepted**, and gives the same sheet. -/
theorem purchaseAll_purchases (h : c.sheet.Kept db) (hindexed : db.Indexed) :
    purchaseAll (.blank db) c.purchases = .ok c.sheet := by
  have hsaved {m : String × Amount} (hm : m ∈ c.purchases) :
      ∃ i, db.checkPurchase m.1 m.2 = .ok i := by
    obtain ⟨hne, i, t, ht, hname, hlevel⟩ := (mem_purchases h.toOver hindexed).1 hm
    refine ⟨i, ?_⟩
    rw [← hname, ← hlevel]
    exact h.checkPurchase hindexed ht (hlevel ▸ hne)
  have hblank : (Sheet.blank db).Over db := .blank db
  obtain ⟨s, hs⟩ := (exists_purchaseAll_iff hblank.database_eq).2 fun m hm ↦ hsaved hm
  rw [hs, Sheet.Over.eq_of_purchasedAt (hblank.purchaseAll hs) h.toOver fun i hi ↦ ?_]
  obtain ⟨t, ht⟩ := Database.exists_trait?_of_lt hi
  by_cases hlevel : c.sheet.purchasedAt i = 0
  · -- the trait is left out, and a new character starts from zero
    have hfree : t.name ∉ c.purchases.map Prod.fst := by
      intro hmem
      obtain ⟨m, hm, hname⟩ := List.mem_map.1 hmem
      obtain ⟨hne, k, u, hu, hname', hk⟩ := (mem_purchases h.toOver hindexed).1 hm
      obtain rfl := hindexed.eq_of_name_eq ht hu (hname'.trans hname).symm
      exact hne (hk.symm.trans hlevel)
    rw [purchasedAt_of_not_mem hblank.database_eq hindexed hs ht hfree, Sheet.purchasedAt_blank,
      hlevel]
  · exact purchasedAt_of_purchaseAll hblank hindexed
      (inOrder_purchases h.toOver hindexed).nodup_names hs ht
      ((mem_purchases h.toOver hindexed).2 ⟨hlevel, i, t, ht, rfl, rfl⟩)

theorem restore_save (h : c.sheet.Kept db) (hindexed : db.Indexed) :
    restore db c.save =
      .ok { new db with
        name := c.name, sheet := c.sheet, records := c.sheet.records, layout := c.layout } :=
  restore_eq_ok_iff.2 ⟨c.sheet, purchaseAll_purchases h hindexed, rfl⟩

/-- **A restored character saves what it was restored from**, but for the purchases of zero. -/
theorem purchases_of_purchaseAll (hindexed : db.Indexed) (hpurchases : Json.InOrder purchases)
    (hall : purchaseAll (.blank db) purchases = .ok c.sheet) :
    c.purchases = purchases.filter fun p ↦ p.2 ≠ 0 := by
  have hblank : (Sheet.blank db).Over db := .blank db
  have hover : c.sheet.Over db := hblank.purchaseAll hall
  refine (inOrder_purchases hover hindexed).eq_of_mem_iff (hpurchases.filter _) fun m ↦ ?_
  rw [mem_purchases hover hindexed, List.mem_filter, decide_eq_true_iff]
  constructor
  · rintro ⟨hne, i, t, ht, hname, hlevel⟩
    refine ⟨?_, hne⟩
    by_cases hmem : t.name ∈ purchases.map Prod.fst
    · obtain ⟨p, hp, hpname⟩ := List.mem_map.1 hmem
      have hp' : (t.name, p.2) ∈ purchases := hpname ▸ hp
      have hlevel' := purchasedAt_of_purchaseAll hblank hindexed hpurchases.nodup_names hall ht hp'
      have hm : m = (t.name, p.2) := Prod.ext hname.symm (hlevel.symm.trans hlevel')
      exact hm ▸ hp'
    · rw [purchasedAt_of_not_mem hblank.database_eq hindexed hall ht hmem,
        Sheet.purchasedAt_blank] at hlevel
      exact absurd hlevel.symm hne
  · rintro ⟨hm, hne⟩
    refine ⟨hne, ?_⟩
    obtain ⟨i, hi⟩ := (exists_purchaseAll_iff hblank.database_eq).1 ⟨_, hall⟩ m hm
    obtain ⟨_, hplace, -⟩ := Database.checkPurchase_eq_ok_iff.1 hi
    obtain ⟨t, ht, hname⟩ := hindexed.exists_trait hplace
    have hm' : (t.name, m.2) ∈ purchases := hname ▸ hm
    exact ⟨i, t, ht, hname,
      purchasedAt_of_purchaseAll hblank hindexed hpurchases.nodup_names hall ht hm'⟩

/-! ### All calls -/

/-- The characters that calls lead to, from a new or a restored one. -/
inductive Arises (db : Database) : Character → Prop
  | new : Arises db (.new db)
  | restored {saved : SavedCharacter} {c : Character} :
    Character.restore db saved = .ok c → Arises db c
  | after {c : Character} (call : Call) : Arises db c → Arises db (c.after call)

theorem kept_of_restore (h : Character.restore db saved = .ok c) : c.sheet.Kept db := by
  obtain ⟨s, hs, rfl⟩ := restore_eq_ok_iff.1 h
  exact Sheet.Kept.purchaseAll (.blank db) hs

theorem kept_after (h : c.sheet.Kept db) (call : Call) : (c.after call).sheet.Kept db := by
  cases call with
  | setPurchased name level =>
    rw [Character.after]
    cases hresult : (c.setPurchased name level).result with
    | error e =>
      rw [setPurchased_of_refused (result_eq_error_iff.1 hresult)]
      exact h
    | ok changed =>
      obtain ⟨i, walk, hi, -, -, heq⟩ := exists_walk_of_purchase hresult
      rw [h.database_eq] at hi
      rw [heq]
      exact h.purchase hi
  | rename name =>
    rw [Character.after, Character.rename]
    split <;> exact h
  | listen listener => exact h

/-- **Every sheet that calls lead to is kept well.** -/
theorem Arises.kept (h : Arises db c) : c.sheet.Kept db := by
  induction h with
  | new => exact .blank db
  | restored hrestore => exact kept_of_restore hrestore
  | after call _ ih => exact kept_after ih call

/-- **A character restores what it saves.** Over a loaded database, whatever calls have been made,
each trait is held at a level that its kind allows, attributes at none; and what is saved restores a
character with the same name, layout and sheet, all of whose records are current. The other way
round, a saved form is accepted exactly where each of its purchases names a trait, no attribute, and
a level that its kind allows; and the restored character saves it again without the purchases of
zero. -/
theorem restores_what_it_saves {sources : List Source} {preferences : LoadPreferences}
    {db : Database} (hload : Database.load sources preferences = .ok db) :
    (∀ c, Arises db c →
      c.sheet.database = db ∧ c.sheet.purchased.size = db.size ∧
      (∀ i t, db.trait? i = some t → t.kind.MayHold (c.sheet.purchasedAt i)) ∧
      ∃ c', restore db c.save = .ok c' ∧ c'.name = c.name ∧ c'.layout = c.layout ∧
        c'.sheet = c.sheet ∧ c'.records.size = db.size ∧
        ∀ i < db.size, c'.records[i]? = some (c'.sheet.record i)) ∧
    ∀ saved : SavedCharacter, Json.InOrder saved.purchases →
      ((∃ c, restore db saved = .ok c) ↔ ∀ p ∈ saved.purchases, ∃ i t, db.trait? i = some t ∧
        t.name = p.1 ∧ (∀ f, t.kind ≠ .attribute f) ∧ t.kind.MayHold p.2) ∧
      ∀ c, restore db saved = .ok c →
        c.save = { saved with purchases := saved.purchases.filter fun p ↦ p.2 ≠ 0 } := by
  have hindexed : db.Indexed := (Database.checked_of_load hload).indexed
  refine ⟨fun c hc ↦ ?_, fun saved hpurchases ↦ ⟨?_, fun c hc ↦ ?_⟩⟩
  · have hkept : c.sheet.Kept db := hc.kept
    have hrestore := restore_save hkept hindexed
    have hcurrent := UpToDate.restore hrestore
    refine ⟨hkept.database_eq, hkept.size_eq, fun i t ht ↦ hkept.mayHold ht, _, hrestore, rfl, rfl,
      rfl, hcurrent.size_records, fun i hi ↦ ?_⟩
    rw [hcurrent.records_eq, Sheet.getElem?_records, if_pos (hkept.size_eq ▸ hi)]
  · simp only [← exists_checkPurchase_iff hindexed]
    rw [← exists_purchaseAll_iff (Sheet.Over.blank db).database_eq]
    constructor
    · rintro ⟨c, hc⟩
      obtain ⟨s, hs, -⟩ := restore_eq_ok_iff.1 hc
      exact ⟨s, hs⟩
    · rintro ⟨s, hs⟩
      exact ⟨_, restore_eq_ok_iff.2 ⟨s, hs, rfl⟩⟩
  · obtain ⟨s, hs, rfl⟩ := restore_eq_ok_iff.1 hc
    rw [save, purchases_of_purchaseAll hindexed hpurchases hs]

/-- A skill is purchased, saved and restored; and a purchase of zero is accepted, but not saved. -/
theorem restores_what_it_saves_small :
    Database.load [Database.smallSource] ⟨[], false⟩ = .ok Database.small ∧
      (∃ changed c',
        ((Character.new Database.small).setPurchased "Brawling" 2).result = .ok changed ∧
        Character.restore Database.small
          ((Character.new Database.small).setPurchased "Brawling" 2).character.save = .ok c' ∧
        c'.sheet = ((Character.new Database.small).setPurchased "Brawling" 2).character.sheet) ∧
      ∃ c, Character.restore Database.small ⟨"Ann", [("Brawling", 0)], .null⟩ = .ok c ∧
        c.save = ⟨"Ann", [], .null⟩ := by
  obtain ⟨hsaves, hrestores⟩ := restores_what_it_saves Database.load_small
  have hplace : Database.small.indexOf? "Brawling" = some 1 :=
    ((Database.checked_of_load Database.load_small).indexed "Brawling" 1).2
      ⟨Database.brawling, rfl, rfl⟩
  refine ⟨Database.load_small, ?_, ?_⟩
  · have hcheck : Database.small.checkPurchase "Brawling" 2 = .ok 1 :=
      Database.checkPurchase_eq_ok_iff.2 ⟨Database.brawling, hplace, rfl, rfl⟩
    obtain ⟨changed, hresult⟩ := (UpToDate.new Database.small).exists_changed hcheck
    have harises : Arises Database.small
        ((Character.new Database.small).after (.setPurchased "Brawling" 2)) := .after _ .new
    obtain ⟨-, -, -, c', hc', -, -, hsheet, -⟩ := hsaves _ harises
    exact ⟨changed, c', hresult, hc', hsheet⟩
  · have hinOrder : Json.InOrder [("Brawling", (0 : Amount))] := List.pairwise_singleton _ _
    obtain ⟨haccepts, hsave⟩ := hrestores ⟨"Ann", [("Brawling", 0)], .null⟩ hinOrder
    obtain ⟨c, hc⟩ := haccepts.2 fun p hp ↦ by
      obtain rfl := List.mem_singleton.1 hp
      exact ⟨1, Database.brawling, rfl, rfl, (fun f hf ↦ by cases hf), le_refl (0 : Int)⟩
    exact ⟨c, hc, hsave c hc⟩

end Character
end PointBuy
