import Mathlib.Data.List.Nodup
import PointBuy.Proofs.Character.Purchases
import PointBuy.Proofs.Character.Walk
import PointBuy.Proofs.Sheet.Dependents

/-!
# No record is ever stale

A character keeps the record of each trait as it was seen last, and after a purchase looks again
only where the walk leads. Here it is shown that nothing more would be found: after each call all
records are those of the current purchases, and the traits that a purchase is said to have changed
are just those whose records differ.

Two facts carry this. A change spreads only through what is read, and levels never rest on one
another in a circle, so that each trait whose level has changed is among those that the walk has met
(`Sheet.mem_of_not_sameAt`). And the walk goes on from each of them, since a level that has changed
can be seen in the record. For this last fact the levels that are shown as dice must not be too low,
before the call and after it.

## Main definitions

* `Character.after` : the character after a call.
* `Character.Reached` : the characters that calls lead to.
* `Character.UpToDate` : the invariant of all calls.

## Main statements

* `Character.Reached.upToDate` : every character that calls lead to is up to date.
* `Character.nothing_stale` : after each call all records are current, and what has changed is told
  exactly.
-/

namespace PointBuy

/-- The name of the trait at a place. -/
def Database.nameAt (db : Database) (i : Nat) : String := ((db.trait? i).map Trait.name).getD ""

theorem Database.nameAt_of_trait? {db : Database} {i : Nat} {t : Trait}
    (ht : db.trait? i = some t) : db.nameAt i = t.name := by
  rw [nameAt, ht]
  rfl

/-- Different traits have different names. -/
theorem Database.Indexed.eq_of_nameAt_eq {db : Database} (h : db.Indexed) {i j : Nat}
    (hi : i < db.size) (hj : j < db.size) (hname : db.nameAt i = db.nameAt j) : i = j := by
  obtain ⟨t, ht⟩ := exists_trait?_of_lt hi
  obtain ⟨t', ht'⟩ := exists_trait?_of_lt hj
  rw [nameAt_of_trait? ht, nameAt_of_trait? ht'] at hname
  exact h.eq_of_name_eq ht ht' hname

/-! ### Calls -/

namespace Character

/-- What may be asked of a character. -/
inductive Call where
  | setPurchased (name : String) (level : Amount)
  | rename (name : String)
  | listen (listener : Nat)

/-- The character after a call. -/
def after (c : Character) : Call → Character
  | .setPurchased name level => (c.setPurchased name level).character
  | .rename name => (c.rename name).1
  | .listen listener => c.listen listener

/-- The characters that calls lead to, from a new or a restored one. No call begins or ends with a
level that is too low for its dice. -/
inductive Reached (db : Database) : Character → Prop
  | new : Reached db (.new db)
  | restored {saved : SavedCharacter} {c : Character} :
    Character.restore db saved = .ok c → Reached db c
  | after {c : Character} (call : Call) :
    Reached db c → c.sheet.DiceSafe → (c.after call).sheet.DiceSafe → Reached db (c.after call)

/-- **The invariant of all calls**: the records are those of the current purchases. -/
structure UpToDate (db : Database) (c : Character) : Prop where
  sheet_over : c.sheet.Over db
  dependents_eq : c.dependents = db.dependents
  records_eq : c.records = c.sheet.records

/-! ### What a purchase does -/

/-- A purchase that is refused leaves all as it is. -/
theorem setPurchased_of_refused {c : Character} {name : String} {level : Amount}
    {e : CharacterError} (h : c.sheet.database.checkPurchase name level = .error e) :
    c.setPurchased name level = { character := c, notices := [], result := .error e } := by
  rw [setPurchased, h]

/-- A purchase is refused just by its check. -/
theorem result_eq_error_iff {c : Character} {name : String} {level : Amount}
    {e : CharacterError} : (c.setPurchased name level).result = .error e ↔
      c.sheet.database.checkPurchase name level = .error e := by
  rw [setPurchased]
  cases c.sheet.database.checkPurchase name level <;> simp

/-- What an accepted purchase gives. -/
theorem exists_walk_of_purchase {c : Character} {name : String} {level : Amount}
    {changed : List String} (h : (c.setPurchased name level).result = .ok changed) :
    ∃ start walk, c.sheet.database.checkPurchase name level = .ok start ∧
      Walk.follow (c.sheet.purchase start level) c.dependents c.records.size 0
        (.start c.records start) = walk ∧
      changed = walk.changed.toList.map c.sheet.database.nameAt ∧
      c.setPurchased name level =
        { character := { c with sheet := c.sheet.purchase start level, records := walk.records }
          notices := noticesOf c.listeners (walk.changed.toList.map fun k ↦
            (c.sheet.database.nameAt k, walk.records[k]?.getD ""))
          result := .ok changed } := by
  rw [setPurchased] at h ⊢
  cases hcheck : c.sheet.database.checkPurchase name level with
  | error e =>
    rw [hcheck] at h
    cases h
  | ok start =>
    rw [hcheck] at h
    obtain rfl := Except.ok.inj h
    refine ⟨start, _, rfl, rfl, ?_, rfl⟩
    rw [List.map_map]
    rfl

namespace UpToDate

variable {db : Database} {c : Character} {name : String} {level : Amount} {i : Nat}
  {changed : List String}

theorem size_records (hc : c.UpToDate db) : c.records.size = db.size := by
  rw [hc.records_eq, Sheet.size_records, hc.sheet_over.size_eq]

/-- A record differs from the one that was seen last if it does from that of the sheet. -/
theorem differs_iff (hc : c.UpToDate db) (s' : Sheet) (hi : i < db.size) :
    Walk.Differs s' c.records i ↔ c.sheet.record i ≠ s'.record i := by
  rw [Walk.Differs, hc.records_eq, Sheet.getElem?_records, if_pos (hc.sheet_over.size_eq ▸ hi),
    ne_eq, Option.some_inj]

/-- **Where the walk of a purchase ends**: all records are new, and the changes are just those of
the records, each once. -/
theorem follow_purchase (hc : c.UpToDate db) (h : db.Checked)
    (hi : db.checkPurchase name level = .ok i) (hsafe : c.sheet.DiceSafe)
    (hsafe' : (c.sheet.purchase i level).DiceSafe) {walk : Walk}
    (hwalk : Walk.follow (c.sheet.purchase i level) c.dependents c.records.size 0
      (.start c.records i) = walk) :
    walk.records = (c.sheet.purchase i level).records ∧ walk.changed.toList.Nodup ∧
      ∀ k, k ∈ walk.changed.toList ↔
        k < db.size ∧ c.sheet.record k ≠ (c.sheet.purchase i level).record k := by
  obtain ⟨t, -, ht, -⟩ := Database.checkPurchase_eq_ok_iff.1 hi
  have hlt : i < db.size := Database.lt_size_of_trait? ht
  have hover := hc.sheet_over.purchase hi
  generalize hs' : c.sheet.purchase i level = s' at *
  have hended : walk.Ended s' c.dependents c.records i :=
    hwalk ▸ Walk.ended_of_start s' c.dependents (hc.size_records.symm ▸ hlt)
  have hbound {k : Nat} (hk : k ∈ walk.order) : k < db.size := hc.size_records ▸ hended.lt_size hk
  have hdatabase : c.sheet.database = db := hc.sheet_over.database_eq
  have hdb : c.sheet.database = s'.database := hdatabase.trans hover.database_eq.symm
  have hsame (k : Nat) (hk : k < db.size) (hunmet : k ∉ walk.order) :
      c.sheet.record k = s'.record k := by
    rw [← Array.mem_toList_iff] at hunmet
    refine Sheet.record_eq_of_not_mem (hdatabase ▸ h) hdb hsafe hsafe'
      (fun k hk ↦ hs' ▸ Sheet.purchasedAt_purchase c.sheet level hk)
      (Array.mem_toList_iff.2 hended.mem_order) ?_ (hdatabase ▸ hlt) (hdatabase ▸ hk) hunmet
    -- The walk has gone on from each trait whose record has changed.
    intro k hk hchange j hj
    rw [hdatabase] at hj
    rw [Array.mem_toList_iff] at hk ⊢
    obtain ⟨_, hdependent, -⟩ := Database.mem_dependents.1 hj
    have hchanged : k ∈ walk.changed :=
      hended.mem_changed_iff.2 ⟨hk, (hc.differs_iff s' (hbound hk)).2 hchange⟩
    exact hended.mem_order_of_mem_pointedTo hchanged (hc.dependents_eq ▸ hj)
      (hc.size_records.symm ▸ Database.lt_size_of_trait? hdependent)
  refine ⟨Array.ext_getElem? fun k ↦ ?_, hended.nodup_changed, fun k ↦ ?_⟩
  · rw [Sheet.getElem?_records, hover.size_eq]
    by_cases hk : k ∈ walk.order
    · rw [hended.getElem?_records_of_mem hk, if_pos (hbound hk)]
    · rw [hended.getElem?_records_of_not_mem fun hd ↦ hk (hended.mem_order_of_mem_changed hd),
        hc.records_eq, Sheet.getElem?_records, hc.sheet_over.size_eq]
      split
      case isTrue hlt => rw [hsame k hlt hk]
      case isFalse => rfl
  · rw [Array.mem_toList_iff, hended.mem_changed_iff]
    constructor
    · rintro ⟨hk, hd⟩
      exact ⟨hbound hk, (hc.differs_iff s' (hbound hk)).1 hd⟩
    · rintro ⟨hk, hchange⟩
      refine ⟨?_, (hc.differs_iff s' hk).2 hchange⟩
      by_contra hunmet
      exact hchange (hsame k hk hunmet)

/-- What an accepted purchase gives, over the database of the character. -/
theorem exists_walk_of_setPurchased (hc : c.UpToDate db)
    (h : (c.setPurchased name level).result = .ok changed) :
    ∃ i walk, db.checkPurchase name level = .ok i ∧
      Walk.follow (c.sheet.purchase i level) c.dependents c.records.size 0 (.start c.records i) =
        walk ∧
      (c.setPurchased name level).character =
        { c with sheet := c.sheet.purchase i level, records := walk.records } ∧
      changed = walk.changed.toList.map db.nameAt := by
  obtain ⟨i, walk, hi, hwalk, hchanged, heq⟩ := exists_walk_of_purchase h
  rw [hc.sheet_over.database_eq] at hi hchanged
  exact ⟨i, walk, hi, hwalk, congrArg Update.character heq, hchanged⟩

/-- A purchase that has been checked is accepted. -/
theorem exists_changed (hc : c.UpToDate db) (hi : db.checkPurchase name level = .ok i) :
    ∃ changed, (c.setPurchased name level).result = .ok changed := by
  rw [Character.setPurchased, hc.sheet_over.database_eq, hi]
  exact ⟨_, rfl⟩

/-- **A purchase**, accepted or refused, leaves all records current. -/
theorem setPurchased (hc : c.UpToDate db) (h : db.Checked) (hsafe : c.sheet.DiceSafe)
    (hsafe' : (c.setPurchased name level).character.sheet.DiceSafe) :
    (c.setPurchased name level).character.UpToDate db := by
  cases hresult : (c.setPurchased name level).result with
  | error e =>
    rw [setPurchased_of_refused (result_eq_error_iff.1 hresult)]
    exact hc
  | ok changed =>
    obtain ⟨i, walk, hi, hwalk, hcharacter, -⟩ := hc.exists_walk_of_setPurchased hresult
    rw [hcharacter] at hsafe' ⊢
    obtain ⟨hrecords, -⟩ := hc.follow_purchase h hi hsafe hsafe' hwalk
    exact ⟨hc.sheet_over.purchase hi, hc.dependents_eq, hrecords⟩

/-- **What an accepted purchase tells** are the names of the traits whose records differ, each
once. -/
theorem mem_changed_iff (hc : c.UpToDate db) (h : db.Checked)
    (hresult : (c.setPurchased name level).result = .ok changed) (hsafe : c.sheet.DiceSafe)
    (hsafe' : (c.setPurchased name level).character.sheet.DiceSafe) :
    changed.Nodup ∧ ∀ n, n ∈ changed ↔ ∃ k t, db.trait? k = some t ∧ t.name = n ∧
      c.sheet.record k ≠ (c.setPurchased name level).character.sheet.record k := by
  obtain ⟨i, walk, hi, hwalk, hcharacter, rfl⟩ := hc.exists_walk_of_setPurchased hresult
  rw [hcharacter] at hsafe' ⊢
  obtain ⟨-, hnodup, hmem⟩ := hc.follow_purchase h hi hsafe hsafe' hwalk
  refine ⟨hnodup.map_on fun k hk l hl heq ↦ ?_, fun n ↦ ?_⟩
  · exact h.indexed.eq_of_nameAt_eq ((hmem k).1 hk).1 ((hmem l).1 hl).1 heq
  · rw [List.mem_map]
    constructor
    · rintro ⟨k, hk, rfl⟩
      obtain ⟨hlt, hchange⟩ := (hmem k).1 hk
      obtain ⟨t, ht⟩ := Database.exists_trait?_of_lt hlt
      exact ⟨k, t, ht, (Database.nameAt_of_trait? ht).symm, hchange⟩
    · rintro ⟨k, t, ht, rfl, hchange⟩
      exact ⟨k, (hmem k).2 ⟨Database.lt_size_of_trait? ht, hchange⟩,
        Database.nameAt_of_trait? ht⟩

/-- **To purchase what has been purchased** is accepted, unless the trait is computed, and changes
nothing. -/
theorem setPurchased_same (hc : c.UpToDate db) (h : db.Checked) {t : Trait}
    (ht : db.trait? i = some t) (hkind : ∀ f, t.kind ≠ .attribute f) :
    (c.setPurchased t.name (c.sheet.purchasedAt i)).result = .ok [] := by
  have hlt : i < db.size := Database.lt_size_of_trait? ht
  have hcheck : db.checkPurchase t.name (c.sheet.purchasedAt i) = .ok i :=
    Database.checkPurchase_eq_ok_iff.2
      ⟨t, (h.indexed t.name i).2 ⟨t, ht, rfl⟩, ht, hc.sheet_over.purchasable i t ht hkind⟩
  obtain ⟨changed, hresult⟩ := hc.exists_changed hcheck
  obtain ⟨j, walk, hj, hwalk, -, rfl⟩ := hc.exists_walk_of_setPurchased hresult
  obtain rfl := Except.ok.inj (hcheck.symm.trans hj)
  -- The sheet is the same, and so nothing that the walk looks at differs.
  rw [Sheet.purchase_purchasedAt c.sheet (hc.sheet_over.size_eq.symm ▸ hlt)] at hwalk
  have hended : walk.Ended c.sheet c.dependents c.records i :=
    hwalk ▸ Walk.ended_of_start c.sheet c.dependents (hc.size_records.symm ▸ hlt)
  have hnone : walk.changed.toList = [] := by
    refine List.eq_nil_iff_forall_not_mem.2 fun k hk ↦ ?_
    obtain ⟨hmet, hdiffers⟩ := hended.mem_changed_iff.1 (Array.mem_toList_iff.1 hk)
    exact (hc.differs_iff c.sheet (hc.size_records ▸ hended.lt_size hmet)).1 hdiffers rfl
  rw [hresult, hnone]
  rfl

/-! ### All calls -/

theorem new (db : Database) : (Character.new db).UpToDate db := ⟨.blank db, rfl, rfl⟩

theorem restore {saved : SavedCharacter} (h : Character.restore db saved = .ok c) :
    c.UpToDate db := by
  obtain ⟨s, hs, heq⟩ := Except.bind_eq_ok_iff.1 h
  obtain rfl := Except.ok.inj heq
  exact ⟨Sheet.Over.purchaseAll (.blank db) hs, rfl, rfl⟩

/-- **No call makes a record stale.** -/
theorem after (hc : c.UpToDate db) (h : db.Checked) (call : Call) (hsafe : c.sheet.DiceSafe)
    (hsafe' : (c.after call).sheet.DiceSafe) : (c.after call).UpToDate db := by
  cases call with
  | setPurchased name level => exact hc.setPurchased h hsafe hsafe'
  | rename name =>
    rw [Character.after, Character.rename]
    split
    · exact hc
    · exact ⟨hc.sheet_over, hc.dependents_eq, hc.records_eq⟩
  | listen listener => exact ⟨hc.sheet_over, hc.dependents_eq, hc.records_eq⟩

end UpToDate

/-- **Every character that calls lead to is up to date.** -/
theorem Reached.upToDate {db : Database} {c : Character} (hc : Reached db c) (h : db.Checked) :
    c.UpToDate db := by
  induction hc with
  | new => exact .new db
  | restored hrestore => exact .restore hrestore
  | after call _ hsafe hsafe' ih => exact ih.after h call hsafe hsafe'

/-- **Nothing is ever stale.** Of every character over a loaded database, after any calls that leave
no dice too low, all records are those of the current purchases. An accepted purchase tells just the
traits whose records differ from before, each once. So to purchase what has been purchased tells
nothing, and the records depend on the purchases only, not on the calls that led to them. -/
theorem nothing_stale {sources : List Source} {preferences : LoadPreferences} {db : Database}
    (hload : Database.load sources preferences = .ok db) :
    (∀ c, Reached db c → c.sheet.database = db ∧ c.records.size = db.size ∧
      ∀ i < db.size, c.records[i]? = some (c.sheet.record i)) ∧
    (∀ c name level changed, Reached db c →
      (c.setPurchased name level).result = .ok changed → c.sheet.DiceSafe →
      (c.after (.setPurchased name level)).sheet.DiceSafe →
      (∃ i, db.indexOf? name = some i ∧
        (c.after (.setPurchased name level)).sheet = c.sheet.purchase i level) ∧
      changed.Nodup ∧
      ∀ n, n ∈ changed ↔ ∃ k t, db.trait? k = some t ∧ t.name = n ∧
        c.sheet.record k ≠ (c.after (.setPurchased name level)).sheet.record k) ∧
    (∀ c i t, Reached db c → db.trait? i = some t → (∀ f, t.kind ≠ .attribute f) →
      (c.setPurchased t.name (c.sheet.purchasedAt i)).result = .ok []) ∧
    (∀ c c', Reached db c → Reached db c' → c.sheet.purchased = c'.sheet.purchased →
      c.records = c'.records) := by
  have h : db.Checked := Database.checked_of_load hload
  refine ⟨fun c hc ↦ ?_, fun c name level changed hc hresult hsafe hsafe' ↦ ?_,
    fun c i t hc ht hkind ↦ (hc.upToDate h).setPurchased_same h ht hkind,
    fun c c' hc hc' hpurchased ↦ ?_⟩
  · have hfresh := hc.upToDate h
    refine ⟨hfresh.sheet_over.database_eq, hfresh.size_records, fun i hi ↦ ?_⟩
    rw [hfresh.records_eq, Sheet.getElem?_records, if_pos (hfresh.sheet_over.size_eq ▸ hi)]
  · refine ⟨?_, (hc.upToDate h).mem_changed_iff h hresult hsafe hsafe'⟩
    obtain ⟨i, walk, hi, -, hcharacter, -⟩ :=
      (hc.upToDate h).exists_walk_of_setPurchased hresult
    obtain ⟨_, hplace, -⟩ := Database.checkPurchase_eq_ok_iff.1 hi
    exact ⟨i, hplace, congrArg Character.sheet hcharacter⟩
  · have hsheet : c.sheet = c'.sheet :=
      (hc.upToDate h).sheet_over.eq (hc'.upToDate h).sheet_over hpurchased
    rw [(hc.upToDate h).records_eq, (hc'.upToDate h).records_eq, hsheet]

/-- No trait of the small database is shown as dice. -/
theorem diceSafe_small {s : Sheet} (h : s.database = Database.small) : s.DiceSafe := by
  intro i t value ht hdice
  rw [h] at ht
  have hmem : t ∈ [Database.dx, Database.brawling] := by
    have hlist : Database.small.traits.toList[i]? = some t := Array.getElem?_toList.trans ht
    exact List.mem_of_getElem? hlist
  have hall : ∀ t ∈ [Database.dx, Database.brawling], t.format ≠ .dice := by decide
  exact absurd hdice (hall t hmem)

/-- A skill is purchased, and its record is another one. -/
theorem nothing_stale_small :
    Database.load [Database.smallSource] ⟨[], false⟩ = .ok Database.small ∧
      ∃ changed, ((Character.new Database.small).setPurchased "Brawling" 1).result = .ok changed ∧
        changed.Nodup ∧ "Brawling" ∈ changed ∧
        ((Character.new Database.small).after (.setPurchased "Brawling" 1)).records[1]? =
          some (((Character.new Database.small).after (.setPurchased "Brawling" 1)).sheet.record
            1) := by
  have h : Database.small.Checked := Database.checked_of_load Database.load_small
  obtain ⟨hrecords, hchanged, -, -⟩ := nothing_stale Database.load_small
  have hplace : Database.small.indexOf? "Brawling" = some 1 :=
    (h.indexed "Brawling" 1).2 ⟨Database.brawling, rfl, rfl⟩
  have hcheck : Database.small.checkPurchase "Brawling" 1 = .ok 1 :=
    Database.checkPurchase_eq_ok_iff.2 ⟨Database.brawling, hplace, rfl, rfl⟩
  have hnew : (Character.new Database.small).UpToDate Database.small := .new _
  obtain ⟨changed, hresult⟩ := hnew.exists_changed hcheck
  have hsafe : (Character.new Database.small).sheet.DiceSafe := diceSafe_small rfl
  have hsheet : ((Character.new Database.small).after (.setPurchased "Brawling" 1)).sheet =
      (Character.new Database.small).sheet.purchase 1 1 := by
    obtain ⟨i, walk, hi, -, hcharacter, -⟩ := hnew.exists_walk_of_setPurchased hresult
    obtain rfl := Except.ok.inj (hcheck.symm.trans hi)
    exact congrArg Character.sheet hcharacter
  have hsafe' : ((Character.new Database.small).after
      (.setPurchased "Brawling" 1)).sheet.DiceSafe := diceSafe_small (by rw [hsheet]; rfl)
  obtain ⟨-, hnodup, hmem⟩ := hchanged _ _ _ changed .new hresult hsafe hsafe'
  refine ⟨Database.load_small, changed, hresult, hnodup, ?_, ?_⟩
  · refine (hmem "Brawling").2 ⟨1, Database.brawling, rfl, rfl, fun hrecord ↦ ?_⟩
    rw [hsheet] at hrecord hsafe'
    have hsame : (Character.new Database.small).sheet.SameAt
        ((Character.new Database.small).sheet.purchase 1 1) 1 :=
      Sheet.sameAt_of_record_eq h rfl (by decide) hsafe hsafe' hrecord
    have hpurchased := hsame.1
    revert hpurchased
    decide
  · exact (hrecords _ (.after _ .new hsafe hsafe')).2.2 1 (by decide)

end Character
end PointBuy
