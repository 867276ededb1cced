import PointBuy.Proofs.Character.Saving

/-!
# What a purchase changes, and who is told

A purchase that is refused changes nothing and is told to nobody. One that is accepted changes the
level of one trait, and the records of those traits that its walk finds to differ; everything else
stays. Each listener is told of these traits one by one, in the order of the walk, and of the
character at the end.

Nothing is asked here of the levels that are shown as dice: a change of a level that cannot be seen
in the record may be missed by the walk, but all that is said here of the walk holds.

## Main definitions

* `Notice.heardBy` : what one of the listeners hears.
* `Character.Mutation` : what an accepted purchase does.

## Main statements

* `Character.heardBy_noticesOf` : what each listener is told.
* `Character.frame_of_purchase` : a purchase changes and tells just this.
-/

namespace PointBuy

/-! ### Listening -/

/-- Who is told. -/
def Notice.listener : Notice → Nat
  | .traitChanged listener .. | .characterChanged listener => listener

/-- What a listener hears of all that is told. -/
def Notice.heardBy (listener : Nat) (notices : List Notice) : List Notice :=
  notices.filter (·.listener = listener)

namespace Character

open Notice

/-- Where something is told to all listeners, each hears it once for each time it was added. -/
theorem heardBy_map {notice : Nat → Notice} (hnotice : ∀ j, (notice j).listener = j)
    (listeners : List Nat) (listener : Nat) :
    heardBy listener (listeners.map notice) =
      List.replicate (listeners.count listener) (notice listener) := by
  rw [heardBy, List.filter_map]
  have hsame : (fun j ↦ decide (j.listener = listener)) ∘ notice = (· == listener) := by
    funext j
    rw [Function.comp_apply, hnotice]
    rfl
  rw [hsame, List.filter_beq, List.map_replicate]

/-- **What each listener is told**: of each change, and at last, if there are any, of the
character. -/
theorem heardBy_noticesOf (listeners : List Nat) (changed : List (String × String))
    (listener : Nat) :
    heardBy listener (noticesOf listeners changed) =
      changed.flatMap (fun (name, record) ↦
          List.replicate (listeners.count listener) (.traitChanged listener name record))
        ++ if changed = [] then []
          else List.replicate (listeners.count listener) (.characterChanged listener) := by
  have htrait (change : String × String) :
      heardBy listener (listeners.map (.traitChanged · change.1 change.2)) =
        List.replicate (listeners.count listener)
          (.traitChanged listener change.1 change.2) :=
    heardBy_map (fun _ ↦ rfl) listeners listener
  rw [noticesOf, heardBy, List.filter_append, List.filter_flatMap]
  congr 1
  · exact List.flatMap_congr fun change _ ↦ htrait change
  · simp only [List.isEmpty_iff]
    split
    · rfl
    · exact heardBy_map (fun _ ↦ rfl) listeners listener

/-! ### Accepted purchases -/

variable {db : Database} {c : Character} {name : String} {level : Amount} {changed : List String}

/-- **What an accepted purchase does** to a character over a database: the level of the trait at
`start` is purchased, and `walk` is how far that makes a difference. -/
structure Mutation (db : Database) (c : Character) (name : String) (level : Amount)
    (update : Update) (changed : List String) (start : Nat) (walk : Walk) : Prop where
  start_eq : db.indexOf? name = some start
  /-- The walk has come to its end, however many steps more it would be given. -/
  ended : ∀ count, db.size ≤ count →
    Walk.follow update.character.sheet db.dependents count 0 (.start c.records start) = walk
  name_eq : update.character.name = c.name
  layout_eq : update.character.layout = c.layout
  listeners_eq : update.character.listeners = c.listeners
  dependents_eq : update.character.dependents = c.dependents
  database_eq : update.character.sheet.database = db
  /-- The level is purchased. -/
  purchased : update.character.sheet.purchasedAt start = level
  /-- No other level is. -/
  unpurchased : ∀ k, k ≠ start →
    update.character.sheet.purchasedAt k = c.sheet.purchasedAt k
  size_eq : update.character.sheet.purchased.size = c.sheet.purchased.size
  /-- The names that are told are those of the traits that the walk has found changed. -/
  changed_eq : changed = walk.changed.toList.map db.nameAt
  named : ∀ k ∈ walk.changed, ∃ t, db.trait? k = some t ∧ t.name = db.nameAt k
  nodup : changed.Nodup
  /-- Each of these is the start, and the first one, or depends on one before it. -/
  led : ∀ before k after, walk.changed.toList = before ++ k :: after →
    before = [] ∧ k = start ∨ ∃ j ∈ before, k ∈ db.dependents.pointedTo j
  /-- Their records are computed anew, and others than before. -/
  renewed : ∀ k ∈ walk.changed,
    update.character.records[k]? = some (update.character.sheet.record k) ∧
      c.records[k]? ≠ some (update.character.sheet.record k)
  /-- All other records stay. -/
  untouched : ∀ k, k ∉ walk.changed → update.character.records[k]? = c.records[k]?
  /-- The start has been looked at, and all dependents of each trait that has changed. -/
  reached : start ∈ walk.order ∧
    ∀ k ∈ walk.changed, ∀ j ∈ db.dependents.pointedTo k, j ∈ walk.order
  /-- Where the walk has been, the records are current. -/
  current : ∀ k ∈ walk.order,
    update.character.records[k]? = some (update.character.sheet.record k)
  /-- Each listener hears of these traits one by one, and of the character at the end. Where one
  number was added several times, it stands for several listeners. -/
  heard : ∀ listener, heardBy listener update.notices =
    walk.changed.toList.flatMap (fun k ↦
        List.replicate (c.listeners.count listener)
          (.traitChanged listener (db.nameAt k) (update.character.sheet.record k)))
      ++ if changed = [] then []
        else List.replicate (c.listeners.count listener) (.characterChanged listener)

/-! ### All characters -/

/-- **What no call changes**: who depends on whom, and how many records there are. -/
structure Wired (db : Database) (c : Character) : Prop where
  dependents_eq : c.dependents = db.dependents
  size_records : c.records.size = db.size

theorem UpToDate.wired (h : c.UpToDate db) : c.Wired db := ⟨h.dependents_eq, h.size_records⟩

theorem Wired.after (h : c.Wired db) (call : Call) : (c.after call).Wired db := by
  cases call with
  | setPurchased name level =>
    rw [Character.after]
    cases hresult : (c.setPurchased name level).result with
    | error e =>
      rw [setPurchased_of_refused (result_eq_error_iff.1 hresult)]
      exact h
    | ok changed =>
      obtain ⟨start, walk, -, rfl, -, heq⟩ := exists_walk_of_purchase hresult
      rw [heq]
      refine ⟨h.dependents_eq, ?_⟩
      dsimp only
      rw [Walk.size_records_follow, Walk.start, Walk.records_meet, h.size_records]
  | rename name =>
    rw [Character.after, Character.rename]
    split
    · exact h
    · exact ⟨h.dependents_eq, h.size_records⟩
  | listen listener => exact ⟨h.dependents_eq, h.size_records⟩

theorem Arises.wired (h : Arises db c) : c.Wired db := by
  induction h with
  | new => exact (UpToDate.new db).wired
  | restored hrestore => exact (UpToDate.restore hrestore).wired
  | after call _ ih => exact ih.after call

/-- **What an accepted purchase does**, to every character that calls lead to. -/
theorem Arises.exists_mutation (hc : Arises db c) (h : db.Indexed)
    (hresult : (c.setPurchased name level).result = .ok changed) :
    ∃ start walk, Mutation db c name level (c.setPurchased name level) changed start walk := by
  have hkept : c.sheet.Kept db := hc.kept
  have hsize : c.records.size = db.size := hc.wired.size_records
  obtain ⟨start, walk, hcheck, hwalk, rfl, heq⟩ := exists_walk_of_purchase hresult
  rw [heq]
  rw [hkept.database_eq] at hcheck
  obtain ⟨t, hstart, ht, -⟩ := Database.checkPurchase_eq_ok_iff.1 hcheck
  have hlt : start < db.size := Database.lt_size_of_trait? ht
  have hended : walk.Ended (c.sheet.purchase start level) db.dependents c.records start := by
    rw [← hwalk, ← hc.wired.dependents_eq]
    exact Walk.ended_of_start _ _ (hsize.symm ▸ hlt)
  have hbound {k : Nat} (hk : k ∈ walk.changed) : k < db.size :=
    hsize ▸ hended.lt_size (hended.mem_order_of_mem_changed hk)
  refine ⟨start, walk, {
    start_eq := hstart
    ended := fun count hcount ↦ hended.follow_eq count (hsize.symm ▸ hcount)
    name_eq := rfl
    layout_eq := rfl
    listeners_eq := rfl
    dependents_eq := rfl
    database_eq := hkept.database_eq
    purchased := Sheet.purchasedAt_purchase_self _ _ (hkept.size_eq.symm ▸ hlt)
    unpurchased := fun k hk ↦ (Sheet.purchasedAt_purchase c.sheet level hk).symm
    size_eq := Array.size_setIfInBounds
    changed_eq := by rw [hkept.database_eq]
    named := fun k hk ↦ ?named
    nodup := ?nodup
    led := fun _ _ _ hsplit ↦ hended.exists_before hsplit
    renewed := fun k hk ↦
      ⟨hended.getElem?_records_of_mem (hended.mem_order_of_mem_changed hk),
        (hended.mem_changed_iff.1 hk).2⟩
    untouched := fun k hk ↦ hended.getElem?_records_of_not_mem hk
    reached := ⟨hended.mem_order, fun k hk j hj ↦ ?reached⟩
    current := fun k hk ↦ hended.getElem?_records_of_mem hk
    heard := fun listener ↦ ?heard }⟩
  case named =>
    obtain ⟨t, ht⟩ := Database.exists_trait?_of_lt (hbound hk)
    exact ⟨t, ht, (Database.nameAt_of_trait? ht).symm⟩
  case nodup =>
    rw [hkept.database_eq]
    exact hended.nodup_changed.map_on fun k hk j hj hname ↦
      h.eq_of_nameAt_eq (hbound (Array.mem_toList_iff.1 hk)) (hbound (Array.mem_toList_iff.1 hj))
        hname
  case reached =>
    obtain ⟨t, ht, -⟩ := Database.mem_dependents.1 hj
    exact hended.mem_order_of_mem_pointedTo hk hj (hsize.symm ▸ Database.lt_size_of_trait? ht)
  case heard =>
    rw [heardBy_noticesOf, List.flatMap_map, hkept.database_eq]
    congr 1
    · refine List.flatMap_congr fun k hk ↦ ?_
      have hmet := hended.mem_order_of_mem_changed (Array.mem_toList_iff.1 hk)
      rw [hended.getElem?_records_of_mem hmet]
      rfl
    · simp only [List.map_eq_nil_iff]

/-- **What a purchase changes, and who is told.** Of every character that calls lead to over a
loaded database, a purchase that is refused is refused by the check of its name and level, leaves
everything as it was and tells nothing. One that is accepted changes the level of the trait with the
name and the records along a walk that comes to its end, and nothing else; what has changed is told
to each listener. -/
theorem frame_of_purchase {sources : List Source} {preferences : LoadPreferences} {db : Database}
    (hload : Database.load sources preferences = .ok db) {c : Character} (hc : Arises db c)
    (name : String) (level : Amount) :
    (∀ e, (c.setPurchased name level).result = .error e →
      db.checkPurchase name level = .error e ∧ (c.setPurchased name level).character = c ∧
      (c.setPurchased name level).notices = []) ∧
    ∀ changed, (c.setPurchased name level).result = .ok changed → ∃ start walk,
      Mutation db c name level (c.setPurchased name level) changed start walk := by
  refine ⟨fun e herror ↦ ?_, fun changed hresult ↦ ?_⟩
  · have hcheck := result_eq_error_iff.1 herror
    rw [setPurchased_of_refused hcheck]
    exact ⟨hc.kept.database_eq ▸ hcheck, rfl, rfl⟩
  · have hindexed : db.Indexed := (Database.checked_of_load hload).indexed
    exact hc.exists_mutation hindexed hresult

/-- Somebody listens while a skill is purchased, and then an attribute, which is refused. -/
theorem frame_of_purchase_small :
    Database.load [Database.smallSource] ⟨[], false⟩ = .ok Database.small ∧
      Arises Database.small ((Character.new Database.small).listen 7) ∧
      (∃ update changed,
        ((Character.new Database.small).listen 7).setPurchased "Brawling" 1 = update ∧
        update.result = .ok changed ∧ update.character.sheet.purchasedAt 1 = 1 ∧
        "Brawling" ∈ changed ∧
        ∃ changes, heardBy 7 update.notices = changes ++ [.characterChanged 7]) ∧
      (((Character.new Database.small).listen 7).setPurchased "DX" 1).result =
        .error (.notPurchasable "DX") ∧
      (((Character.new Database.small).listen 7).setPurchased "DX" 1).notices = [] := by
  have h : Database.small.Checked := Database.checked_of_load Database.load_small
  generalize hlisten : (Character.new Database.small).listen 7 = c
  have hc : Arises Database.small c := hlisten ▸ .after (.listen 7) .new
  have hcurrent : c.UpToDate Database.small :=
    hlisten ▸ ⟨(UpToDate.new Database.small).sheet_over, rfl, rfl⟩
  have hlisteners : c.listeners = [7] := hlisten ▸ rfl
  have hblank : c.sheet = .blank Database.small := hlisten ▸ rfl
  have hplace : Database.small.indexOf? "Brawling" = some 1 :=
    (h.indexed "Brawling" 1).2 ⟨Database.brawling, rfl, rfl⟩
  refine ⟨Database.load_small, hc, ?_, ?_⟩
  · have hcheck : Database.small.checkPurchase "Brawling" 1 = .ok 1 :=
      Database.checkPurchase_eq_ok_iff.2 ⟨Database.brawling, hplace, rfl, rfl⟩
    obtain ⟨changed, hresult⟩ := hcurrent.exists_changed hcheck
    obtain ⟨start, walk, hmutation⟩ :=
      (frame_of_purchase Database.load_small hc "Brawling" 1).2 changed hresult
    obtain rfl : start = 1 := Option.some.inj (hmutation.start_eq.symm.trans hplace)
    have hchanged : 1 ∈ walk.changed := by
      -- otherwise the record of the skill would not have changed, but its level has
      by_contra hsame
      have hrecord :=
        (hmutation.untouched 1 hsame).symm.trans (hmutation.current 1 hmutation.reached.1)
      rw [hcurrent.records_eq, Sheet.getElem?_records, if_pos (by rw [hblank]; decide),
        Option.some_inj] at hrecord
      have hsameAt := Sheet.sameAt_of_record_eq (hcurrent.sheet_over.database_eq.symm ▸ h)
        (hcurrent.sheet_over.database_eq.trans hmutation.database_eq.symm)
        (by rw [hcurrent.sheet_over.database_eq]; decide)
        (diceSafe_small hcurrent.sheet_over.database_eq) (diceSafe_small hmutation.database_eq)
        hrecord
      have hpurchased := hsameAt.1
      rw [hmutation.purchased, hblank] at hpurchased
      revert hpurchased
      decide
    have hmem : "Brawling" ∈ changed := by
      rw [hmutation.changed_eq]
      exact List.mem_map.2 ⟨1, Array.mem_toList_iff.2 hchanged, rfl⟩
    refine ⟨_, changed, rfl, hresult, hmutation.purchased, hmem, ?_⟩
    rw [hmutation.heard, if_neg (List.ne_nil_of_mem hmem), hlisteners]
    exact ⟨_, rfl⟩
  · have hcheck : Database.small.checkPurchase "DX" 1 = .error (.notPurchasable "DX") := by
      rw [Database.checkPurchase, Database.placeOf, Database.indexOf?_dx_small]
      rfl
    have hrefused : (c.setPurchased "DX" 1).result = .error (.notPurchasable "DX") :=
      result_eq_error_iff.2 (hcurrent.sheet_over.database_eq.symm ▸ hcheck)
    exact ⟨hrefused, ((frame_of_purchase Database.load_small hc "DX" 1).1 _ hrefused).2.2⟩

end Character
end PointBuy
