import PointBuy.Proofs.Sheet.Termination
import PointBuy.Proofs.Trait.ValueFormat
import PointBuy.Sheet.Row

/-!
# Records tell whether something has changed

The record of a trait is a text, and records are compared as texts. So it matters that no two
different rows of a trait have the same record: a record determines the purchase and the cost, each
of which ends before a colon, and what is shown of the level behind them (`Row.record_injective`).
What is shown determines the level, but for two formats. A trait that one has or has not is shown
as a word, and there the level is the purchase, since no effect reaches it. Dice determine the level
as long as it is not too low (`Sheet.DiceSafe`).

## Main statements

* `Row.record_injective` : what a record determines.
* `Sheet.level_of_plainAdvantage` : the level of a trait that one has or has not.
* `Sheet.sameAt_of_record_eq` : with the same record, the purchase and the level are the same.
-/

namespace PointBuy

open Database (EffectLink objection?)

/-! ### Records -/

/-- What a record says of a cost. -/
def costText (cost : Option Amount) : String := (cost.map Amount.text).getD "-"

theorem inNumber_of_mem_costText {cost : Option Amount} {c : Char}
    (h : c ∈ (costText cost).toList) : inNumber c = true := by
  cases cost with
  | none =>
    rw [List.mem_singleton.1 h]
    decide
  | some cost => exact Amount.inNumber_of_mem_text h

theorem costText_injective {cost cost' : Option Amount} (h : costText cost = costText cost') :
    cost = cost' := by
  cases cost with
  | none =>
    cases cost' with
    | none => rfl
    | some cost' => exact absurd h.symm cost'.text_ne_dash
  | some cost =>
    cases cost' with
    | none => exact absurd h cost.text_ne_dash
    | some cost' => exact congrArg some (Amount.text_injective h)

namespace Row

variable {row row' : Row}

theorem toList_record (row : Row) :
    row.record.toList = row.name.toList ++ ':' :: (row.purchased.text.toList ++
      ':' :: ((costText row.cost).toList ++ ':' :: row.formatted.toList)) := by
  rw [record, costText]
  simp only [String.toList_append, List.append_assoc]
  rfl

/-- **A record determines the row of a trait** up to the level, of which it has what is shown. -/
theorem record_injective (hname : row.name = row'.name) (h : row.record = row'.record) :
    row.purchased = row'.purchased ∧ row.cost = row'.cost ∧ row.formatted = row'.formatted := by
  have hlist := congrArg String.toList h
  rw [toList_record, toList_record, hname] at hlist
  have hrest := (List.cons.inj (List.append_cancel_left hlist)).2
  have hstops (rest : List Char) : Stops inNumber (':' :: rest) := stops_cons (by decide) rest
  obtain ⟨hpurchased, hrest⟩ := append_inj_of_stops (fun _ hc ↦ Amount.inNumber_of_mem_text hc)
    (fun _ hc ↦ Amount.inNumber_of_mem_text hc) (hstops _) (hstops _) hrest
  obtain ⟨hcost, hrest⟩ := append_inj_of_stops (fun _ hc ↦ inNumber_of_mem_costText hc)
    (fun _ hc ↦ inNumber_of_mem_costText hc) (hstops _) (hstops _) (List.cons.inj hrest).2
  exact ⟨Amount.text_injective (String.toList_injective hpurchased),
    costText_injective (String.toList_injective hcost),
    String.toList_injective (List.cons.inj hrest).2⟩

end Row

namespace Sheet

variable {s s' : Sheet} {i : Nat} {t : Trait}

/-! ### Traits that one has or has not -/

/-- Effects on a cost add nothing to a level. -/
theorem addBonuses_of_costs {levels : Nat → Option (Option Amount)} {effects : List (Nat × Effect)}
    (h : ∀ p ∈ effects, p.2.kind ≠ .level) (sum : Amount) :
    s.addBonuses levels sum effects = some sum := by
  induction effects with
  | nil => rfl
  | cons p rest ih =>
    obtain ⟨hp, hrest⟩ := List.forall_mem_cons.1 h
    rw [addBonuses]
    split
    · exact ih hrest
    · rename_i hkind
      exact absurd hkind hp

theorem add_zero_amount (a : Amount) : a + 0 = a := by
  have hsum : a + 0 = Amount.clamp a.val := congrArg Amount.clamp (Int.add_zero a.val)
  rw [hsum, Amount.clamp_val]

section Checked

variable (h : s.database.Checked)

include h

/-- No effect reaches the level of a trait that one has or has not. -/
theorem kind_ne_level_of_plainAdvantage {cost : Formula} (ht : s.database.trait? i = some t)
    (hkind : t.kind = .plainAdvantage cost) {p : Nat × Effect} (hp : p ∈ s.activeEffects t) :
    p.2.kind ≠ .level := by
  intro hlevel
  obtain ⟨ref, href, -, -, heffect⟩ := mem_activeEffects.1 hp
  obtain ⟨_, effect, -, heffect', hadmitted⟩ := h.linked ht href
  obtain rfl := Option.some.inj (heffect.symm.trans heffect')
  obtain ⟨target, htarget, hobjection⟩ := hadmitted.targeted
  obtain rfl := Option.some.inj (ht.symm.trans htarget)
  have hno : t.hasLevel = false := by rw [Trait.hasLevel, hkind]
  rw [hlevel, objection?, hno] at hobjection
  cases hobjection

/-- **The level of a trait that one has or has not** is its purchase. -/
theorem level_of_plainAdvantage {cost : Formula} (ht : s.database.trait? i = some t)
    (hkind : t.kind = .plainAdvantage cost) : s.level i = some (s.purchasedAt i) := by
  have hi : i < s.database.size := Database.lt_size_of_trait? ht
  have hbase : s.baseFrom s.levels i t = some (some (s.purchasedAt i)) := by
    rw [baseFrom, hkind]
  have hbonuses : s.addBonuses s.levels 0 (s.activeEffects t) = some 0 :=
    addBonuses_of_costs (fun _ hp ↦ kind_ne_level_of_plainAdvantage h ht hkind hp) 0
  have hlevels : s.levels i = some (some (s.purchasedAt i + 0)) := by
    rw [← levelFrom_levels h hi, levelFrom, ht]
    simp only [hbase, hbonuses]
    rfl
  rw [level, hlevels, add_zero_amount]
  rfl

end Checked

/-! ### The same record -/

theorem getElem?_records (s : Sheet) (i : Nat) :
    s.records[i]? = if i < s.purchased.size then some (s.record i) else none := by
  rw [records, Array.getElem?_map, Array.getElem?_range]
  split <;> rfl

theorem size_records (s : Sheet) : s.records.size = s.purchased.size := by
  rw [records, Array.size_map, Array.size_range]

/-- Two sheets have the same purchase and the same level of a trait. -/
def SameAt (s s' : Sheet) (i : Nat) : Prop :=
  s.purchasedAt i = s'.purchasedAt i ∧ s.level i = s'.level i

/-- No level that is shown as dice is too low for them. -/
def DiceSafe (s : Sheet) : Prop :=
  ∀ i t value, s.database.trait? i = some t → t.format = .dice → s.level i = some value →
    ValueFormat.leastDice ≤ value.val

/-- **With the same record, the purchase and the level are the same.** -/
theorem sameAt_of_record_eq (h : s.database.Checked) (hdb : s.database = s'.database)
    (hi : i < s.database.size) (hsafe : s.DiceSafe) (hsafe' : s'.DiceSafe)
    (hrecord : s.record i = s'.record i) : s.SameAt s' i := by
  obtain ⟨t, ht⟩ := Database.exists_trait?_of_lt hi
  have ht' : s'.database.trait? i = some t := hdb ▸ ht
  have hname : (s.row i).name = (s'.row i).name := by
    show ((s.database.trait? i).map Trait.name).getD "" = ((s'.database.trait? i).map _).getD ""
    rw [hdb]
  obtain ⟨hpurchased, -, hformatted⟩ := Row.record_injective hname hrecord
  refine ⟨hpurchased, ?_⟩
  have hformatted : t.format.render (s.level i) = t.format.render (s'.level i) := by
    have hshown (s : Sheet) (ht : s.database.trait? i = some t) :
        (s.row i).formatted = t.format.render (s.level i) := by
      show ((s.database.trait? i).map _).getD "" = _
      rw [ht]
      rfl
    rw [← hshown s ht, ← hshown s' ht', hformatted]
  by_cases hword : t.format = .yesNo
  · -- a word says less than the level, but here the level is the purchase
    obtain ⟨cost, hkind⟩ := h.yesNo ht hword
    rw [level_of_plainAdvantage h ht hkind, level_of_plainAdvantage (hdb ▸ h) ht' hkind]
    exact congrArg some hpurchased
  · refine ValueFormat.render_injective hword (fun value hdice hvalue ↦ ?_) hformatted
    rcases hvalue with hvalue | hvalue
    · exact hsafe i t value ht hdice hvalue
    · exact hsafe' i t value ht' hdice hvalue

end Sheet
end PointBuy
