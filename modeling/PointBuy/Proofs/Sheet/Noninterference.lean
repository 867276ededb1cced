import PointBuy.Proofs.Database.Extension
import PointBuy.Proofs.Sheet.Dependents

/-!
# Traits without influence

The graph of dependents covers all that an evaluation reads. If a trait is purchased alike on two
sheets, and each trait that it depends on is purchased alike and has the same level, then the two
sheets cannot be told apart at the trait, whatever the purchases and levels of all other traits.

## Main statement

* `Sheet.noninterference` : a trait is influenced only by those that it depends on.
-/

namespace PointBuy

namespace Database

variable {db : Database} {i k : Nat}

/-- An ancestor is the parent of some skill. -/
theorem exists_of_mem_ancestors (hk : k ∈ db.ancestors i) : ∃ j, db.parentOf? j = some k := by
  obtain ⟨last, hpassed, -⟩ := exists_passed_ancestors db i
  exact hpassed.exists_of_mem hk

/-- **A trait reads nothing but traits.** -/
theorem Checked.lt_size_of_mem_reads (h : db.Checked) {t : Trait} (ht : db.trait? i = some t)
    (hk : k ∈ db.reads i t) : k < db.size := by
  have hplaces (f : Formula) (hk : k ∈ db.placesIn f) : k < db.size := by
    obtain ⟨name, -, hname⟩ := List.mem_filterMap.1 hk
    exact h.indexed.lt_size hname
  have hown (u : Trait) (hk : k ∈ db.placesInOwn u) : k < db.size := by
    rw [placesInOwn] at hk
    cases hf : u.ownFormula? with
    | none =>
      rw [hf] at hk
      cases hk
    | some f =>
      rw [hf] at hk
      exact hplaces f hk
  rw [reads] at hk
  rcases List.mem_append.1 hk with hk | hk
  · rcases List.mem_append.1 hk with hk | hk
    · exact hown t hk
    · obtain ⟨ancestor, hancestor, hk⟩ := List.mem_flatMap.1 hk
      obtain ⟨j, hparent⟩ := exists_of_mem_ancestors hancestor
      obtain ⟨u, hu, -⟩ := h.isSkill_of_parentOf? hparent
      rw [hu] at hk
      rcases List.mem_cons.1 hk with rfl | hk
      · exact lt_size_of_trait? hu
      · exact hown u hk
  · obtain ⟨ref, href, hk⟩ := List.mem_flatMap.1 hk
    obtain ⟨owner, effect, howner, heffect, -⟩ := h.linked ht (Array.mem_toList_iff.1 href)
    rw [heffect] at hk
    rcases List.mem_cons.1 hk with rfl | hk
    · exact lt_size_of_trait? howner
    · exact hplaces effect.formula hk

end Database

namespace Sheet

/-- **A trait is influenced only by those that it depends on.** Where two sheets over a loaded
database have the same purchase of a trait, and the same purchases and levels of all traits that it
is a dependent of, they have the same level, truth and cost of it, and show it alike. -/
theorem noninterference {sources : List Source} {preferences : LoadPreferences} {db : Database}
    (hload : Database.load sources preferences = .ok db) {j : Nat} (hj : j < db.size)
    {p q : Array Amount} (hown : purchasedAt ⟨db, p⟩ j = purchasedAt ⟨db, q⟩ j)
    (hsame : ∀ k, j ∈ db.dependents.pointedTo k →
      purchasedAt ⟨db, p⟩ k = purchasedAt ⟨db, q⟩ k ∧ level ⟨db, p⟩ k = level ⟨db, q⟩ k) :
    level ⟨db, p⟩ j = level ⟨db, q⟩ j ∧ truth ⟨db, p⟩ j = truth ⟨db, q⟩ j ∧
      cost ⟨db, p⟩ j = cost ⟨db, q⟩ j ∧
      (row ⟨db, p⟩ j).formatted = (row ⟨db, q⟩ j).formatted := by
  have h : db.Checked := Database.checked_of_load hload
  obtain ⟨t, ht⟩ := Database.exists_trait?_of_lt hj
  have hrow : row ⟨db, p⟩ j = row ⟨db, q⟩ j := by
    refine row_congr h rfl ht hown fun k hreads hne ↦ ?_
    -- all that is read, but for the trait itself, has the trait among its dependents
    have hlt : k < db.size := h.lt_size_of_mem_reads ht hreads
    exact hsame k (Database.mem_dependents.2 ⟨t, ht, hreads, hne, hlt⟩)
  have hlevel : level ⟨db, p⟩ j = level ⟨db, q⟩ j := congrArg Row.level hrow
  have htruth : truthFrom ⟨db, p⟩ (levels ⟨db, p⟩) j = truthFrom ⟨db, q⟩ (levels ⟨db, q⟩) j := by
    refine truthFrom_congr rfl hown ?_
    rw [levels_eq_some_level h hj, levels_eq_some_level h hj, hlevel]
  refine ⟨hlevel, ?_, congrArg Row.cost hrow, congrArg Row.formatted hrow⟩
  rw [truth, truth, htruth]

/-- What the attribute of the small database reads once an advantage raises it. -/
theorem reads_dx_gifted {t : Trait} (ht : Database.smallGifted.noted.trait? 0 = some t) :
    Database.smallGifted.noted.reads 0 t = [2] := by
  have hparent : Database.smallGifted.noted.parentOf? 0 = none := by
    rw [Database.parentOf?, Database.trait?, Database.traits_noted_gifted]
    rfl
  have hancestors : Database.smallGifted.noted.ancestors 0 = [] :=
    (Database.Lineage.root hparent).ancestors_eq
  rw [Database.trait?, Database.traits_noted_gifted] at ht
  obtain rfl := Option.some.inj ht
  have heffect : Database.smallGifted.noted.effect? ⟨2, 0⟩ = some ⟨"Gifted", "DX", .level,
      .binary .multiply (.integer 2) .level, ⟨"gifted.txt", 2⟩⟩ := by
    rw [Database.effect?, Database.trait?, Database.traits_noted_gifted]
    rfl
  simp [Database.reads, Database.placesInOwn, hancestors, heffect, Database.dx, Trait.new,
    Trait.ownFormula?, Database.placesIn, Formula.mentions]

/-- An attribute depends on the advantage that raises it, and not on the skill that starts from
it. -/
theorem noninterference_gifted :
    Database.load ([Database.smallSource] ++ [Database.giftedSource]) ⟨[], false⟩ =
        .ok Database.smallGifted.noted ∧
      0 ∈ Database.smallGifted.noted.dependents.pointedTo 2 ∧
      level ⟨Database.smallGifted.noted, #[0, 1, 3]⟩ 0 =
        level ⟨Database.smallGifted.noted, #[0, 8, 3]⟩ 0 := by
  have hload := Database.load_gifted
  have h := Database.checked_of_load hload
  have hsize : Database.smallGifted.noted.size = 3 := Database.size_noted _
  obtain ⟨t, ht⟩ := Database.exists_trait?_of_lt (i := 0) (hsize ▸ (by decide : 0 < 3))
  have hreads := reads_dx_gifted ht
  have hgifted : Database.smallGifted.noted.trait? 2 = some Database.gifted := by
    rw [Database.trait?, Database.traits_noted_gifted]
    rfl
  -- nothing changes the level of the advantage
  have hlevel (p : Array Amount) : level ⟨Database.smallGifted.noted, p⟩ 2 =
      some (purchasedAt ⟨Database.smallGifted.noted, p⟩ 2 + 0) := by
    rw [level, ← levelFrom_levels h (hsize ▸ (by decide : 2 < 3)), levelFrom, hgifted]
    rfl
  refine ⟨hload, Database.mem_dependents.2 ⟨t, ht, ?_, by decide, hsize ▸ (by decide : 2 < 3)⟩, ?_⟩
  · rw [hreads]
    exact List.mem_singleton_self 2
  · have hsame := noninterference (j := 0) (p := #[0, 1, 3]) (q := #[0, 8, 3]) hload
      (hsize ▸ (by decide : 0 < 3)) rfl fun k hk ↦ ?_
    · exact hsame.1
    · obtain ⟨t', ht', hk, -⟩ := Database.mem_dependents.1 hk
      rw [reads_dx_gifted ht'] at hk
      obtain rfl := List.mem_singleton.1 hk
      exact ⟨rfl, by rw [hlevel, hlevel]; rfl⟩

end Sheet
end PointBuy
