import PointBuy.Proofs.Database.WellFormed
import PointBuy.Proofs.Graph.Findings
import PointBuy.Proofs.Trait.Location

/-!
# Locations through the whole pipeline

Every trait of a loaded database, and every effect, says where it was written. Here it is shown that
this is true: on that line of one of the sources stands a declaration of the trait, or of a change
of the target of the effect. And where sources cannot be loaded, each location that the error tells
is a line of one of the sources.

The traits that a source defines are truthful about their places. From then on no location is made
up: registration keeps traits as they are, an analysis notes things at them and leaves their names,
their locations and their effects alone, and each error takes its locations from traits and effects
that are there. So it is enough to say of each stage what it ensures, whatever it means that a
location tells a name (`tells`).

## Main definitions

* `LoadError.locations` : all locations that an error tells.
* `Database.Truthful` : all traits of a database are truthful about their places.

## Main statements

* `Source.ensures_traits` : all traits of a source are where they are said to be.
* `Database.Truthful.ensures_addSources`, `Database.Truthful.ensures_analyze` : what the stages
  ensure.
* `Database.locations_of_load` : all locations are true, those of traits, effects and errors.
-/

namespace PointBuy

/-! ### All traits of a source -/

/-- All locations that an error tells. -/
def AnalysisError.locations : AnalysisError → List Location
  | single fault => [fault.location]
  | cycle _ members => members.map Prod.snd

/-- All locations that an error tells. -/
def LoadError.locations : LoadError → List Location
  | declaration fault => [fault.location]
  | definition fault => [fault.location]
  | analysis fault => fault.locations
  | duplicateName _ first second => [first, second]
  | tooManyTraits location => [location]
  | missingCoreAttribute _ | tooManySources _ => []

/-- The place of an error is one of the locations that it tells. -/
theorem LoadError.mem_locations_of_location? {e : LoadError} {l : Location}
    (h : e.location? = some l) : l ∈ e.locations := by
  cases e with
  | declaration fault | definition fault | tooManyTraits location =>
    exact List.mem_singleton.2 (Option.some.inj h).symm
  | duplicateName name first second =>
    exact List.mem_cons_of_mem _ (List.mem_singleton.2 (Option.some.inj h).symm)
  | missingCoreAttribute | tooManySources => cases h
  | analysis fault =>
    cases fault with
    | single fault => exact List.mem_singleton.2 (Option.some.inj h).symm
    | cycle relation members =>
      obtain ⟨member, hmember, rfl⟩ := Option.map_eq_some_iff.1 h
      exact List.mem_map_of_mem (List.mem_of_mem_head? hmember)

/-- **The traits of a source, and their effects, stand on the lines that their locations name.** A
fault is located at some line of the source. -/
theorem Source.ensures_traits (source : Source) :
    source.traits.Ensures (fun ts ↦ ∀ t ∈ ts, t.Truthful source.Declares)
      (fun e ↦ ∀ l ∈ e.locations, source.Covers l) := by
  have hlocated {e : Located BuildError} (he : ∃ name, source.Declares e.location name) :
      ∀ l ∈ (LoadError.definition e).locations, source.Covers l := by
    obtain ⟨name, hname⟩ := he
    exact List.forall_mem_singleton.2 hname.covers
  rw [traits]
  refine (source.ensures_declarations.mapError fun e he ↦ ?_).bind fun ds hds ↦ ?_
  · exact List.forall_mem_singleton.2 he
  · refine (Except.ensures_mapM fun d hd ↦ ?_).mapError fun e ↦ hlocated
    exact Trait.ensures_ofDeclaration (hds d hd)

namespace Database

/-! ### Truthful databases -/

/-- **A truthful database**: the locations of all traits and of all effects tell the truth. -/
def Truthful (tells : Location → String → Prop) (db : Database) : Prop :=
  ∀ i t, db.trait? i = some t → t.Truthful tells

/-- Each of some locations tells some name. -/
def Told (tells : Location → String → Prop) (locations : List Location) : Prop :=
  ∀ l ∈ locations, ∃ name, tells l name

variable {tells : Location → String → Prop} {db : Database} {t : Trait} {ts : List Trait}
  {e : LoadError} {l : Location} {name : String} {i : Nat}

theorem told_singleton (h : tells l name) : Told tells [l] :=
  List.forall_mem_singleton.2 ⟨name, h⟩

theorem truthful_empty : empty.Truthful tells := fun i t ht ↦ by simp [empty, trait?] at ht

/-! ### Registration -/

/-- A trait is refused at its own location, and perhaps with that of the first trait of its name. -/
theorem Truthful.told_of_refusal? (h : db.Truthful tells) (ht : t.Truthful tells)
    (hrefusal : db.refusal? t = some e) : Told tells e.locations := by
  rw [refusal?] at hrefusal
  split at hrefusal
  case h_1 first hfound =>
    obtain rfl := Option.some.inj hrefusal
    obtain ⟨i, -, hfirst⟩ := Option.bind_eq_some_iff.1 hfound
    exact List.forall_mem_cons.2 ⟨⟨_, (h i first hfirst).own⟩, told_singleton ht.own⟩
  case h_2 =>
    split at hrefusal
    case isTrue =>
      obtain rfl := Option.some.inj hrefusal
      exact told_singleton ht.own
    case isFalse => cases hrefusal

theorem Truthful.push (h : db.Truthful tells) (ht : t.Truthful tells) :
    (db.push t).Truthful tells := by
  intro i u hu
  rw [trait?_push] at hu
  split at hu
  · exact Option.some.inj hu ▸ ht
  · exact h i u hu

theorem Truthful.registerAll (h : db.Truthful tells) (hts : ∀ t ∈ ts, t.Truthful tells) :
    (db.registerAll ts).1.Truthful tells ∧
      ∀ e, (db.registerAll ts).2 = some e → Told tells e.locations := by
  induction ts generalizing db with
  | nil => exact ⟨h, fun _ he ↦ by cases he⟩
  | cons t ts ih =>
    obtain ⟨ht, hts⟩ := List.forall_mem_cons.1 hts
    rw [Database.registerAll]
    split
    case h_1 e hrefusal =>
      refine ⟨h, fun e' he' ↦ ?_⟩
      obtain rfl := Option.some.inj he'
      exact h.told_of_refusal? ht hrefusal
    case h_2 => exact ih (h.push ht) hts

/-- A line of one of some sources declares a name. -/
def Declared (sources : List Source) (l : Location) (name : String) : Prop :=
  ∃ source ∈ sources, source.Declares l name

/-- A location names a line of one of some sources. -/
def Covered (sources : List Source) (l : Location) : Prop := ∃ source ∈ sources, source.Covers l

section Sources

variable {sources : List Source} {source : Source}

theorem covered_of_told {locations : List Location} (h : Told (Declared sources) locations) :
    ∀ l ∈ locations, Covered sources l := by
  intro l hl
  obtain ⟨name, source, hsource, hdeclares⟩ := h l hl
  exact ⟨source, hsource, hdeclares.covers⟩

/-- **One source keeps a database truthful.** -/
theorem Truthful.addSource (h : db.Truthful (Declared sources)) (hsource : source ∈ sources) :
    (db.addSource source).1.Truthful (Declared sources) ∧
      (db.addSource source).2.Ensures (fun _ ↦ True)
        (fun e ↦ ∀ l ∈ e.locations, Covered sources l) := by
  have htraits := source.ensures_traits
  rw [Database.addSource]
  split
  case h_1 e herror =>
    exact ⟨h, fun l hl ↦ ⟨source, hsource, htraits.of_eq_error herror l hl⟩⟩
  case h_2 ts hts =>
    have hdeclared (t : Trait) (ht : t ∈ ts) : t.Truthful (Declared sources) :=
      (htraits.of_eq_ok hts t ht).imp fun l name hname ↦ ⟨source, hsource, hname⟩
    obtain ⟨hall, hrefused⟩ := h.registerAll hdeclared
    split
    case h_1 heq =>
      rw [heq] at hall
      exact ⟨hall, trivial⟩
    case h_2 heq =>
      rw [heq] at hall hrefused
      exact ⟨hall, covered_of_told (hrefused _ rfl)⟩

/-- **All sources keep a database truthful.** -/
theorem Truthful.ensures_addSources {rest : List Source} (h : db.Truthful (Declared sources))
    (hrest : rest ⊆ sources) :
    (db.addSources rest).Ensures (Truthful (Declared sources))
      (fun e ↦ ∀ l ∈ e.locations, Covered sources l) := by
  induction rest generalizing db with
  | nil => exact h
  | cons source rest ih =>
    obtain ⟨hsource, hrest⟩ := List.cons_subset.1 hrest
    obtain ⟨hadded, hfault⟩ := h.addSource hsource
    rw [addSources]
    split
    case h_1 heq =>
      rw [heq] at hadded
      exact ih hadded hrest
    case h_2 heq =>
      rw [heq] at hfault
      exact hfault

end Sources

/-! ### Formulas and effects -/

/-- An error of an analysis all of whose locations are told. -/
abbrev ToldError (tells : Location → String → Prop) (e : AnalysisError) : Prop :=
  Told tells e.locations

theorem ensures_checkAt (scope : Scope) (hl : tells l name) (sort : ValueSort) (f : Formula) :
    (scope.checkAt l sort f).Ensures (fun _ ↦ True) (ToldError tells) := by
  rw [Scope.checkAt]
  cases scope.check sort f with
  | ok => trivial
  | error fault => exact told_singleton hl

theorem ensures_checkOwnFormula (db : Database) (ht : t.Truthful tells) :
    (db.checkOwnFormula t).Ensures (fun _ ↦ True) (ToldError tells) := by
  rw [checkOwnFormula]
  split
  · exact ensures_checkAt _ ht.own _ _
  · trivial

theorem ensures_targetOf (db : Database) (owner : Trait) {effect : Effect}
    (heffect : tells effect.location effect.target) :
    (db.targetOf owner effect).Ensures (fun _ ↦ True) (ToldError tells) := by
  have hrefused (fault : AnalysisFault) : ToldError tells (.single ⟨fault, effect.location⟩) :=
    told_singleton heffect
  rw [targetOf]
  dsimp only
  split
  case h_1 => exact hrefused _
  case h_2 =>
    split
    case h_1 => exact hrefused _
    case h_2 =>
      split
      case h_1 => exact hrefused _
      case h_2 => exact (ensures_checkAt _ heffect _ _).bind fun _ _ ↦ trivial

theorem ensures_linksOf (db : Database) (owner : Trait) (place number : Nat)
    {effects : List Effect} (heffects : ∀ effect ∈ effects, tells effect.location effect.target) :
    (db.linksOf owner place number effects).Ensures (fun _ ↦ True) (ToldError tells) := by
  induction effects generalizing number with
  | nil => trivial
  | cons effect effects ih =>
    obtain ⟨heffect, heffects⟩ := List.forall_mem_cons.1 heffects
    exact (ensures_targetOf db owner heffect).bind fun _ _ ↦
      (ih (number + 1) heffects).bind fun _ _ ↦ trivial

theorem Truthful.ensures_effectLinks (h : db.Truthful tells) :
    db.effectLinks.Ensures (fun _ ↦ True) (ToldError tells) := by
  have hall : (db.traits.toList.zipIdx.mapM fun (t, place) => db.checkTrait t place).Ensures
      (fun links ↦ ∀ l ∈ links, True) (ToldError tells) := by
    refine Except.ensures_mapM fun (t, place) hmem ↦ ?_
    have ht : t.Truthful tells := h place t (mem_zipIdx_traits.1 hmem)
    exact (ensures_checkOwnFormula db ht).bind fun _ _ ↦
      ensures_linksOf db t place 0 fun effect heffect ↦
        ht.effects effect (Array.mem_toList_iff.1 heffect)
  exact hall.bind fun _ _ ↦ trivial

theorem Truthful.link (h : db.Truthful tells) (links : List EffectLink) :
    (db.link links).Truthful tells := by
  intro i t ht
  rw [trait?_link] at ht
  obtain ⟨u, hu, rfl⟩ := Option.map_eq_some_iff.1 ht
  exact (h i u hu).congr rfl rfl rfl

/-! ### Inheritance and cycles -/

theorem ensures_resolveParent (db : Database) (ht : t.Truthful tells) :
    (db.resolveParent t).Ensures (Trait.Truthful tells) (ToldError tells) := by
  rw [resolveParent]
  split
  case h_1 =>
    split
    case h_1 => exact told_singleton ht.own
    case h_2 =>
      split
      case isTrue => exact ht.congr rfl rfl rfl
      case isFalse => exact told_singleton ht.own
  case h_2 | h_3 | h_4 | h_5 => exact ht

/-- The walk over all traits keeps them truthful, and a fault that it has met is told. -/
theorem truthful_foldl_resolveStep {done : Array Trait} {fault : Option AnalysisError}
    (hts : ∀ t ∈ ts, t.Truthful tells) (hdone : ∀ t ∈ done, t.Truthful tells)
    (hfault : ∀ e, fault = some e → ToldError tells e) :
    (∀ t ∈ (ts.foldl db.resolveStep (done, fault)).1, t.Truthful tells) ∧
      ∀ e, (ts.foldl db.resolveStep (done, fault)).2 = some e → ToldError tells e := by
  induction ts generalizing done fault with
  | nil => exact ⟨hdone, hfault⟩
  | cons t ts ih =>
    obtain ⟨ht, hts⟩ := List.forall_mem_cons.1 hts
    have hpush {u : Trait} (hu : u.Truthful tells) : ∀ t ∈ done.push u, t.Truthful tells := by
      intro t' ht'
      rcases Array.mem_push.1 ht' with ht' | rfl
      · exact hdone t' ht'
      · exact hu
    rw [List.foldl_cons]
    cases fault with
    | some e => exact ih hts (hpush ht) hfault
    | none =>
      have hresolved := ensures_resolveParent db ht
      rw [resolveStep]
      split
      case h_1 u hu => exact ih hts (hpush (hresolved.of_eq_ok hu)) fun _ he ↦ by cases he
      case h_2 e he =>
        refine ih hts (hpush ht) fun e' he' ↦ ?_
        obtain rfl := Option.some.inj he'
        exact hresolved.of_eq_error he

theorem Truthful.ensures_withParents (h : db.Truthful tells) :
    db.withParents.Ensures (Truthful tells) (ToldError tells) := by
  have hnone (e : AnalysisError) (he : none = some e) : ToldError tells e := by cases he
  obtain ⟨htraits, hfault⟩ := truthful_foldl_resolveStep (forall_mem_traits.2 h)
    (fun t ht ↦ absurd ht (Array.not_mem_empty t)) hnone
  rw [withParents, resolveParents_eq]
  split
  case h_1 heq =>
    obtain ⟨rfl, -⟩ := Prod.mk.inj heq
    exact forall_mem_traits.1 fun t ht ↦ htraits t (Array.mem_toList_iff.1 ht)
  case h_2 heq => exact hfault _ (Prod.mk.inj heq).2

/-- What a search finds is told by the traits that it has met. -/
theorem Truthful.ensures_checkCycles (h : db.Truthful tells) (relation : Relation) :
    (db.checkCycles relation).Ensures (fun _ ↦ True) (ToldError tells) := by
  rw [checkCycles]
  cases hsearch : (db.graph relation).search Limits.dependencyDepth with
  | ok => trivial
  | error finding =>
    cases finding with
    | tooDeep i =>
      obtain ⟨hi, -⟩ := Graph.holds_of_search hsearch
      obtain ⟨t, ht⟩ := exists_trait?_of_lt (size_graph relation ▸ hi)
      show Told tells [((db.trait? i).getD default).location]
      rw [ht]
      exact told_singleton (h i t ht).own
    | cycle members =>
      intro l hl
      obtain ⟨member, hmember, rfl⟩ := List.mem_map.1 hl
      obtain ⟨t, ht, rfl⟩ := List.mem_map.1 hmember
      obtain ⟨i, -, hi⟩ := List.mem_filterMap.1 ht
      exact ⟨t.name, (h i t hi).own⟩

theorem Truthful.ensures_checkSpecialties (h : db.Truthful tells) :
    db.checkSpecialties.Ensures (fun _ ↦ True) (ToldError tells) := by
  refine Except.ensures_forM fun t ht ↦ ?_
  split
  · exact told_singleton (forall_mem_traits.2 h t ht).own
  · trivial

/-! ### The whole way -/

/-- **An analysis keeps a database truthful**, and all locations of its errors are told. -/
theorem Truthful.ensures_analyze (h : db.Truthful tells) :
    db.analyze.Ensures (Truthful tells) (ToldError tells) :=
  h.ensures_effectLinks.bind fun links _ ↦
    (h.link links).ensures_withParents.bind fun _ h' ↦
      (h'.ensures_checkCycles .inheritance).bind fun _ _ ↦
        (h'.ensures_checkCycles .functions).bind fun _ _ ↦
          h'.ensures_checkSpecialties.bind fun _ _ ↦
            (h'.ensures_checkCycles .evaluation).bind fun _ _ ↦ h'

theorem Truthful.present (h : db.Truthful tells) (preferences : LoadPreferences) :
    (db.present preferences).Truthful tells := by
  obtain ⟨dress, hpresent, hdress⟩ := db.present_eq_dressed preferences
  rw [hpresent]
  intro i t ht
  rw [trait?_dressed] at ht
  obtain ⟨u, hu, rfl⟩ := Option.map_eq_some_iff.1 ht
  obtain ⟨_, _, heq, -⟩ := hdress u
  rw [heq]
  exact (h i u hu).congr rfl rfl rfl

theorem ensures_load (sources : List Source) (preferences : LoadPreferences) :
    (load sources preferences).Ensures (Truthful (Declared sources))
      (fun e ↦ ∀ l ∈ e.locations, Covered sources l) := by
  have hcount : (checkSourceCount sources).Ensures (fun _ ↦ True)
      (fun e ↦ ∀ l ∈ e.locations, Covered sources l) := by
    rw [checkSourceCount]
    split
    · exact fun _ hl ↦ absurd hl List.not_mem_nil
    · trivial
  have hnames (db : Database) : (db.requireNames preferences.coreNames).Ensures (fun _ ↦ True)
      (fun e ↦ ∀ l ∈ e.locations, Covered sources l) := by
    rw [requireNames]
    split
    · exact fun _ hl ↦ absurd hl List.not_mem_nil
    · trivial
  have hsources := truthful_empty.ensures_addSources (List.Subset.refl sources)
  exact hcount.bind fun _ _ ↦ hsources.bind fun db hdb ↦ (hnames db).bind fun _ _ ↦
    (hdb.ensures_analyze.mapError fun e he ↦ covered_of_told he).bind fun _ h ↦
      h.present preferences

/-- **All locations are true.** In a loaded database, the location of each trait names a line of one
of the sources on which this trait is declared, and the location of each effect a line that declares
a change of its target. Where sources cannot be loaded, the place of the error, and every other
location that it tells, is a line of one of the sources. -/
theorem locations_of_load (sources : List Source) (preferences : LoadPreferences) :
    (∀ db, load sources preferences = .ok db → ∀ i t, db.trait? i = some t →
      (∃ source ∈ sources, source.Declares t.location t.name) ∧
      ∀ effect ∈ t.effects,
        ∃ source ∈ sources, source.Declares effect.location effect.target) ∧
    ∀ e, load sources preferences = .error e → ∀ l, e.location? = some l ∨ l ∈ e.locations →
      ∃ source ∈ sources, source.Covers l := by
  have hload := ensures_load sources preferences
  refine ⟨fun db hdb i t ht ↦ ?_, fun e he l hl ↦ ?_⟩
  · have htruthful : t.Truthful (Declared sources) := hload.of_eq_ok hdb i t ht
    exact ⟨htruthful.own, htruthful.effects⟩
  · have hmem : l ∈ e.locations := hl.elim LoadError.mem_locations_of_location? id
    exact hload.of_eq_error he l hmem

/-- A source that is malformed on its third line. -/
def malformedSource : Source := ⟨"malformed.txt", "# no declaration\n\n  ?\n"⟩

/-- An effect of a second source is declared on its second line; and a malformed third line is one
of the lines of its source. -/
theorem locations_of_load_gifted :
    (load ([smallSource] ++ [giftedSource]) ⟨[], false⟩ = .ok smallGifted.noted ∧
      smallGifted.noted.trait? 2 = some gifted ∧
      ∃ source ∈ [smallSource] ++ [giftedSource], source.Declares ⟨"gifted.txt", 2⟩ "DX") ∧
    load [smallSource, malformedSource] ⟨[], false⟩ =
        .error (.declaration ⟨.malformed, ⟨"malformed.txt", 3⟩⟩) ∧
      ∃ source ∈ [smallSource, malformedSource], source.Covers ⟨"malformed.txt", 3⟩ := by
  have hgifted : smallGifted.noted.trait? 2 = some gifted := by
    rw [trait?, traits_noted_gifted]
    rfl
  have hmalformed : load [smallSource, malformedSource] ⟨[], false⟩ =
      .error (.declaration ⟨.malformed, ⟨"malformed.txt", 3⟩⟩) := by
    have hcount : checkSourceCount [smallSource, malformedSource] = .ok () := by decide
    have htraits : malformedSource.traits =
        .error (.declaration ⟨.malformed, ⟨"malformed.txt", 3⟩⟩) := by rfl
    have hsources : empty.addSources [smallSource, malformedSource] =
        .error (.declaration ⟨.malformed, ⟨"malformed.txt", 3⟩⟩) := by
      show empty.addSources ([smallSource] ++ [malformedSource]) = _
      rw [addSources_append, addSources_small, Except.ok_bind, addSources, addSource, htraits]
    rw [load, hcount, Except.ok_bind, hsources]
    rfl
  obtain ⟨hdeclares, -⟩ := locations_of_load ([smallSource] ++ [giftedSource]) ⟨[], false⟩
  obtain ⟨-, hcovers⟩ := locations_of_load [smallSource, malformedSource] ⟨[], false⟩
  refine ⟨⟨load_gifted, hgifted, ?_⟩, hmalformed, hcovers _ hmalformed _ (.inl rfl)⟩
  exact (hdeclares _ load_gifted 2 gifted hgifted).2 _ (Array.mem_singleton.2 rfl)

end Database
end PointBuy
