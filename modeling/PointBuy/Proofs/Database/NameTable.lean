import PointBuy.Proofs.Database.Registration

/-!
# The table of names

While a database is being filled, it holds its traits in a list and their places in an index, and
each call that adds to it may fail on the way. Whatever is called, and whether or not it succeeds,
the two agree: a trait enters both at once (`Database.push`), or is refused and enters neither. So
a call is taken apart into the traits that it pushes and the refusal that ends it, and what one push
keeps holds after all calls.

## Main definitions

* `Database.afterEntries` : the database after any calls.
* `Database.Refuses` : why a trait cannot enter, by the traits that are there.
* `Database.NameTable` : the invariant of all calls.

## Main statements

* `Database.addSource_cases` : what a call for a source does, as far as it gets.
* `Database.name_table_survives` : list and index agree after any calls, and what each call does.
-/

namespace PointBuy.Database

variable {db db' : Database} {t : Trait} {e : LoadError}

/-! ### Calls -/

/-- What may be asked of a database that is being filled. -/
inductive Entry where
  | source (source : Source)
  | trait (t : Trait)

/-- The database after a call. What has entered before a failure stays. -/
def afterEntry (db : Database) : Entry → Database
  | .source source => (db.addSource source).1
  | .trait t =>
    match db.register t with
    | .ok db' => db'
    | .error _ => db

/-- The database after any calls, each of which may fail. -/
def afterEntries (db : Database) (entries : List Entry) : Database := entries.foldl afterEntry db

/-- Why a trait cannot enter: its name is taken, or else there is no room. -/
inductive Refuses (db : Database) (t : Trait) : LoadError → Prop
  | taken {i : Nat} {first : Trait} (found : db.trait? i = some first)
      (name_eq : first.name = t.name) :
      Refuses db t (.duplicateName t.name first.location t.location)
  | full (free : ∀ i first, db.trait? i = some first → first.name ≠ t.name)
      (no_room : Limits.traits ≤ db.size) : Refuses db t (.tooManyTraits t.location)

/-! ### Refusals -/

theorem Indexed.find?_eq_none_iff (h : db.Indexed) {name : String} :
    db.find? name = none ↔ ∀ i first, db.trait? i = some first → first.name ≠ name := by
  rw [Option.eq_none_iff_forall_ne_some]
  constructor
  · intro hnone i first hfirst hname
    exact hnone first (h.find?_eq_some_iff.2 ⟨i, hfirst, hname⟩)
  · intro hfree first hfound
    obtain ⟨i, hfirst, hname⟩ := h.find?_eq_some_iff.1 hfound
    exact hfree i first hfirst hname

/-- **A refusal tells what stands in the way.** -/
theorem Indexed.refusal?_eq_some_iff (h : db.Indexed) :
    db.refusal? t = some e ↔ db.Refuses t e := by
  rw [refusal?]
  cases hfound : db.find? t.name with
  | some first =>
    obtain ⟨i, hfirst, hname⟩ := h.find?_eq_some_iff.1 hfound
    constructor
    · intro heq
      exact Option.some.inj heq ▸ .taken hfirst hname
    · rintro (⟨hfirst', hname'⟩ | ⟨hfree, -⟩)
      · obtain rfl := h.eq_of_name_eq hfirst hfirst' (hname.trans hname'.symm)
        rw [Option.some.inj (hfirst.symm.trans hfirst')]
      · exact absurd hname (hfree i first hfirst)
  | none =>
    have hfree := h.find?_eq_none_iff.1 hfound
    dsimp only
    constructor
    · intro heq
      split at heq
      case isTrue hroom => exact Option.some.inj heq ▸ .full hfree hroom
      case isFalse => cases heq
    · rintro (⟨hfirst, hname⟩ | ⟨-, hroom⟩)
      · exact absurd hname (hfree _ _ hfirst)
      · rw [if_pos hroom]

theorem register_eq_error_iff : db.register t = .error e ↔ db.refusal? t = some e := by
  rw [register]
  cases db.refusal? t <;> simp

theorem register_eq_ok_iff : db.register t = .ok db' ↔ db.refusal? t = none ∧ db' = db.push t := by
  rw [register]
  cases db.refusal? t <;> simp [eq_comm]

/-! ### What a call pushes -/

/-- Enters traits at the end, whether or not they may. -/
def pushAll (db : Database) (ts : List Trait) : Database := ts.foldl push db

@[simp]
theorem pushAll_nil (db : Database) : db.pushAll [] = db := rfl

@[simp]
theorem pushAll_cons (db : Database) (t : Trait) (ts : List Trait) :
    db.pushAll (t :: ts) = (db.push t).pushAll ts := rfl

theorem traits_pushAll (db : Database) (ts : List Trait) :
    (db.pushAll ts).traits = db.traits ++ ts.toArray := by
  induction ts generalizing db with
  | nil => simp
  | cons t ts ih => simp [ih, push]

/-- Traits whose names are not taken, and differ from one another, keep the index right. -/
theorem Indexed.pushAll (h : db.Indexed) {ts : List Trait}
    (hfree : ∀ t ∈ ts, db.find? t.name = none) (hnodup : (ts.map Trait.name).Nodup) :
    (db.pushAll ts).Indexed := by
  induction ts generalizing db with
  | nil => exact h
  | cons t ts ih =>
    obtain ⟨ht, hts⟩ := List.forall_mem_cons.1 hfree
    obtain ⟨hname, hnodup⟩ := List.nodup_cons.1 hnodup
    have hpush : (db.push t).Indexed := h.push ht
    refine ih hpush (fun u hu ↦ hpush.find?_eq_none_iff.2 fun i first hfirst heq ↦ ?_) hnodup
    rw [trait?_push] at hfirst
    split at hfirst
    case isTrue =>
      obtain rfl := Option.some.inj hfirst
      exact hname (List.mem_map.2 ⟨u, hu, heq.symm⟩)
    case isFalse => exact h.find?_eq_none_iff.1 (hts u hu) i first hfirst heq

/-- Traits enter up to the first that is refused. -/
theorem registerAll_cases (db : Database) (ts : List Trait) :
    db.registerAll ts = (db.pushAll ts, none) ∨
      ∃ before t after e, ts = before ++ t :: after ∧
        db.registerAll ts = (db.pushAll before, some e) ∧
        (db.pushAll before).refusal? t = some e := by
  induction ts generalizing db with
  | nil => exact .inl rfl
  | cons t ts ih =>
    rw [registerAll]
    cases hrefusal : db.refusal? t with
    | some e => exact .inr ⟨[], t, ts, e, rfl, rfl, hrefusal⟩
    | none =>
      rcases ih (db.push t) with hall | ⟨before, u, after, e, rfl, hbefore, hrefusal'⟩
      · exact .inl hall
      · exact .inr ⟨t :: before, u, after, e, rfl, hbefore, hrefusal'⟩

/-- Traits of different names have an index. -/
theorem indexed_pushAll_empty {ts : List Trait} (hnodup : (ts.map Trait.name).Nodup) :
    (empty.pushAll ts).Indexed := by
  refine indexed_empty.pushAll (fun t _ ↦ ?_) hnodup
  exact indexed_empty.find?_eq_none_iff.2 fun i first hfirst ↦ by simp [empty, trait?] at hfirst

theorem trait?_pushAll_empty (ts : List Trait) (i : Nat) :
    (empty.pushAll ts).trait? i = ts[i]? := by
  rw [trait?, traits_pushAll]
  simp [empty]

/-- Traits of different names all enter, if there is room for them. -/
theorem registerAll_empty {ts : List Trait} (hnodup : (ts.map Trait.name).Nodup)
    (hroom : ts.length ≤ Limits.traits) : empty.registerAll ts = (empty.pushAll ts, none) := by
  rcases empty.registerAll_cases ts with hall | ⟨before, t, after, e, rfl, -, hrefusal⟩
  · exact hall
  · rw [List.map_append, List.map_cons] at hnodup
    obtain ⟨hbefore, -, hapart⟩ := List.nodup_append.1 hnodup
    have hfree : (empty.pushAll before).find? t.name = none := by
      refine (indexed_pushAll_empty hbefore).find?_eq_none_iff.2 fun i first hfirst ↦ ?_
      rw [trait?_pushAll_empty] at hfirst
      exact hapart _ (List.mem_map_of_mem (List.mem_of_getElem? hfirst)) _ List.mem_cons_self
    have hsize : (empty.pushAll before).size = before.length := by
      rw [size, traits_pushAll]
      simp [empty]
    rw [List.length_append, List.length_cons] at hroom
    rw [refusal?_eq_none_iff.2 ⟨hfree, by omega⟩] at hrefusal
    cases hrefusal

/-- **What a call for a source does**: nothing where the source does not define traits, and else it
enters its traits, up to the first that is refused. -/
theorem addSource_cases (db : Database) (source : Source) :
    (∃ e, source.traits = .error e ∧ db.addSource source = (db, .error e)) ∨
    (∃ ts, source.traits = .ok ts ∧ db.addSource source = (db.pushAll ts, .ok ts.length)) ∨
    ∃ before t after e, source.traits = .ok (before ++ t :: after) ∧
      db.addSource source = (db.pushAll before, .error e) ∧
      (db.pushAll before).refusal? t = some e := by
  rw [addSource]
  cases htraits : source.traits with
  | error e => exact .inl ⟨e, rfl, rfl⟩
  | ok ts =>
    rcases db.registerAll_cases ts with hall | ⟨before, t, after, e, rfl, hbefore, hrefusal⟩
    · exact .inr (.inl ⟨ts, rfl, by simp only [hall]⟩)
    · exact .inr (.inr ⟨before, t, after, e, rfl, by simp only [hbefore], hrefusal⟩)

/-! ### All calls -/

/-- **The invariant of all calls**: the index agrees with the list, and the list has its limit. -/
structure NameTable (db : Database) : Prop where
  indexed : db.Indexed
  size_le : db.size ≤ Limits.traits

namespace NameTable

theorem empty : Database.empty.NameTable := ⟨indexed_empty, Nat.zero_le _⟩

theorem push (h : db.NameTable) (hrefusal : db.refusal? t = none) : (db.push t).NameTable where
  indexed := h.indexed.push (refusal?_eq_none_iff.1 hrefusal).1
  size_le := by
    rw [size, Database.push, Array.size_push]
    exact (refusal?_eq_none_iff.1 hrefusal).2

/-- No call breaks the table. -/
theorem afterEntry (h : db.NameTable) (entry : Entry) : (db.afterEntry entry).NameTable := by
  cases entry with
  | source source => exact addSource_induction (fun hdb _ hrefusal ↦ hdb.push hrefusal) h
  | trait t =>
    rw [Database.afterEntry]
    split
    case h_1 db' hdb' =>
      obtain ⟨hrefusal, rfl⟩ := register_eq_ok_iff.1 hdb'
      exact h.push hrefusal
    case h_2 => exact h

theorem afterEntries (h : db.NameTable) (entries : List Entry) :
    (db.afterEntries entries).NameTable := by
  induction entries generalizing db with
  | nil => exact h
  | cons entry entries ih => exact ih (h.afterEntry entry)

/-- Names are pairwise different. -/
theorem nodup_names (h : db.NameTable) : db.names.Nodup := by
  rw [names, List.Nodup, List.pairwise_map, List.pairwise_iff_getElem]
  intro i j hi hj hlt hname
  have ht : db.trait? i = some db.traits.toList[i] :=
    Array.getElem?_toList.symm.trans (List.getElem?_eq_getElem hi)
  have ht' : db.trait? j = some db.traits.toList[j] :=
    Array.getElem?_toList.symm.trans (List.getElem?_eq_getElem hj)
  exact Nat.ne_of_lt hlt (h.indexed.eq_of_name_eq ht ht' hname)

end NameTable

/-- A call appends traits to the list. -/
theorem exists_append_of_afterEntry (db : Database) (entry : Entry) :
    ∃ rest, (db.afterEntry entry).traits = db.traits ++ rest := by
  cases entry with
  | source source =>
    rw [afterEntry]
    rcases db.addSource_cases source with
      ⟨e, -, hcall⟩ | ⟨ts, -, hcall⟩ | ⟨before, t, after, e, -, hcall, -⟩
    · exact ⟨#[], by rw [hcall, Array.append_empty]⟩
    · exact ⟨ts.toArray, by rw [hcall, traits_pushAll]⟩
    · exact ⟨before.toArray, by rw [hcall, traits_pushAll]⟩
  | trait t =>
    rw [afterEntry]
    split
    case h_1 db' hdb' =>
      obtain ⟨-, rfl⟩ := register_eq_ok_iff.1 hdb'
      exact ⟨#[t], by rw [push, Array.push_eq_append]⟩
    case h_2 => exact ⟨#[], Array.append_empty.symm⟩

theorem exists_append_of_afterEntries (db : Database) (entries : List Entry) :
    ∃ rest, (db.afterEntries entries).traits = db.traits ++ rest := by
  induction entries generalizing db with
  | nil => exact ⟨#[], Array.append_empty.symm⟩
  | cons entry entries ih =>
    obtain ⟨first, hfirst⟩ := db.exists_append_of_afterEntry entry
    obtain ⟨rest, hrest⟩ := ih (db.afterEntry entry)
    refine ⟨first ++ rest, ?_⟩
    rw [← Array.append_assoc, ← hfirst, ← hrest]
    rfl

/-- **The table of names survives every call.** After any calls, succeeding or failing, the index
finds exactly the traits of the list, each under its name, no two share one, and there are no more
than the limit; further calls only append. A source that defines no traits changes nothing, and one
with a trait that is refused enters just the traits before it. A refusal of a name that is taken
tells the location of the trait that has it and that of the one that is refused. -/
theorem name_table_survives (entries more : List Entry) (source : Source) (t : Trait) :
    let db := empty.afterEntries entries
    (∀ name i, db.indexOf? name = some i ↔ ∃ t, db.trait? i = some t ∧ t.name = name) ∧
    db.names.Nodup ∧ db.size ≤ Limits.traits ∧
    (∃ rest, (db.afterEntries more).traits = db.traits ++ rest) ∧
    (∀ e, source.traits = .error e → db.addSource source = (db, .error e)) ∧
    (∀ ts, source.traits = .ok ts →
      (∃ db', db.addSource source = (db', .ok ts.length) ∧
        db'.traits = db.traits ++ ts.toArray) ∨
      ∃ before u after db' e, ts = before ++ u :: after ∧
        db.addSource source = (db', .error e) ∧
        db'.traits = db.traits ++ before.toArray ∧ db'.Refuses u e) ∧
    ((∃ db', db.register t = .ok db' ∧ db'.traits = db.traits.push t) ∨
      ∃ e, db.register t = .error e ∧ db.Refuses t e) := by
  intro db
  have h : db.NameTable := NameTable.empty.afterEntries entries
  refine ⟨h.indexed, h.nodup_names, h.size_le, db.exists_append_of_afterEntries more,
    fun e htraits ↦ ?_, fun ts htraits ↦ ?_, ?_⟩
  · rw [addSource, htraits]
  · rcases db.addSource_cases source with ⟨e, htraits', -⟩ | ⟨ts', htraits', hcall⟩ |
      ⟨before, u, after, e, htraits', hcall, hrefusal⟩
    · cases htraits.symm.trans htraits'
    · obtain rfl := Except.ok.inj (htraits.symm.trans htraits')
      exact .inl ⟨_, hcall, traits_pushAll db ts⟩
    · obtain rfl := Except.ok.inj (htraits.symm.trans htraits')
      have hafter : (db.pushAll before).NameTable := by
        have hsource := h.afterEntry (.source source)
        rwa [Database.afterEntry, hcall] at hsource
      exact .inr ⟨before, u, after, _, e, rfl, hcall, traits_pushAll db before,
        hafter.indexed.refusal?_eq_some_iff.1 hrefusal⟩
  · cases hregister : db.register t with
    | ok db' =>
      obtain ⟨-, rfl⟩ := register_eq_ok_iff.1 hregister
      exact .inl ⟨_, rfl, rfl⟩
    | error e =>
      exact .inr ⟨e, rfl, h.indexed.refusal?_eq_some_iff.1 (register_eq_error_iff.1 hregister)⟩

/-- A source that defines a name twice. -/
def twiceSource : Source := ⟨"twice.txt", "DX = 10\nDX = 20\n"⟩

/-- The attribute of that source on one of its lines. -/
def twiceDx (value : Amount) (line : Nat) : Trait :=
  .new "DX" (.attribute (.integer value)) ⟨"twice.txt", line⟩

theorem traits_twiceSource : twiceSource.traits = .ok [twiceDx 10 1, twiceDx 20 2] :=
  Except.eq_ok_of_toOption (by decide +kernel)

/-- The first of two traits of one name enters, and the second is refused with both locations. -/
theorem name_table_survives_twice :
    twiceSource.traits = .ok [twiceDx 10 1, twiceDx 20 2] ∧ ∃ db',
      empty.addSource twiceSource =
        (db', .error (.duplicateName "DX" ⟨"twice.txt", 1⟩ ⟨"twice.txt", 2⟩)) ∧
      db'.traits = #[twiceDx 10 1] := by
  refine ⟨traits_twiceSource, ?_⟩
  obtain ⟨-, -, -, -, -, hsource, -⟩ :=
    name_table_survives [] [] twiceSource (twiceDx 10 1)
  rcases hsource _ traits_twiceSource with
    ⟨db', hcall, htraits⟩ | ⟨before, u, after, db', e, hts, hcall, htraits, hrefuses⟩
  · -- both would have entered, but names stay different
    obtain ⟨-, hnodup, -⟩ :=
      name_table_survives [.source twiceSource] [] twiceSource (twiceDx 10 1)
    have hafter : empty.afterEntries [.source twiceSource] = db' := congrArg Prod.fst hcall
    rw [hafter, names, htraits] at hnodup
    exact absurd hnodup (by decide)
  · have hfound {i : Nat} {first : Trait} (h : db'.trait? i = some first) : first ∈ before := by
      have hmem : first ∈ db'.traits := Array.mem_of_getElem? h
      rw [htraits] at hmem
      simpa [afterEntries, empty] using hmem
    cases before with
    | nil =>
      cases hrefuses with
      | taken found _ => cases hfound found
      | full _ no_room =>
        rw [size, htraits] at no_room
        exact absurd no_room (by decide)
    | cons first before =>
      obtain ⟨rfl, hts⟩ := List.cons.inj hts
      obtain ⟨rfl, rfl, rfl⟩ : before = [] ∧ u = twiceDx 20 2 ∧ after = [] := by
        cases before with
        | nil => simpa [eq_comm] using hts
        | cons => simp at hts
      cases hrefuses with
      | taken found _ =>
        obtain rfl := List.mem_singleton.1 (hfound found)
        exact ⟨db', hcall, by simpa [afterEntries, empty] using htraits⟩
      | full free _ =>
        refine absurd rfl (free 0 (twiceDx 10 1) ?_)
        rw [trait?, htraits]
        rfl

end PointBuy.Database
