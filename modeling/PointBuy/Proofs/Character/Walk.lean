import Mathlib.Data.List.Nodup
import PointBuy.Character.Basic

/-!
# Where a walk leads

A walk starts from one trait and looks at each trait that it has met, in the order they were met;
the dependents of a trait are met if its record has changed. The invariant (`Follows`) splits the
traits that have been met into those that have been looked at and those that are pending. Of the
former the records are new and the changes are noted, and where there is a change all dependents
have been met. No trait is met twice, and so the walk ends with nothing pending after no more steps
than there are traits, though the traits that may read one another can form circles; that a walk is
given no more steps than this does not matter, as any greater number leads to the same end.

A walk never jumps: each trait that it meets is its start, or a dependent of a trait that it has met
before and found changed (`Led`).

## Main definitions

* `Walk.Follows` : the invariant of a walk.
* `Walk.Led` : what a walk has met, each trait led to by a changed one.
* `Walk.Ended` : the end of a walk.

## Main statements

* `Walk.Follows.look` : looking at one more trait keeps the invariant.
* `Walk.follows_of_start` : at the end of a walk nothing is pending.
* `Walk.Led.follow` : a walk meets only what it is led to.
* `Walk.ended_of_start` : a walk comes to its end.
-/

namespace PointBuy.Walk

variable {walk : Walk} {size : Nat} {members : List Nat}

/-! ### Meeting traits -/

/-- The traits that have been met, each once. -/
structure Meets (size : Nat) (members : List Nat) (walk : Walk) : Prop where
  order_eq : walk.order.toList = members
  nodup : members.Nodup
  lt_size : ∀ i ∈ members, i < size
  met_eq : ∀ i : Nat, walk.met[i]? = if i < size then some (decide (i ∈ members)) else none

theorem records_meet (walk : Walk) (i : Nat) : (walk.meet i).records = walk.records := by
  rw [meet]
  split <;> rfl

theorem changed_meet (walk : Walk) (i : Nat) : (walk.meet i).changed = walk.changed := by
  rw [meet]
  split <;> rfl

theorem records_foldl_meet (walk : Walk) (nodes : List Nat) :
    (nodes.foldl meet walk).records = walk.records := by
  induction nodes generalizing walk with
  | nil => rfl
  | cons i nodes ih => rw [List.foldl_cons, ih, records_meet]

theorem changed_foldl_meet (walk : Walk) (nodes : List Nat) :
    (nodes.foldl meet walk).changed = walk.changed := by
  induction nodes generalizing walk with
  | nil => rfl
  | cons i nodes ih => rw [List.foldl_cons, ih, changed_meet]

/-- One more trait is met, if it has not been before. -/
theorem Meets.meet (h : walk.Meets size members) (i : Nat) :
    ∃ more, (walk.meet i).Meets size (members ++ more) ∧ (i < size → i ∈ members ++ more) := by
  rw [Walk.meet]
  split
  case isTrue hunmet =>
    rw [h.met_eq] at hunmet
    split at hunmet
    case isFalse => cases hunmet
    case isTrue hi =>
      have hnew : i ∉ members := of_decide_eq_false (Option.some.inj hunmet)
      refine ⟨[i], ⟨?_, ?_, ?_, fun j ↦ ?_⟩, fun _ ↦ List.mem_append_right _ List.mem_cons_self⟩
      · rw [Array.toList_push, h.order_eq]
      · exact List.nodup_append.2 ⟨h.nodup, List.nodup_singleton i, fun j hj k hk ↦ by
          rw [List.mem_singleton.1 hk]
          rintro rfl
          exact hnew hj⟩
      · intro j hj
        rcases List.mem_append.1 hj with hj | hj
        · exact h.lt_size j hj
        · exact List.mem_singleton.1 hj ▸ hi
      · rw [Array.getElem?_setIfInBounds]
        split
        case isTrue hij =>
          subst hij
          have hsize : i < walk.met.size := by
            have hsome : walk.met[i]?.isSome = true := by
              rw [h.met_eq, if_pos hi]
              rfl
            exact (Array.getElem?_eq_some_iff.1 (Option.some_get hsome).symm).1
          simp [hsize, hi]
        case isFalse hij =>
          rw [h.met_eq]
          simp [Ne.symm hij]
  case isFalse hmet =>
    refine ⟨[], (List.append_nil members).symm ▸ h, fun hi ↦ ?_⟩
    rw [List.append_nil]
    by_contra hnew
    rw [h.met_eq, if_pos hi, decide_eq_false hnew] at hmet
    exact hmet rfl

/-- Several traits are met. -/
theorem Meets.foldl_meet (h : walk.Meets size members) (nodes : List Nat) :
    ∃ more, (nodes.foldl Walk.meet walk).Meets size (members ++ more) ∧
      ∀ i ∈ nodes, i < size → i ∈ members ++ more := by
  induction nodes generalizing walk members with
  | nil => exact ⟨[], (List.append_nil members).symm ▸ h, fun _ hi ↦ (nomatch hi)⟩
  | cons i nodes ih =>
    obtain ⟨more, hmeets, hi⟩ := h.meet i
    obtain ⟨others, hall, hnodes⟩ := ih hmeets
    rw [List.append_assoc] at hall hnodes
    refine ⟨more ++ others, hall, List.forall_mem_cons.2 ⟨fun hlt ↦ ?_, hnodes⟩⟩
    rw [← List.append_assoc]
    exact List.mem_append_left _ (hi hlt)

/-! ### Looking at traits -/

section Follows

variable {sheet : Sheet} {dependents : Graph} {old : Array String} {looked pending : List Nat}
  {i : Nat}

/-- Whether the record of a trait is another one than before. -/
def Differs (sheet : Sheet) (old : Array String) (i : Nat) : Prop := old[i]? ≠ some (sheet.record i)

instance : DecidablePred (Differs sheet old) := fun i ↦
  inferInstanceAs (Decidable (old[i]? ≠ some (sheet.record i)))

/-- **The invariant of a walk** over the records `old`, where the traits of `looked` have been
looked at and those of `pending` have been met. -/
structure Follows (sheet : Sheet) (dependents : Graph) (old : Array String)
    (looked pending : List Nat) (walk : Walk) : Prop where
  meets : walk.Meets old.size (looked ++ pending)
  /-- Just the traits that have been looked at have their new records. -/
  records_eq : ∀ i : Nat,
    walk.records[i]? = if i ∈ looked then some (sheet.record i) else old[i]?
  /-- Just the changes of these are noted. -/
  changed_eq : walk.changed.toList = looked.filter (Differs sheet old ·)
  /-- Where there is a change, all dependents have been met. -/
  closed : ∀ i ∈ looked, Differs sheet old i →
    ∀ j ∈ dependents.pointedTo i, j < old.size → j ∈ looked ++ pending

/-- At the start one trait is pending. -/
theorem follows_start (hi : i < old.size) :
    (start old i).Follows sheet dependents old [] [i] := by
  have hnone : Meets old.size [] ⟨old, #[], Array.replicate old.size false, #[]⟩ :=
    ⟨rfl, List.nodup_nil, fun _ hj ↦ (nomatch hj), fun j ↦ by
      rw [Array.getElem?_replicate]
      rfl⟩
  obtain ⟨more, hmeets, -⟩ := hnone.meet i
  have hmore : more = [i] := by
    rw [← List.nil_append more, ← hmeets.order_eq, Walk.meet, if_pos]
    · rfl
    · rw [Array.getElem?_replicate, if_pos hi]
  subst hmore
  refine ⟨hmeets, fun j ↦ ?_, ?_, fun _ hj ↦ (nomatch hj)⟩
  · rw [start, records_meet, if_neg List.not_mem_nil]
  · rw [start, changed_meet]
    rfl

/-- **Looking at one more trait** keeps the invariant. -/
theorem Follows.look (h : walk.Follows sheet dependents old looked (i :: pending)) :
    ∃ more, (walk.look sheet dependents i).Follows sheet dependents old (looked ++ [i])
      (pending ++ more) := by
  have hsplit (more : List Nat) :
      looked ++ i :: pending ++ more = looked ++ [i] ++ (pending ++ more) := by
    simp only [List.append_assoc, List.cons_append, List.nil_append]
  have hnew : i ∉ looked := fun hi ↦
    List.disjoint_of_nodup_append h.meets.nodup hi List.mem_cons_self
  have hi : i < old.size :=
    h.meets.lt_size i (List.mem_append_right _ List.mem_cons_self)
  have hrecord : walk.records[i]? = old[i]? := by rw [h.records_eq, if_neg hnew]
  -- What is said of the traits looked at so far has to be said of one more.
  have hrecords {records : Array String} (hi : records[i]? = some (sheet.record i))
      (hothers : ∀ j, j ≠ i → records[j]? = walk.records[j]?) (j : Nat) :
      records[j]? = if j ∈ looked ++ [i] then some (sheet.record j) else old[j]? := by
    by_cases hj : j = i
    · rw [hj, hi, if_pos (List.mem_append_right _ List.mem_cons_self)]
    · rw [hothers j hj, h.records_eq]
      simp [hj]
  rw [Walk.look, hrecord]
  split
  case isTrue hsame =>
    have hdiffers : ¬ Differs sheet old i := fun hne ↦ hne hsame
    have hmeets : walk.Meets old.size (looked ++ [i] ++ (pending ++ [])) := by
      rw [← hsplit, List.append_nil]
      exact h.meets
    refine ⟨[], hmeets, hrecords (hrecord.trans hsame) fun _ _ ↦ rfl, ?_, fun j hj hd ↦ ?_⟩
    · rw [h.changed_eq, List.filter_append]
      simp [hdiffers]
    · rcases List.mem_append.1 hj with hj | hj
      · rw [← hsplit, List.append_nil]
        exact h.closed j hj hd
      · exact absurd (List.mem_singleton.1 hj ▸ hd) hdiffers
  case isFalse hne =>
    have hdiffers : Differs sheet old i := hne
    have hnoted : Meets old.size (looked ++ i :: pending)
        { walk with
          records := walk.records.setIfInBounds i (sheet.record i)
          changed := walk.changed.push i } :=
      ⟨h.meets.order_eq, h.meets.nodup, h.meets.lt_size, h.meets.met_eq⟩
    obtain ⟨more, hmeets, hnodes⟩ := hnoted.foldl_meet (dependents.pointedTo i)
    rw [hsplit] at hmeets hnodes
    refine ⟨more, hmeets, fun j ↦ ?_, ?_, fun j hj hd ↦ ?_⟩
    · rw [records_foldl_meet]
      refine hrecords ?_ (fun k hk ↦ Array.getElem?_setIfInBounds_ne (Ne.symm hk)) j
      have hsize : i < walk.records.size := by
        rw [Array.getElem?_eq_getElem hi] at hrecord
        exact (Array.getElem?_eq_some_iff.1 hrecord).1
      exact Array.getElem?_setIfInBounds_self_of_lt hsize
    · rw [changed_foldl_meet, Array.toList_push, h.changed_eq, List.filter_append]
      simp [hdiffers]
    · rcases List.mem_append.1 hj with hj | hj
      · intro k hk hlt
        rw [← hsplit]
        exact List.mem_append_left _ (h.closed j hj hd k hk hlt)
      · exact List.mem_singleton.1 hj ▸ hnodes

/-- The traits that have been met are no more than there are. -/
theorem Follows.length_le (h : walk.Follows sheet dependents old looked pending) :
    (looked ++ pending).length ≤ old.size := by
  have hsubset : looked ++ pending ⊆ List.range old.size := fun i hi ↦
    List.mem_range.2 (h.meets.lt_size i hi)
  have hle := h.meets.nodup.length_le_of_subset hsubset
  rwa [List.length_range] at hle

/-- Where as many traits as there are have been looked at, none is left. -/
theorem Follows.pending_eq_nil (h : walk.Follows sheet dependents old looked pending)
    (hcount : old.size ≤ looked.length) : pending = [] := by
  have hle := h.length_le
  rw [List.length_append] at hle
  exact List.eq_nil_of_length_eq_zero (show pending.length = 0 by omega)

/-- What is looked at next is the first of those that are pending. -/
theorem Follows.getElem?_order (h : walk.Follows sheet dependents old looked pending) :
    walk.order[looked.length]? = pending.head? := by
  rw [← Array.getElem?_toList, h.meets.order_eq, List.getElem?_append_right (Nat.le_refl _),
    Nat.sub_self, List.head?_eq_getElem?]

/-- **At the end nothing is pending**, if the walk may look at as many traits as there are. -/
theorem Follows.follow {count : Nat} (h : walk.Follows sheet dependents old looked pending)
    (hcount : old.size ≤ looked.length + count) :
    ∃ more, (Walk.follow sheet dependents count looked.length walk).Follows sheet dependents old
      (looked ++ pending ++ more) [] := by
  induction count generalizing looked pending walk with
  | zero =>
    obtain rfl := h.pending_eq_nil hcount
    refine ⟨[], ?_⟩
    rw [List.append_nil, List.append_nil]
    exact h
  | succ count ih =>
    rw [Walk.follow, h.getElem?_order]
    cases pending with
    | nil =>
      refine ⟨[], ?_⟩
      rw [List.append_nil, List.append_nil]
      exact h
    | cons i pending =>
      obtain ⟨more, hlook⟩ := h.look
      have hroom : old.size ≤ (looked ++ [i]).length + count := by
        rw [List.length_append, List.length_singleton]
        omega
      obtain ⟨others, hfollow⟩ := ih hlook hroom
      refine ⟨more ++ others, ?_⟩
      rw [List.length_append, List.length_singleton] at hfollow
      have horder : looked ++ i :: pending ++ (more ++ others) =
          looked ++ [i] ++ (pending ++ more) ++ others := by
        simp only [List.append_assoc, List.cons_append, List.nil_append]
      rw [horder]
      exact hfollow

/-- **At the end of a walk** from a trait, this trait has been looked at, and nothing is pending. -/
theorem follows_of_start (sheet : Sheet) (dependents : Graph) (hi : i < old.size) :
    ∃ looked, i ∈ looked ∧
      (Walk.follow sheet dependents old.size 0 (start old i)).Follows sheet dependents old
        looked [] := by
  have hstart : (start old i).Follows sheet dependents old [] [i] := follows_start hi
  obtain ⟨more, hfollow⟩ := hstart.follow (Nat.le_add_left _ _)
  exact ⟨[i] ++ more, List.mem_append_left _ List.mem_cons_self, hfollow⟩

end Follows

/-! ### Whence a trait is met -/

/-- The traits that are met from `start`, in their order: each further one depends on one before it
for which `Changed` holds. -/
inductive Led (Changed : Nat → Prop) (dependents : Graph) (start : Nat) : List Nat → Prop
  | start : Led Changed dependents start [start]
  | next {members : List Nat} {k i : Nat} :
    Led Changed dependents start members → k ∈ members → Changed k →
      i ∈ dependents.pointedTo k → Led Changed dependents start (members ++ [i])

section Led

variable {Changed : Nat → Prop} {dependents : Graph} {start i k : Nat} {before after : List Nat}
  {walk : Walk}

/-- **Each trait is the start, or depends on a changed one before it.** -/
theorem Led.exists_before (h : Led Changed dependents start (before ++ i :: after)) :
    before = [] ∧ i = start ∨ ∃ k ∈ before, Changed k ∧ i ∈ dependents.pointedTo k := by
  generalize hmembers : before ++ i :: after = members at h
  induction h generalizing after with
  | start =>
    obtain ⟨rfl, hi⟩ | ⟨-, hnil⟩ := List.append_eq_singleton_iff.1 hmembers
    · exact .inl ⟨rfl, (List.cons.inj hi).1⟩
    · cases hnil
  | @next members k j _ hk hchanged hj ih =>
    rcases List.eq_nil_or_concat after with rfl | ⟨others, last, rfl⟩
    · -- the trait is the last one that has been met
      obtain ⟨rfl, hij⟩ := List.append_inj' hmembers rfl
      obtain rfl := (List.cons.inj hij).1
      exact .inr ⟨k, hk, hchanged, hj⟩
    · have hinit : before ++ i :: others ++ [last] = members ++ [j] := by
        rw [← hmembers, List.append_assoc, List.cons_append, List.concat_eq_append]
      exact ih (List.append_inj' hinit rfl).1

/-- Of the traits that have changed, too, each is the start or depends on one before it. -/
theorem Led.exists_before_filter [DecidablePred Changed] {members : List Nat}
    (h : Led Changed dependents start members)
    (hsplit : members.filter (Changed ·) = before ++ i :: after) :
    before = [] ∧ i = start ∨ ∃ k ∈ before, i ∈ dependents.pointedTo k := by
  obtain ⟨first, rest, rfl, rfl, hrest⟩ := List.filter_eq_append_iff.1 hsplit
  obtain ⟨unchanged, others, rfl, hunchanged, -, -⟩ := List.filter_eq_cons_iff.1 hrest
  rw [← List.append_assoc] at h
  rcases h.exists_before with ⟨hnil, hi⟩ | ⟨k, hk, hchanged, hi⟩
  · rw [(List.append_eq_nil_iff.1 hnil).1]
    exact .inl ⟨rfl, hi⟩
  · rcases List.mem_append.1 hk with hk | hk
    · exact .inr ⟨k, List.mem_filter.2 ⟨hk, decide_eq_true hchanged⟩, hi⟩
    · exact absurd (decide_eq_true hchanged) (hunchanged k hk)

theorem Led.meet (h : Led Changed dependents start walk.order.toList)
    (hk : k ∈ walk.order.toList) (hchanged : Changed k) (hi : i ∈ dependents.pointedTo k) :
    Led Changed dependents start (walk.meet i).order.toList := by
  rw [Walk.meet]
  split
  · rw [Array.toList_push]
    exact .next h hk hchanged hi
  · exact h

theorem mem_order_meet (hk : k ∈ walk.order.toList) : k ∈ (walk.meet i).order.toList := by
  rw [meet]
  split
  · rw [Array.toList_push]
    exact List.mem_append_left _ hk
  · exact hk

theorem Led.foldl_meet (h : Led Changed dependents start walk.order.toList)
    (hk : k ∈ walk.order.toList) (hchanged : Changed k) {nodes : List Nat}
    (hnodes : nodes ⊆ dependents.pointedTo k) :
    Led Changed dependents start (nodes.foldl Walk.meet walk).order.toList := by
  induction nodes generalizing walk with
  | nil => exact h
  | cons i nodes ih =>
    obtain ⟨hi, hnodes⟩ := List.cons_subset.1 hnodes
    exact ih (h.meet hk hchanged hi) (mem_order_meet hk) hnodes

end Led

section Follows

variable {sheet : Sheet} {dependents : Graph} {old : Array String} {looked pending : List Nat}
  {start i count : Nat} {walk : Walk}

/-- **Looking at one more trait** meets only what this trait leads to. -/
theorem Led.look (h : Led (Differs sheet old) dependents start walk.order.toList)
    (hfollows : walk.Follows sheet dependents old looked (i :: pending)) :
    Led (Differs sheet old) dependents start (walk.look sheet dependents i).order.toList := by
  have hnew : i ∉ looked := fun hi ↦
    List.disjoint_of_nodup_append hfollows.meets.nodup hi List.mem_cons_self
  have hmem : i ∈ walk.order.toList := by
    rw [hfollows.meets.order_eq]
    exact List.mem_append_right _ List.mem_cons_self
  rw [Walk.look, hfollows.records_eq, if_neg hnew]
  split
  case isTrue => exact h
  case isFalse hdiffers =>
    generalize hnoted : ({ walk with
      records := walk.records.setIfInBounds i (sheet.record i)
      changed := walk.changed.push i } : Walk) = noted
    have horder : noted.order = walk.order := hnoted ▸ rfl
    rw [← horder] at h hmem
    exact h.foldl_meet hmem hdiffers (List.Subset.refl _)

/-- **A walk meets only what it is led to.** -/
theorem Led.follow (h : Led (Differs sheet old) dependents start walk.order.toList)
    (hfollows : walk.Follows sheet dependents old looked pending) :
    Led (Differs sheet old) dependents start
      (Walk.follow sheet dependents count looked.length walk).order.toList := by
  induction count generalizing looked pending walk with
  | zero => exact h
  | succ count ih =>
    rw [Walk.follow, hfollows.getElem?_order]
    cases pending with
    | nil => exact h
    | cons i pending =>
      obtain ⟨more, hlook⟩ := hfollows.look
      have hrest := ih (h.look hfollows) hlook
      rwa [List.length_append, List.length_singleton] at hrest

/-- **A walk ends by itself**: more steps than there are traits lead no further. -/
theorem Follows.follow_of_le {more : Nat}
    (h : walk.Follows sheet dependents old looked pending)
    (hcount : old.size ≤ looked.length + count) (hmore : count ≤ more) :
    Walk.follow sheet dependents more looked.length walk =
      Walk.follow sheet dependents count looked.length walk := by
  induction count generalizing looked pending walk more with
  | zero =>
    obtain rfl := h.pending_eq_nil hcount
    cases more with
    | zero => rfl
    | succ more =>
      show Walk.follow sheet dependents (more + 1) looked.length walk = walk
      rw [Walk.follow, h.getElem?_order]
      rfl
  | succ count ih =>
    obtain ⟨more, rfl⟩ : ∃ k, more = k + 1 := ⟨more - 1, by omega⟩
    rw [Walk.follow, Walk.follow, h.getElem?_order]
    cases pending with
    | nil => rfl
    | cons i pending =>
      obtain ⟨others, hlook⟩ := h.look
      have hlength : (looked ++ [i]).length = looked.length + 1 := by
        rw [List.length_append, List.length_singleton]
      rw [List.head?_cons, ← hlength]
      exact ih hlook (by rw [hlength]; omega) (by omega)

theorem size_records_follow (sheet : Sheet) (dependents : Graph) (count position : Nat)
    (walk : Walk) :
    (Walk.follow sheet dependents count position walk).records.size = walk.records.size := by
  induction count generalizing position walk with
  | zero => rfl
  | succ count ih =>
    rw [Walk.follow]
    split
    · rw [ih, Walk.look]
      split
      · rfl
      · rw [records_foldl_meet, Array.size_setIfInBounds]
    · rfl

end Follows

/-! ### The end of a walk -/

section Ended

variable {sheet : Sheet} {dependents : Graph} {old : Array String} {start k : Nat} {walk : Walk}

/-- **The end of a walk** from a trait: all that has been met has been looked at, and more steps
lead no further. -/
structure Ended (sheet : Sheet) (dependents : Graph) (old : Array String) (start : Nat)
    (walk : Walk) : Prop extends walk.Follows sheet dependents old walk.order.toList [] where
  follow_eq : ∀ count, old.size ≤ count →
    Walk.follow sheet dependents count 0 (.start old start) = walk
  mem_order : start ∈ walk.order
  led : Led (Differs sheet old) dependents start walk.order.toList

/-- **A walk comes to its end** when it may look at as many traits as there are. -/
theorem ended_of_start (sheet : Sheet) (dependents : Graph) (hstart : start < old.size) :
    Ended sheet dependents old start
      (Walk.follow sheet dependents old.size 0 (.start old start)) := by
  obtain ⟨looked, hmem, hfollows⟩ := follows_of_start sheet dependents hstart
  have hpending : (Walk.start old start).Follows sheet dependents old [] [start] :=
    follows_start hstart
  have horder := hfollows.meets.order_eq
  rw [List.append_nil] at horder
  refine ⟨horder.symm ▸ hfollows, fun count hcount ↦ ?_, ?_, ?_⟩
  · exact hpending.follow_of_le (Nat.le_add_left _ _) hcount
  · rw [← Array.mem_toList_iff, horder]
    exact hmem
  · have hled : Led (Differs sheet old) dependents start (Walk.start old start).order.toList := by
      rw [hpending.meets.order_eq]
      exact .start
    exact hled.follow hpending

namespace Ended

variable (h : walk.Ended sheet dependents old start)

include h

theorem lt_size (hk : k ∈ walk.order) : k < old.size :=
  h.meets.lt_size k (List.mem_append_left _ (Array.mem_toList_iff.2 hk))

/-- What has changed is what has been met and has another record than before. -/
theorem mem_changed_iff : k ∈ walk.changed ↔ k ∈ walk.order ∧ Differs sheet old k := by
  rw [← Array.mem_toList_iff, h.changed_eq, List.mem_filter, decide_eq_true_iff,
    Array.mem_toList_iff]

theorem mem_order_of_mem_changed (hk : k ∈ walk.changed) : k ∈ walk.order :=
  (h.mem_changed_iff.1 hk).1

theorem nodup_changed : walk.changed.toList.Nodup := by
  have hnodup := h.meets.nodup
  rw [List.append_nil] at hnodup
  rw [h.changed_eq]
  exact hnodup.filter _

/-- The records of all that has been met are new. -/
theorem getElem?_records_of_mem (hk : k ∈ walk.order) :
    walk.records[k]? = some (sheet.record k) := by
  rw [h.records_eq, if_pos (Array.mem_toList_iff.2 hk)]

/-- All records but those that have changed are the old ones. -/
theorem getElem?_records_of_not_mem (hk : k ∉ walk.changed) : walk.records[k]? = old[k]? := by
  rw [h.records_eq]
  split
  case isTrue hmet =>
    -- it has been looked at, and its record has been found the same
    have hsame : ¬ Differs sheet old k := fun hdiffers ↦
      hk (h.mem_changed_iff.2 ⟨Array.mem_toList_iff.1 hmet, hdiffers⟩)
    exact (not_not.1 hsame).symm
  case isFalse => rfl

/-- All dependents of what has changed have been met. -/
theorem mem_order_of_mem_pointedTo {j : Nat} (hk : k ∈ walk.changed)
    (hj : j ∈ dependents.pointedTo k) (hlt : j < old.size) : j ∈ walk.order := by
  obtain ⟨hmet, hdiffers⟩ := h.mem_changed_iff.1 hk
  have hmem := h.closed k (Array.mem_toList_iff.2 hmet) hdiffers j hj hlt
  rw [List.append_nil] at hmem
  exact Array.mem_toList_iff.1 hmem

/-- What has changed is the start, or depends on what has changed before. -/
theorem exists_before {before after : List Nat}
    (hsplit : walk.changed.toList = before ++ k :: after) :
    before = [] ∧ k = start ∨ ∃ j ∈ before, k ∈ dependents.pointedTo j :=
  h.led.exists_before_filter (h.changed_eq.symm.trans hsplit)

end Ended

end Ended

end PointBuy.Walk
