/-!
# Computations that may fail

What it means for a composed computation to succeed or to fail. Proofs about the loaders and readers
of this library take a result apart with these, instead of opening the monad. Where both the result
and the error have to be spoken of, a proof says what each part of a computation ensures, and puts
that together.

## Main definition

* `Except.Ensures` : what holds of the result of a computation, and what of its error.

## Main statements

* `Except.bind_eq_ok_iff` : a sequence succeeds exactly when both of its parts do.
* `Except.bind_eq_error_iff` : a sequence fails exactly when one of its parts does.
* `Except.mapError_eq_ok_iff` : a reworded error is no success.
-/

namespace Except

variable {ε ε' α β : Type}

@[simp]
theorem ok_bind (a : α) (f : α → Except ε β) : ((Except.ok a : Except ε α) >>= f) = f a :=
  rfl

@[simp]
theorem error_bind (e : ε) (f : α → Except ε β) :
    ((Except.error e : Except ε α) >>= f) = .error e :=
  rfl

@[simp]
theorem pure_eq_ok (a : α) : (pure a : Except ε α) = .ok a :=
  rfl

/-- A sequence succeeds exactly when both of its parts do. -/
theorem bind_eq_ok_iff {x : Except ε α} {f : α → Except ε β} {b : β} :
    (x >>= f) = .ok b ↔ ∃ a, x = .ok a ∧ f a = .ok b := by
  cases x with
  | error e => simp
  | ok a => simp

/-- A sequence fails exactly when one of its parts does, the second after the first. -/
theorem bind_eq_error_iff {x : Except ε α} {f : α → Except ε β} {e : ε} :
    (x >>= f) = .error e ↔ x = .error e ∨ ∃ a, x = .ok a ∧ f a = .error e := by
  cases x with
  | error e => simp
  | ok a => simp

theorem map_eq_ok_iff {x : Except ε α} {f : α → β} {b : β} :
    f <$> x = .ok b ↔ ∃ a, x = .ok a ∧ f a = b := by
  cases x <;> simp [Functor.map, Except.map]

@[simp]
theorem mapError_ok (f : ε → ε') (a : α) : (Except.ok a : Except ε α).mapError f = .ok a :=
  rfl

@[simp]
theorem mapError_error (f : ε → ε') (e : ε) :
    (Except.error e : Except ε α).mapError f = .error (f e) :=
  rfl

/-- A reworded error is no success. -/
@[simp]
theorem mapError_eq_ok_iff {x : Except ε α} {f : ε → ε'} {a : α} :
    x.mapError f = .ok a ↔ x = .ok a := by
  cases x <;> simp

theorem mapError_eq_error_iff {x : Except ε α} {f : ε → ε'} {e : ε'} :
    x.mapError f = .error e ↔ ∃ e₀, x = .error e₀ ∧ f e₀ = e := by
  cases x <;> simp

/-- What is no success is an error. -/
theorem exists_error_iff {x : Except ε α} : (∃ e, x = .error e) ↔ ¬ ∃ a, x = .ok a := by
  cases x <;> simp

theorem eq_ok_of_toOption {x : Except ε α} {a : α} (h : x.toOption = some a) : x = .ok a := by
  cases x with
  | error e => cases h
  | ok b => rw [Option.some.inj h]

theorem discard_eq_ok_iff {x : Except ε α} : discard x = .ok () ↔ ∃ a, x = .ok a := by
  cases x with
  | error e => exact ⟨fun h ↦ (nomatch h), fun ⟨_, h⟩ ↦ nomatch h⟩
  | ok a => exact ⟨fun _ ↦ ⟨a, rfl⟩, fun _ ↦ rfl⟩

theorem discard_eq_error_iff {x : Except ε α} {e : ε} :
    discard x = .error e ↔ x = .error e := by
  cases x with
  | error e =>
    show Except.error _ = Except.error _ ↔ _
    rw [Except.error.injEq, Except.error.injEq]
  | ok a => exact ⟨fun h ↦ (nomatch h), fun h ↦ (nomatch h)⟩

/-! ### Sequences over lists -/

/-- A list is handled element by element. -/
theorem getElem?_mapM_iff {f : α → Except ε β} {as : List α} {bs : List β}
    (h : as.mapM f = .ok bs) (i : Nat) (b : β) :
    bs[i]? = some b ↔ ∃ a, as[i]? = some a ∧ f a = .ok b := by
  induction as generalizing bs i with
  | nil =>
    obtain rfl := Except.ok.inj h
    simp
  | cons a as ih =>
    rw [List.mapM_cons] at h
    obtain ⟨first, hfirst, h⟩ := bind_eq_ok_iff.1 h
    obtain ⟨rest, hrest, h⟩ := bind_eq_ok_iff.1 h
    obtain rfl := Except.ok.inj h
    cases i with
    | zero => simp [hfirst]
    | succ i => simpa using ih hrest i

/-- A list is handled as a whole exactly where each element may be handled. -/
theorem mapM_eq_ok_iff {f : α → Except ε β} {g : α → β} {P : α → Prop} {as : List α}
    (hf : ∀ a b, f a = .ok b ↔ P a ∧ b = g a) {bs : List β} :
    as.mapM f = .ok bs ↔ (∀ a ∈ as, P a) ∧ bs = as.map g := by
  induction as generalizing bs with
  | nil => simp [eq_comm]
  | cons a as ih =>
    simp only [List.mapM_cons, bind_eq_ok_iff, hf, ih, pure_eq_ok, ok.injEq, List.forall_mem_cons,
      List.map_cons]
    constructor
    · rintro ⟨_, ⟨ha, rfl⟩, _, ⟨has, rfl⟩, rfl⟩
      exact ⟨⟨ha, has⟩, rfl⟩
    · rintro ⟨⟨ha, has⟩, rfl⟩
      exact ⟨_, ⟨ha, rfl⟩, _, ⟨has, rfl⟩, rfl⟩

/-- A list is gone through to the end exactly where no element is refused. -/
theorem forM_eq_ok_iff {f : α → Except ε PUnit} {as : List α} :
    as.forM f = .ok () ↔ ∀ a ∈ as, f a = .ok () := by
  induction as with
  | nil => simp
  | cons a as ih =>
    show (f a >>= fun _ ↦ as.forM f) = .ok () ↔ _
    rw [bind_eq_ok_iff, List.forall_mem_cons, ← ih]
    exact ⟨fun ⟨_, ha, has⟩ ↦ ⟨ha, has⟩, fun ⟨ha, has⟩ ↦ ⟨_, ha, has⟩⟩

theorem exists_mem_of_mapM {f : α → Except ε β} {as : List α} {bs : List β}
    (h : as.mapM f = .ok bs) {b : β} (hb : b ∈ bs) : ∃ a ∈ as, f a = .ok b := by
  obtain ⟨i, hi⟩ := List.mem_iff_getElem?.1 hb
  obtain ⟨a, ha, hab⟩ := (getElem?_mapM_iff h i b).1 hi
  exact ⟨a, List.mem_of_getElem? ha, hab⟩

/-! ### What a computation ensures -/

/-- **What a computation ensures**: what holds of its result, and what of its error. -/
def Ensures (x : Except ε α) (result : α → Prop) (fault : ε → Prop) : Prop :=
  match x with
  | .ok a => result a
  | .error e => fault e

section Ensures

variable {x : Except ε α} {result result' : α → Prop} {fault fault' : ε → Prop} {P : β → Prop}

theorem Ensures.of_eq_ok (h : x.Ensures result fault) {a : α} (hx : x = .ok a) : result a := by
  rw [hx] at h
  exact h

theorem Ensures.of_eq_error (h : x.Ensures result fault) {e : ε} (hx : x = .error e) :
    fault e := by
  rw [hx] at h
  exact h

theorem Ensures.imp (h : x.Ensures result fault) (hresult : ∀ a, result a → result' a)
    (hfault : ∀ e, fault e → fault' e) : x.Ensures result' fault' := by
  cases x with
  | ok a => exact hresult a h
  | error e => exact hfault e h

/-- In a sequence the second part may rely on what the first ensures of its result. -/
theorem Ensures.bind {f : α → Except ε β} (h : x.Ensures result fault)
    (hf : ∀ a, result a → (f a).Ensures P fault) : (x >>= f).Ensures P fault := by
  cases x with
  | ok a => exact hf a h
  | error e => exact h

theorem Ensures.map {f : α → β} (h : x.Ensures result fault) (hf : ∀ a, result a → P (f a)) :
    (f <$> x).Ensures P fault := by
  cases x with
  | ok a => exact hf a h
  | error e => exact h

theorem Ensures.mapError {f : ε → ε'} {fault' : ε' → Prop} (h : x.Ensures result fault)
    (hfault : ∀ e, fault e → fault' (f e)) : (x.mapError f).Ensures result fault' := by
  cases x with
  | ok a => exact h
  | error e => exact hfault e h

/-- What is kept for each element is kept for all of them. -/
theorem ensures_foldlM {f : α → β → Except ε α} {bs : List β} {a : α} (ha : result a)
    (hf : ∀ a b, b ∈ bs → result a → (f a b).Ensures result fault) :
    (bs.foldlM f a).Ensures result fault := by
  induction bs generalizing a with
  | nil => exact ha
  | cons b bs ih =>
    rw [List.foldlM_cons]
    exact (hf a b List.mem_cons_self ha).bind fun a' ha' ↦
      ih ha' fun a b hb ↦ hf a b (List.mem_cons_of_mem _ hb)

/-- What is ensured for each element is ensured for all of them. -/
theorem ensures_mapM {f : α → Except ε β} {as : List α}
    (hf : ∀ a ∈ as, (f a).Ensures P fault) :
    (as.mapM f).Ensures (fun bs ↦ ∀ b ∈ bs, P b) fault := by
  induction as with
  | nil => exact fun _ hb ↦ (nomatch hb)
  | cons a as ih =>
    obtain ⟨ha, has⟩ := List.forall_mem_cons.1 hf
    rw [List.mapM_cons]
    exact ha.bind fun b hb ↦ (ih has).bind fun bs hbs ↦ List.forall_mem_cons.2 ⟨hb, hbs⟩

theorem ensures_forM {f : α → Except ε PUnit} {as : List α}
    (hf : ∀ a ∈ as, (f a).Ensures (fun _ ↦ True) fault) :
    (as.forM f).Ensures (fun _ ↦ True) fault := by
  induction as with
  | nil => exact trivial
  | cons a as ih =>
    obtain ⟨ha, has⟩ := List.forall_mem_cons.1 hf
    exact ha.bind fun _ _ ↦ ih has

end Ensures

end Except
