import Mathlib.Control.Monad.Writer
import PointBuy.Proofs.Amount

/-!
# Reckoning with integers

An operation on amounts computes an integer and brings it into the range. Here integers are computed
as they are, but each of them that an operation on amounts would bring into the range is passed on
the way, and the computation keeps the list of what it has passed. Like what it is compared with, a
computation may give up.

A computation with amounts follows one with integers if both come to the same as long as all that
is passed lies in the range (`Follows`). Nothing is said of what they come to otherwise: once an
integer has left the range, conditions may hold that would not, and other integers are passed. That
the computation with integers does not give up is therefore a matter of its own (`Settles`).

## Main definitions

* `Reckoning` : computations with integers that keep what they pass.
* `Reckoning.Follows` : the comparison of a computation with amounts to one with integers.
* `Reckoning.Settles` : a computation does not give up.
-/

namespace PointBuy

open Amount (InRange clamp)

/-- A computation with integers that keeps the integers it passes and may give up. -/
abbrev Reckoning : Type → Type := WriterT (List Int) Option

namespace Reckoning

variable {α β γ δ : Type}

/-- Passes an integer. -/
def passing (n : Int) : Reckoning Int := WriterT.mk (some (n, [n]))

/-- Passes an integer that may be absent. -/
def passing? : Option Int → Reckoning (Option Int)
  | none => pure none
  | some n => do return some (← passing n)

/-- Gives up. -/
def giveUp : Reckoning α := WriterT.mk none

/-- A sequence passes what its parts pass, one after the other. -/
theorem run_bind_eq_some {x : Reckoning α} {f : α → Reckoning β} {b : β} {passed : List Int}
    (h : (x >>= f).run = some (b, passed)) :
    ∃ a first second, x.run = some (a, first) ∧ (f a).run = some (b, second) ∧
      passed = first ++ second := by
  obtain ⟨⟨a, first⟩, hx, hbind⟩ := Option.bind_eq_some_iff.1 h
  obtain ⟨⟨b', second⟩, hf, heq⟩ := Option.map_eq_some_iff.1 hbind
  cases heq
  exact ⟨a, first, second, hx, hf, rfl⟩

/-! ### Computations that do not give up -/

/-- A computation comes to something. -/
def Settles (x : Reckoning α) : Prop := ∃ a passed, x.run = some (a, passed)

theorem settles_pure (a : α) : Settles (pure a) := ⟨a, [], rfl⟩

theorem settles_bind {x : Reckoning α} {f : α → Reckoning β} (hx : Settles x)
    (hf : ∀ a, Settles (f a)) : Settles (x >>= f) := by
  obtain ⟨a, first, hfirst⟩ := hx
  obtain ⟨b, second, hsecond⟩ := hf a
  refine ⟨b, first ++ second, ?_⟩
  show (x.run.bind fun p ↦ (f p.1).run.map fun q ↦ (q.1, p.2 ++ q.2)) = _
  rw [hfirst, Option.bind_some, hsecond]
  rfl

/-- What comes next settles whether or not an integer is absent. -/
theorem settles_bind_optional {x : Reckoning (Option Int)} {f : Option Int → Reckoning β}
    (hx : Settles x) (hnone : Settles (f none)) (hsome : ∀ n, Settles (f (some n))) :
    Settles (x >>= f) := by
  refine settles_bind hx fun n? ↦ ?_
  cases n? with
  | none => exact hnone
  | some n => exact hsome n

theorem settles_passing (n : Int) : Settles (passing n) := ⟨n, [n], rfl⟩

theorem settles_passing? (n? : Option Int) : Settles (passing? n?) := by
  cases n? with
  | none => exact settles_pure none
  | some n => exact settles_bind (settles_passing n) fun _ ↦ settles_pure _

/-! ### Computations with amounts that follow -/

/-- A computation with amounts comes to what one with integers does, as long as all that is passed
lies in the range. -/
def Follows (r : α → β → Prop) (x : Reckoning α) (y : Option β) : Prop :=
  ∀ a passed, x.run = some (a, passed) → (∀ n ∈ passed, InRange n) → ∃ b, y = some b ∧ r a b

variable {r : α → β → Prop} {r' : γ → δ → Prop}

theorem follows_giveUp (y : Option β) : Follows r giveUp y := fun _ _ hrun ↦ nomatch hrun

theorem follows_pure {a : α} {b : β} (h : r a b) : Follows r (pure a) (some b) := by
  intro a' passed hrun _
  cases hrun
  exact ⟨b, rfl, h⟩

theorem follows_bind {x : Reckoning α} {y : Option β} {f : α → Reckoning γ} {g : β → Option δ}
    (hx : Follows r x y) (hf : ∀ a b, r a b → Follows r' (f a) (g b)) :
    Follows r' (x >>= f) (y >>= g) := by
  intro c passed hrun hrange
  obtain ⟨a, first, second, hfirst, hsecond, rfl⟩ := run_bind_eq_some hrun
  obtain ⟨hfirstRange, hsecondRange⟩ := List.forall_mem_append.1 hrange
  obtain ⟨b, rfl, hab⟩ := hx a first hfirst hfirstRange
  exact hf a b hab c second hsecond hsecondRange

/-- Something is made of an integer, but of the amount only its relation to it. -/
theorem follows_map {x : Reckoning α} {y : Option β} {f : α → γ} {r' : γ → β → Prop}
    (hx : Follows r x y) (hf : ∀ a b, r a b → r' (f a) b) :
    Follows r' (do return f (← x)) y := by
  have hbind : Follows r' (do return f (← x)) (y >>= some) :=
    follows_bind hx fun a b hab ↦ follows_pure (hf a b hab)
  rwa [show (y >>= some) = y from bind_pure y] at hbind

/-- What is passed may be taken to lie in the range. -/
theorem follows_passing {n : Int} {f : Int → Reckoning γ} {y : Option δ}
    (h : InRange n → Follows r' (f n) y) : Follows r' (passing n >>= f) y := by
  intro c passed hrun hrange
  obtain ⟨_, first, second, hfirst, hsecond, rfl⟩ := run_bind_eq_some hrun
  cases hfirst
  obtain ⟨hn, hsecondRange⟩ := List.forall_mem_append.1 hrange
  exact h (hn n (List.mem_singleton_self n)) c second hsecond hsecondRange

/-- An amount that may be absent is the integer that may be absent. -/
def Same (n? : Option Int) (a? : Option Amount) : Prop := a?.map Amount.val = n?

/-- What comes next follows whether or not an integer is absent. -/
theorem follows_bind_same {x : Reckoning (Option Int)} {y : Option (Option Amount)}
    {f : Option Int → Reckoning γ} {g : Option Amount → Option δ} (hx : Follows Same x y)
    (hnone : Follows r' (f none) (g none))
    (hsome : ∀ a : Amount, Follows r' (f (some a.val)) (g (some a))) :
    Follows r' (x >>= f) (y >>= g) := by
  refine follows_bind hx fun _ a? hsame ↦ ?_
  cases hsame
  cases a? with
  | none => exact hnone
  | some a => exact hsome a

/-- An amount that is brought into the range is the integer that is passed. -/
theorem follows_passing? (n? : Option Int) : Follows Same (passing? n?) (some (n?.map clamp)) := by
  cases n? with
  | none => exact follows_pure rfl
  | some n => exact follows_passing fun hn ↦ follows_pure (congrArg some hn.val_clamp)

end Reckoning
end PointBuy
