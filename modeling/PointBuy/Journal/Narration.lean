import PointBuy.Journal.Event

/-!
# Narrations

Work that tells what it does. A narration has a result like any other computation and adds events
to a journal on its way; while it works on a source, the journal may note that source in each event.
Where a computation exists both with and without telling, `Gives` says that both have the same
result: nothing depends on what has been told.

## Main statements

* `Narration.Gives.bind` : a narration of two steps gives what its steps give.
* `Attempt.Gives.bind` : the same where the first step succeeds.
* `Attempt.Gives.bind_error` : the same where the first step fails.
-/

namespace PointBuy

namespace Journal

/-- A source that is being worked on: its name, and its number among the sources at hand. -/
structure SourceContext where
  path : String
  id : Nat
deriving DecidableEq, Inhabited

end Journal

/-- What has been told so far. -/
structure Journal where
  /-- Whether events note the source that is being worked on. -/
  notesSource : Bool
  /-- The source that is being worked on. -/
  source : Option Journal.SourceContext
  events : Array Journal.Event
deriving Inhabited

/-- A computation that tells what it does. -/
abbrev Narration := StateM Journal

namespace Journal

/-- A journal in which nothing has been told. -/
def empty (notesSource : Bool) : Journal := ⟨notesSource, none, #[]⟩

/-- An event with a note of the source that is being worked on. -/
def note (journal : Journal) (event : Event) : Event :=
  match journal.notesSource, journal.source with
  | true, some source =>
    (event.withFact "source" source.path).withFact "source_id" (toString source.id)
  | _, _ => event

end Journal

namespace Narration

open Journal

/-- Adds an event as it is. -/
def tellPlainly (event : Event) : Narration Unit :=
  modify fun journal => { journal with events := journal.events.push event }

/-- Adds an event with a note of the source that is being worked on. -/
def tell (event : Event) : Narration Unit := do
  tellPlainly ((← get).note event)

/-- Tells of a fault, with the place it was found at if there is one. -/
def error (code message : String) (location : Option Location)
    (facts : List (String × String)) : Narration Unit :=
  tell ({ Event.error code message with location }.withFacts facts)

/-- Tells of something achieved. -/
def success (code message : String) (facts : List (String × String)) : Narration Unit :=
  tell ((Event.success code message).withFacts facts)

/-- Tells a warning. -/
def warning (message : String) (facts : List (String × String)) : Narration Unit :=
  tell ((Event.warning message).withFacts facts)

/-- Tells something worth knowing. -/
def info (message : String) (facts : List (String × String)) : Narration Unit :=
  tell ((Event.info message).withFacts facts)

/-- Tells something worth knowing when something goes wrong. -/
def debug (message : String) (facts : List (String × String)) : Narration Unit :=
  tell ((Event.debug message).withFacts facts)

/-- Says which source is being worked on from now on. -/
def setSource (source : Option SourceContext) : Narration Unit :=
  modify fun journal => { journal with source }

/-- Works on a source, and on the one before again after that. -/
def withSource {α : Type} (source : SourceContext) (work : Narration α) : Narration α := do
  let outside := (← get).source
  setSource (some source)
  let result ← work
  setSource outside
  return result

/-- The result of a narration, and what it told. -/
def told {α : Type} (work : Narration α) (notesSource : Bool) : α × Array Event :=
  let (result, journal) := work.run (Journal.empty notesSource)
  (result, journal.events)

/-! ### Results -/

variable {α β ε : Type}

/-- A narration has a result whatever has been told before. -/
def Gives (work : Narration α) (result : α) : Prop := ∀ journal, (work.run journal).1 = result

theorem Gives.pure (a : α) : Gives (Pure.pure a : Narration α) a := fun _ => rfl

theorem Gives.bind {work : Narration α} {next : α → Narration β} {a : α} {b : β}
    (first : work.Gives a) (second : (next a).Gives b) : (work >>= next).Gives b := by
  intro journal
  have h : (work.run journal).1 = a := first journal
  show ((next (work.run journal).1).run (work.run journal).2).1 = b
  rw [h]
  exact second _

theorem Gives.map {work : Narration α} {a : α} (first : work.Gives a) (f : α → β) :
    (f <$> work).Gives (f a) := by
  intro journal
  have h : (work.run journal).1 = a := first journal
  show f (work.run journal).1 = f a
  rw [h]

/-- Telling has no result of its own. -/
theorem Gives.unit (work : Narration Unit) : work.Gives () := fun _ => rfl

theorem Gives.withSource {work : Narration α} {a : α} (source : SourceContext)
    (inside : work.Gives a) : (withSource source work).Gives a := by
  unfold Narration.withSource
  intro journal
  exact inside _

end Narration

/-- A narration of something that may fail. -/
abbrev Attempt (ε : Type) := ExceptT ε Narration

namespace Attempt

variable {α β ε : Type}

/-- An outcome, of whose fault it tells if it is one. -/
def ofExcept (complain : ε → Narration Unit) : Except ε α → Attempt ε α
  | .ok a => pure a
  | .error e => do
    complain e
    throw e

/-- An attempt has a result whatever has been told before. -/
def Gives (work : Attempt ε α) (result : Except ε α) : Prop := work.run.Gives result

theorem Gives.pure (a : α) : Gives (Pure.pure a : Attempt ε α) (.ok a) := fun _ => rfl

theorem Gives.ofExcept (complain : ε → Narration Unit) (result : Except ε α) :
    Gives (Attempt.ofExcept complain result) result := by
  cases result <;> intro journal <;> rfl

/-- Telling does not fail. -/
theorem Gives.lift (work : Narration Unit) : Gives (monadLift work : Attempt ε Unit) (.ok ()) :=
  fun _ => rfl

theorem Gives.bind {work : Attempt ε α} {next : α → Attempt ε β} {a : α} {result : Except ε β}
    (first : work.Gives (.ok a)) (second : (next a).Gives result) :
    (work >>= next).Gives result := by
  show ((work.run >>= ExceptT.bindCont next : Narration _)).Gives result
  exact Narration.Gives.bind first second

theorem Gives.bind_error {work : Attempt ε α} {next : α → Attempt ε β} {e : ε}
    (first : work.Gives (.error e)) : (work >>= next).Gives (.error e) := by
  show ((work.run >>= ExceptT.bindCont next : Narration _)).Gives (.error e)
  exact Narration.Gives.bind first fun _ => rfl

/-- An attempt of two steps gives what its steps give. -/
theorem Gives.andThen {work : Attempt ε α} {next : α → Attempt ε β} {first : Except ε α}
    {second : α → Except ε β} (hwork : work.Gives first)
    (hnext : ∀ a, (next a).Gives (second a)) : (work >>= next).Gives (first >>= second) := by
  cases first with
  | error e => exact hwork.bind_error
  | ok a => exact hwork.bind (hnext a)

/-- An attempt whose fault is passed on as another one gives what it gave. -/
theorem Gives.adapt {ε' : Type} {work : Attempt ε α} {result : Except ε α} (f : ε → ε')
    (h : work.Gives result) : Gives (ExceptT.adapt f work) (result.mapError f) :=
  Narration.Gives.map h _

end Attempt
end PointBuy
