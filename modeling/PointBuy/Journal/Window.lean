import PointBuy.Journal.Event

/-!
# The log window

A window keeps the last events that it was given, up to a fixed number. Events can be given to it
directly, or through a threshold that holds back those that are not urgent enough.

## Main statement

* `Window.toList_log` : a window loses its oldest event only when it is full.
-/

namespace PointBuy.Journal

/-- Whether an event of a level passes a threshold. -/
def Level.passes (level threshold : Level) : Bool := level.rank ≤ threshold.rank

/-- The last events, oldest first. -/
structure Window where
  events : Array Event
deriving Inhabited

namespace Window

/-- A window without events. -/
def empty : Window := ⟨#[]⟩

/-- The events of a window, oldest first. -/
def toList (window : Window) : List Event := window.events.toList

/-- Gives an event to a window. A full window gives up its oldest events for it. -/
def log (window : Window) (event : Event) : Window :=
  let kept :=
    if Limits.logWindow ≤ window.events.size then
      window.events.extract (window.events.size - Limits.logWindow + 1) window.events.size
    else window.events
  ⟨kept.push event⟩

/-- Gives an event to a window if it passes a threshold. -/
def logThrough (window : Window) (threshold : Level) (event : Event) : Window :=
  if event.level.passes threshold then window.log event else window

/-- The faults in a window. -/
def errors (window : Window) : List Event := window.toList.filter Event.isError

/-- Whether a window holds a fault with that code. -/
def hasError (window : Window) (code : String) : Bool :=
  window.events.any fun event => event.isError && event.code == code

/-- Whether a window holds a success with that code. -/
def hasSuccess (window : Window) (code : String) : Bool :=
  window.events.any fun event => event.isInfo && event.code == code

theorem toList_log (window : Window) (event : Event) :
    (window.log event).toList =
      window.toList.drop (window.toList.length + 1 - Limits.logWindow) ++ [event] := by
  have count : window.events.toList.length = window.events.size := Array.length_toList
  unfold log toList
  generalize Limits.logWindow = bound
  rw [count]
  by_cases full : bound ≤ window.events.size
  · rw [if_pos full, Array.toList_push, Array.toList_extract, List.extract_eq_take_drop,
      List.take_of_length_le (by simp), Nat.sub_add_comm full]
  · rw [if_neg full, Array.toList_push, Nat.sub_eq_zero_of_le (by omega), List.drop_zero]

end Window
end PointBuy.Journal
