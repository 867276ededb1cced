import Mathlib.Data.List.DropRight
import PointBuy.Journal.Window

/-!
# The log window slides

A log is asked to take events, directly or through its threshold, and to be cleared. Of what it was
asked only the events count that it accepted since it was cleared last; and of these its window
holds the last ones, as many as it may hold. This is shown for one event, of which a full window
gives up its oldest event (`Window.Holds.log`), and then for all calls, by induction on them from
the last one.

## Main definitions

* `Window.Call` : what may be asked of a log.
* `Window.accepted` : the events that count.
* `Window.afterAll` : the window after calls.

## Main statement

* `Window.holds_last_accepted` : after any calls, what is in the window and what is found in it is
  that of the last accepted events.
-/

namespace PointBuy.Journal.Window

/-- What may be asked of a log. -/
inductive Call where
  /-- To take an event that passes the threshold. -/
  | through (event : Event)
  /-- To take an event, whatever its level. -/
  | direct (event : Event)
  /-- To forget all events. -/
  | clear
deriving DecidableEq

/-! ### What calls do -/

/-- The window after a call. -/
def after (threshold : Level) (window : Window) : Call → Window
  | .through event => window.logThrough threshold event
  | .direct event => window.log event
  | .clear => empty

/-- The window after calls, from a new one. -/
def afterAll (threshold : Level) (calls : List Call) : Window :=
  calls.foldl (after threshold) empty

/-! ### What calls count -/

/-- The event that a call brings, if it is accepted: through the threshold, only an event that is at
least as urgent. -/
def Call.event? (threshold : Level) : Call → Option Event
  | .through event => if event.level.rank ≤ threshold.rank then some event else none
  | .direct event => some event
  | .clear => none

/-- The events that were accepted since the log was cleared last. -/
def accepted (threshold : Level) (calls : List Call) : List Event :=
  (calls.rtakeWhile (· ≠ .clear)).filterMap (Call.event? threshold)

variable {threshold : Level} {calls : List Call} {window : Window} {events : List Event}

/-- A call that clears the log leaves nothing that counts, and any other one adds what it brings. -/
theorem accepted_append (threshold : Level) (calls : List Call) (call : Call) :
    accepted threshold (calls ++ [call]) =
      if call = .clear then []
      else accepted threshold calls ++ (call.event? threshold).toList := by
  rw [accepted, List.rtakeWhile_concat, accepted]
  by_cases hclear : call = .clear
  · rw [if_neg (by simpa using hclear), if_pos hclear]
    rfl
  · rw [if_pos (decide_eq_true hclear), if_neg hclear, List.filterMap_append]
    cases hcall : call.event? threshold <;> simp [hcall]

/-! ### What a window holds -/

/-- A window holds the last of some events, as many as it may hold. -/
def Holds (window : Window) (events : List Event) : Prop :=
  window.toList = events.rtake Limits.logWindow

theorem holds_empty : empty.Holds [] := rfl

theorem Holds.toList_eq (h : window.Holds events) :
    window.toList = events.rtake (min events.length Limits.logWindow) := by
  rw [Holds, List.rtake] at h
  rw [h, List.rtake, ← Nat.sub_eq_sub_min]

theorem Holds.size_eq (h : window.Holds events) :
    window.events.size = min events.length Limits.logWindow := by
  have hlist : window.events.toList = events.rtake Limits.logWindow := h
  rw [← Array.length_toList, hlist, List.rtake, List.length_drop, Nat.sub_sub_eq_min]

/-- **One event more**: a window that is full gives up its oldest event for it. -/
theorem Holds.log (h : window.Holds events) (event : Event) :
    (window.log event).Holds (events ++ [event]) := by
  have hpos : 0 < Limits.logWindow := by decide
  rw [Holds, List.rtake] at h
  rw [Holds, List.rtake, toList_log, h]
  generalize Limits.logWindow = bound at hpos
  -- what is dropped now, on top of what had been dropped before
  have hcount : events.length - bound + ((events.drop (events.length - bound)).length + 1 - bound) =
      (events ++ [event]).length - bound := by
    simp only [List.length_drop, List.length_append, List.length_singleton]
    omega
  have hle : (events ++ [event]).length - bound ≤ events.length := by
    simp only [List.length_append, List.length_singleton]
    omega
  rw [List.drop_drop, hcount, List.drop_append_of_le_length hle]

/-- **One call more** keeps the window at the accepted events. -/
theorem Holds.after (h : window.Holds (accepted threshold calls)) (call : Call) :
    (window.after threshold call).Holds (accepted threshold (calls ++ [call])) := by
  rw [accepted_append]
  cases call with
  | clear => exact holds_empty
  | direct event => exact h.log event
  | through event =>
    rw [if_neg (by simp), Window.after, logThrough, Level.passes, Call.event?]
    by_cases hpasses : event.level.rank ≤ threshold.rank
    · rw [if_pos (decide_eq_true hpasses), if_pos hpasses]
      exact h.log event
    · rw [if_neg (by simpa using hpasses), if_neg hpasses, Option.toList_none, List.append_nil]
      exact h

/-- **The window holds the last accepted events**, after any calls. -/
theorem holds_afterAll (threshold : Level) (calls : List Call) :
    (afterAll threshold calls).Holds (accepted threshold calls) := by
  induction calls using List.reverseRecOn with
  | nil => exact holds_empty
  | append_singleton calls call ih =>
    rw [afterAll, List.foldl_append]
    exact ih.after call

/-! ### What is found in a window -/

/-- Events of a level and with a code, as both `hasError` and `hasSuccess` look for them. -/
theorem any_eq_true_iff (level : Level) (code : String) :
    (window.events.any fun event ↦ event.level == level && event.code == code) = true ↔
      ∃ event ∈ window.toList, event.level = level ∧ event.code = code := by
  simp [toList, ← Array.any_toList]

/-- **The window slides** over the events that were accepted since the log was cleared last. It
holds the last of them, as many as there are or as many as it may hold, in their order; and the
faults and codes that are found in it are those of these events. -/
theorem holds_last_accepted (threshold : Level) (calls : List Call) :
    let window := afterAll threshold calls
    let events := accepted threshold calls
    let last := events.rtake (min events.length Limits.logWindow)
    window.toList = last ∧
      window.events.size = min events.length Limits.logWindow ∧
      window.events.size ≤ Limits.logWindow ∧
      window.errors = last.filter (·.level = .error) ∧
      ∀ code,
        (window.hasError code = true ↔
          ∃ event ∈ last, event.level = .error ∧ event.code = code) ∧
        (window.hasSuccess code = true ↔
          ∃ event ∈ last, event.level = .info ∧ event.code = code) := by
  intro window events last
  have h : window.Holds events := holds_afterAll threshold calls
  have hlast : window.toList = last := h.toList_eq
  refine ⟨hlast, h.size_eq, h.size_eq ▸ min_le_right _ _, ?_, fun code ↦ ?_⟩
  · rw [errors, hlast]
    rfl
  · rw [← hlast]
    exact ⟨any_eq_true_iff .error code, any_eq_true_iff .info code⟩

end PointBuy.Journal.Window
