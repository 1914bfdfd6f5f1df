/-!
# Traces

A machine goes through a list of events by a function `next`. `collect` lists what the events yield,
each in the state in which it happens; so an account of a whole run is an account of one event.

Results:
* `foldl_collect`: what every event carries from a list to the list with its yield, a run carries to
  the list with all that was collected.
* `foldl_keeps`: what every event keeps, a run keeps.
* `filter_collect`: a part of what was collected is what the parts yield.
* `map_collect`: what a run yields, seen from a machine that follows some of its events.
-/

namespace CommandConsole.Trace

variable {State Event α β : Type} {next : State → Event → State}
  {yield : State → Event → List α} {state : State}

/-- What the events of a run yield, each in the state in which it happens. -/
def collect (next : State → Event → State) (yield : State → Event → List α) (state : State) :
    List Event → List α
  | [] => []
  | event :: events => yield state event ++ collect next yield (next state event) events

theorem collect_append (first second : List Event) :
    collect next yield state (first ++ second) =
      collect next yield state first ++ collect next yield (first.foldl next state) second := by
  induction first generalizing state with
  | nil => rfl
  | cons event first ih =>
    rw [List.cons_append, collect, collect, ih, List.append_assoc]
    rfl

/-- **A property that every event carries from a list to the same list with what the event yields is
carried by a run to the list with all that was collected.** -/
theorem foldl_collect {P : List α → State → Prop}
    (hnext : ∀ xs state event, P xs state → P (xs ++ yield state event) (next state event))
    {xs : List α} (h : P xs state) (events : List Event) :
    P (xs ++ collect next yield state events) (events.foldl next state) := by
  induction events generalizing xs state with
  | nil =>
    rw [collect, List.append_nil]
    exact h
  | cons event events ih =>
    rw [collect, ← List.append_assoc]
    exact ih (hnext xs state event h)

/-- A property that every event keeps is kept by every run. -/
theorem foldl_keeps {P : State → Prop} (hnext : ∀ state event, P state → P (next state event))
    (h : P state) (events : List Event) : P (events.foldl next state) := by
  induction events generalizing state with
  | nil => exact h
  | cons event events ih => exact ih (hnext state event h)

/-- What passes a filter of all that was collected is what passes it of every yield. -/
theorem filter_collect (p : α → Bool) (f : α → β) (events : List Event) :
    ((collect next yield state events).filter p).map f =
      collect next (fun state event => ((yield state event).filter p).map f) state events := by
  induction events generalizing state with
  | nil => rfl
  | cons event events ih =>
    rw [collect, collect, List.filter_append, List.map_append, ih]

/-- **A machine that follows another.** It sees the state through `p`, what is yielded through `q`,
and only the events that `f` lets it see. If it stays where it is while it sees nothing, it collects
what the other one collects. -/
theorem map_collect {State' Event' : Type} {next' : State' → Event' → State'}
    {yield' : State' → Event' → List β} {p : State → State'} {q : α → β} {f : Event → Option Event'}
    (hskip : ∀ state event, f event = none →
      p (next state event) = p state ∧ yield state event = [])
    (hfollow : ∀ state event event', f event = some event' →
      p (next state event) = next' (p state) event' ∧
        (yield state event).map q = yield' (p state) event') (events : List Event) :
    (collect next yield state events).map q =
      collect next' yield' (p state) (events.filterMap f) := by
  induction events generalizing state with
  | nil => rfl
  | cons event events ih =>
    rw [collect, List.map_append, ih]
    cases hf : f event with
    | none =>
      obtain ⟨hstate, hyield⟩ := hskip state event hf
      rw [List.filterMap_cons_none hf, hstate, hyield]
      rfl
    | some event' =>
      obtain ⟨hstate, hyield⟩ := hfollow state event event' hf
      rw [List.filterMap_cons_some hf, hstate, hyield]
      rfl

end CommandConsole.Trace
