/-!
# The course of a run

A run takes one event after another. Its course keeps, for every event, what was the case before
and after it, so that properties of a whole run can speak of earlier and later moments. What is the
case at a moment is what the events before it lead to (`course_eq_append_cons`), and a property that
every step keeps, whatever came before, holds of every run with its course (`course_induction`).
Events that change nothing may be left out (`course_of_idle`).
-/

set_option autoImplicit false

namespace GovernanceRelay

/-- A result that is reworded is a result all the same. -/
theorem except_map_eq_ok_iff {ε α β : Type} (f : α → β) (result : Except ε α) (value : β) :
    result.map f = .ok value ↔ ∃ given, result = .ok given ∧ value = f given := by
  cases result <;> simp [Except.map, eq_comm]

/-- A result whose faults are reworded is the same result. -/
theorem except_mapError_eq_ok_iff {ε δ α : Type} (f : ε → δ) (result : Except ε α) (value : α) :
    result.mapError f = .ok value ↔ result = .ok value := by
  constructor
  · intro h
    cases result with
    | error error => cases h
    | ok given =>
      cases h
      rfl
  · rintro rfl
    rfl

/-- A fault of a reworded result is a reworded fault. -/
theorem except_mapError_eq_error_iff {ε δ α : Type} (f : ε → δ) (result : Except ε α) (error : δ) :
    result.mapError f = .error error ↔ ∃ fault, result = .error fault ∧ error = f fault := by
  constructor
  · intro h
    cases result with
    | error fault =>
      cases h
      exact ⟨fault, rfl, rfl⟩
    | ok given => cases h
  · rintro ⟨fault, rfl, rfl⟩
    rfl

/-- An element of a list with one more element stands where it stood in the list, or is the last. -/
theorem getElem?_concat_eq_some {α : Type} {items : List α} {last item : α} {index : Nat}
    (h : (items ++ [last])[index]? = some item) :
    (items[index]? = some item ∧ (items ++ [last]).take index = items.take index) ∨
      (item = last ∧ index = items.length) := by
  rcases Nat.lt_trichotomy index items.length with hlt | rfl | hgt
  · rw [List.getElem?_append_left hlt] at h
    exact .inl ⟨h, List.take_append_of_le_length (Nat.le_of_lt hlt)⟩
  · rw [List.getElem?_concat_length] at h
    exact .inr ⟨(Option.some.inj h).symm, rfl⟩
  · have hlength : (items ++ [last]).length ≤ index := by
      rw [List.length_append, List.length_singleton]
      omega
    rw [List.getElem?_eq_none hlength] at h
    cases h

variable {σ ε : Type}

/-- One event of a run. -/
structure Moment (σ ε : Type) where
  /-- The state that the event meets. -/
  before : σ
  /-- What happens. -/
  event : ε
  /-- The state that the event leaves. -/
  after : σ

variable (step : σ → ε → σ)

/-- The moments of a run from a state, in order. -/
def course (state : σ) : List ε → List (Moment σ ε)
  | [] => []
  | event :: rest => ⟨state, event, step state event⟩ :: course (step state event) rest

variable {step} {state : σ}

/-- A moment of a run is where the events before it lead, and what came before it is their
course. -/
theorem course_eq_append_cons {events : List ε} {past later : List (Moment σ ε)}
    {moment : Moment σ ε} (h : course step state events = past ++ moment :: later) :
    ∃ earlier rest, events = earlier ++ moment.event :: rest ∧
      past = course step state earlier ∧ moment.before = earlier.foldl step state ∧
      moment.after = step moment.before moment.event := by
  induction past generalizing state events with
  | nil =>
    cases events with
    | nil => cases h
    | cons event rest =>
      obtain ⟨rfl, -⟩ := List.cons.inj h
      exact ⟨[], rest, rfl, rfl, rfl, rfl⟩
  | cons first past ih =>
    cases events with
    | nil => cases h
    | cons event rest =>
      obtain ⟨rfl, hrest⟩ := List.cons.inj h
      obtain ⟨earlier, later, rfl, rfl, hbefore, hafter⟩ := ih hrest
      exact ⟨event :: earlier, later, rfl, rfl, hbefore, hafter⟩

theorem of_mem_course {events : List ε} {moment : Moment σ ε}
    (h : moment ∈ course step state events) :
    ∃ earlier rest, events = earlier ++ moment.event :: rest ∧
      moment.before = earlier.foldl step state ∧
      moment.after = step moment.before moment.event := by
  obtain ⟨past, later, hsplit⟩ := List.append_of_mem h
  obtain ⟨earlier, rest, hevents, -, hbefore, hafter⟩ := course_eq_append_cons hsplit
  exact ⟨earlier, rest, hevents, hbefore, hafter⟩

theorem after_of_mem_course {events : List ε} {moment : Moment σ ε}
    (h : moment ∈ course step state events) :
    moment.after = step moment.before moment.event := by
  obtain ⟨-, -, -, -, hafter⟩ := of_mem_course h
  exact hafter

theorem event_mem_of_mem_course {events : List ε} {moment : Moment σ ε}
    (h : moment ∈ course step state events) : moment.event ∈ events := by
  obtain ⟨earlier, rest, rfl, -, -⟩ := of_mem_course h
  exact List.mem_append_right _ List.mem_cons_self

/-- What holds at first and is kept by every step, whatever came before, holds of every run with its
course. -/
theorem course_induction {P : σ → List (Moment σ ε) → Prop} (start : P state [])
    (keep : ∀ state past event, P state past →
      P (step state event) (past ++ [⟨state, event, step state event⟩]))
    (events : List ε) : P (events.foldl step state) (course step state events) := by
  -- from any moment on, the rest of the course is appended to what came before
  have from_here : ∀ (events : List ε) (now : σ) (past : List (Moment σ ε)), P now past →
      P (events.foldl step now) (past ++ course step now events) := by
    intro events
    induction events with
    | nil =>
      intro now past h
      rwa [course, List.append_nil]
    | cons event rest ih =>
      intro now past h
      have hnext := ih (step now event) _ (keep now past event h)
      rwa [List.append_assoc, List.singleton_append] at hnext
  exact from_here events state [] start

/-- If events of some kind change nothing, a run without them goes through the remaining moments of
the run with them and ends where that one ends. -/
theorem course_of_idle {kept : σ → ε → Bool}
    (idle : ∀ state event, kept state event = false → step state event = state)
    (events : List ε) :
    let moments := (course step state events).filter fun moment => kept moment.before moment.event
    course step state (moments.map Moment.event) = moments ∧
      (moments.map Moment.event).foldl step state = events.foldl step state := by
  induction events generalizing state with
  | nil => exact ⟨rfl, rfl⟩
  | cons event rest ih =>
    cases hkept : kept state event with
    | true =>
      obtain ⟨hcourse, hend⟩ := @ih (step state event)
      simp only [course, List.filter_cons, hkept, if_true, List.map_cons, List.foldl_cons]
      exact ⟨congrArg _ hcourse, hend⟩
    | false =>
      simp only [course, List.filter_cons, hkept, List.foldl_cons, idle state event hkept]
      exact ih

end GovernanceRelay
