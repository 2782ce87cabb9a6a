import GovernanceRelay.Proofs.Course
import GovernanceRelay.Proofs.Dispatcher.Sending

/-!
# The queue of a bridge

A bridge is handed messages, messages are taken from it one by one or all at once, and it is
closed, in any order. `Bridge.Effect` is what each of these events does: what waited before,
followed by what is accepted, is what is taken, followed by what waits afterwards, and a number is
used up only by a message that is accepted. So a run neither loses nor repeats nor reorders messages
(`Bridge.taken_append_waiting`), and acknowledgements count the messages accepted
(`Bridge.receipt_of_getElem?_acceptedIn`). A bridge that is closed accepts nothing, whatever happens
to it, and what waits in it can still be taken (`Bridge.nothing_lost`).
-/

set_option autoImplicit false

namespace GovernanceRelay

/-- What happens to a bridge. -/
inductive BridgeEvent where
  /-- The bridge is handed a message. -/
  | hand (message : Message)
  /-- The oldest message that waits is taken. -/
  | take
  /-- All messages that wait are taken. -/
  | takeAll
  /-- The bridge accepts nothing any more. -/
  | close

namespace Bridge

/-- The bridge after an event. A message that is refused changes nothing. -/
def step (bridge : Bridge) : BridgeEvent → Bridge
  | .hand message =>
    match bridge.accept? message with
    | some (_, after) => after
    | none => bridge
  | .take => bridge.take.2
  | .takeAll => bridge.takeAll.2
  | .close => bridge.close

/-- The bridge after a number of events. -/
def run (bridge : Bridge) (events : List BridgeEvent) : Bridge := events.foldl step bridge

/-- What is accepted at a moment, if anything, and how it is acknowledged. -/
def accepted? (moment : Moment Bridge BridgeEvent) : Option SendEvent :=
  match moment.event with
  | .hand message => (moment.before.accept? message).map fun answer => ⟨message, answer.1⟩
  | _ => none

/-- What is taken at a moment, the oldest message first. -/
def taken (moment : Moment Bridge BridgeEvent) : List Message :=
  match moment.event with
  | .take => moment.before.take.1.toList
  | .takeAll => moment.before.takeAll.1
  | _ => []

/-- What is accepted in a run, in order. -/
def acceptedIn (bridge : Bridge) (events : List BridgeEvent) : List SendEvent :=
  (course step bridge events).filterMap accepted?

/-- What is taken in a run, in order. -/
def takenIn (bridge : Bridge) (events : List BridgeEvent) : List Message :=
  (course step bridge events).flatMap taken

/-- What an event does. -/
structure Effect (moment : Moment Bridge BridgeEvent) : Prop where
  /-- Nothing is lost, repeated or reordered. -/
  waiting : taken moment ++ moment.after.waiting =
    moment.before.waiting ++ (accepted? moment).toList.map SendEvent.message
  /-- A message uses up a number only if it is accepted. -/
  accepted : moment.after.accepted =
    moment.before.accepted + UInt64.ofNat (accepted? moment).toList.length
  /-- The family stays. -/
  kind : moment.after.kind = moment.before.kind
  /-- The bridge is closed if it was before or is closed now. -/
  closed : moment.after.closed = true ↔ moment.event = .close ∨ moment.before.closed = true
  /-- What is accepted is acknowledged with the next number. -/
  receipt : ∀ sent ∈ accepted? moment, sent.receipt = moment.before.receiptFor sent.message
  /-- A closed bridge accepts nothing. -/
  refused : moment.before.closed = true → accepted? moment = none

theorem effect_step (bridge : Bridge) (event : BridgeEvent) :
    Effect ⟨bridge, event, bridge.step event⟩ := by
  cases event with
  | hand message =>
    cases hclosed : bridge.closed with
    | true =>
      have hrefused := accept?_of_closed hclosed message
      constructor <;> simp [step, accepted?, taken, hrefused, hclosed]
    | false =>
      have haccepted := accept?_of_open hclosed message
      constructor <;> simp [step, accepted?, taken, enqueue, haccepted, hclosed]
  | take =>
    cases hwaiting : bridge.waiting with
    | nil => constructor <;> simp [step, accepted?, taken, take, hwaiting]
    | cons message rest => constructor <;> simp [step, accepted?, taken, take, hwaiting]
  | takeAll => constructor <;> simp [step, accepted?, taken, takeAll]
  | close => constructor <;> simp [step, accepted?, taken, close]

/-! ## Runs -/

theorem acceptedIn_cons (bridge : Bridge) (event : BridgeEvent) (rest : List BridgeEvent) :
    bridge.acceptedIn (event :: rest) =
      (accepted? ⟨bridge, event, bridge.step event⟩).toList ++
        (bridge.step event).acceptedIn rest := by
  rw [acceptedIn, course, List.filterMap_cons, ← acceptedIn]
  cases accepted? ⟨bridge, event, bridge.step event⟩ <;> rfl

/-- What is taken in a run, followed by what waits at the end, is what waited at first, followed by
what is accepted. -/
theorem taken_append_waiting (bridge : Bridge) (events : List BridgeEvent) :
    bridge.takenIn events ++ (bridge.run events).waiting =
      bridge.waiting ++ (bridge.acceptedIn events).map SendEvent.message := by
  induction events generalizing bridge with
  | nil => exact (List.append_nil _).symm
  | cons event rest ih =>
    have hrest := ih (bridge.step event)
    rw [takenIn, course, List.flatMap_cons, ← takenIn, run, List.foldl_cons, ← run,
      List.append_assoc, hrest, ← List.append_assoc, (effect_step bridge event).waiting,
      acceptedIn_cons, List.map_append, List.append_assoc]

theorem kind_run (bridge : Bridge) (events : List BridgeEvent) :
    (bridge.run events).kind = bridge.kind := by
  induction events generalizing bridge with
  | nil => rfl
  | cons event rest ih => exact (ih (bridge.step event)).trans (effect_step bridge event).kind

/-- The number of the next message is as much higher as messages are accepted. -/
theorem accepted_run (bridge : Bridge) (events : List BridgeEvent) :
    (bridge.run events).accepted =
      bridge.accepted + UInt64.ofNat (bridge.acceptedIn events).length := by
  induction events generalizing bridge with
  | nil => exact (UInt64.add_zero _).symm
  | cons event rest ih =>
    rw [run, List.foldl_cons, ← run, ih, (effect_step bridge event).accepted, acceptedIn_cons,
      List.length_append, UInt64.ofNat_add, UInt64.add_assoc]

theorem closed_run_iff (bridge : Bridge) (events : List BridgeEvent) :
    (bridge.run events).closed = true ↔ .close ∈ events ∨ bridge.closed = true := by
  induction events generalizing bridge with
  | nil => simp [run]
  | cons event rest ih =>
    rw [run, List.foldl_cons, ← run, ih, (effect_step bridge event).closed, List.mem_cons,
      ← or_assoc, or_comm (a := .close ∈ rest), eq_comm]

/-- The messages accepted in a run are acknowledged with the numbers that follow each other. -/
theorem receipt_of_getElem?_acceptedIn {bridge : Bridge} {events : List BridgeEvent} {index : Nat}
    {sent : SendEvent} (h : (bridge.acceptedIn events)[index]? = some sent) :
    sent.receipt =
      ⟨bridge.kind, sent.message.id, bridge.accepted + UInt64.ofNat index⟩ := by
  induction events generalizing bridge index with
  | nil => cases h
  | cons event rest ih =>
    have effect := effect_step bridge event
    rw [acceptedIn_cons] at h
    cases haccepted : accepted? ⟨bridge, event, bridge.step event⟩ with
    | none =>
      rw [haccepted, Option.toList_none, List.nil_append] at h
      rw [ih h, effect.accepted, effect.kind, haccepted]
      exact congrArg (fun number => Receipt.mk _ _ (number + _)) (UInt64.add_zero _)
    | some first =>
      rw [haccepted, Option.toList_some, List.singleton_append] at h
      cases index with
      | zero =>
        cases h
        rw [effect.receipt sent haccepted]
        exact congrArg (Receipt.mk _ _) (UInt64.add_zero _).symm
      | succ index =>
        rw [ih h, effect.accepted, effect.kind, haccepted, Option.toList_some,
          List.length_singleton, UInt64.add_assoc, ← UInt64.ofNat_add, Nat.add_comm 1]

/-- A closed bridge accepts nothing in any run. -/
theorem acceptedIn_of_closed {bridge : Bridge} (closed : bridge.closed = true)
    (events : List BridgeEvent) : bridge.acceptedIn events = [] := by
  induction events generalizing bridge with
  | nil => rfl
  | cons event rest ih =>
    have effect := effect_step bridge event
    rw [acceptedIn_cons, effect.refused closed, Option.toList_none, List.nil_append]
    exact ih (effect.closed.mpr (.inr closed))

/-- Messages are taken one by one from the front of the queue. -/
theorem takenIn_replicate_take (bridge : Bridge) (count : Nat) :
    bridge.takenIn (List.replicate count .take) = bridge.waiting.take count := by
  induction count generalizing bridge with
  | zero => rfl
  | succ count ih =>
    rw [List.replicate_succ, takenIn, course, List.flatMap_cons, ← takenIn, ih]
    cases hwaiting : bridge.waiting with
    | nil => simp [taken, step, take, hwaiting]
    | cons message rest => simp [taken, step, take, hwaiting]

/-- The queue of a bridge, whatever happens to the bridge. What was taken, followed by what waits,
is what was accepted, in order. The messages accepted are acknowledged by the family of the bridge,
each with its identifier and with its place among them. As long as the bridge is not closed a
message is accepted with the next number. Once it is closed, a message is refused and changes
nothing, and whatever happens then, what is taken, followed by what waits, is what waited at first.
What waits is taken from the front, one by one or all at once. -/
theorem nothing_lost (kind : BridgeKind) (events : List BridgeEvent) :
    let bridge := (create kind).run events
    let accepted := (create kind).acceptedIn events
    (create kind).takenIn events ++ bridge.waiting = accepted.map SendEvent.message ∧
    (∀ (index : Nat) (sent : SendEvent), accepted[index]? = some sent →
      sent.receipt = ⟨kind, sent.message.id, UInt64.ofNat index⟩) ∧
    (.close ∉ events → ∀ message, ∃ after, bridge.accept? message =
      some (⟨kind, message.id, UInt64.ofNat accepted.length⟩, after)) ∧
    (.close ∈ events →
      (∀ message, bridge.accept? message = none ∧ bridge.step (.hand message) = bridge) ∧
      ∀ later, bridge.takenIn later ++ (bridge.run later).waiting = bridge.waiting) ∧
    (∀ count, bridge.takenIn (List.replicate count .take) = bridge.waiting.take count) ∧
    bridge.takenIn [.takeAll] = bridge.waiting := by
  intro bridge accepted
  have hclosed := closed_run_iff (create kind) events
  refine ⟨taken_append_waiting (create kind) events, fun index sent hsent => ?_,
    fun unclosed message => ?_, fun closing => ?_, bridge.takenIn_replicate_take,
    List.append_nil _⟩
  · rw [receipt_of_getElem?_acceptedIn hsent]
    exact congrArg (Receipt.mk _ _) (UInt64.zero_add _)
  · have hopen : bridge.closed = false := by
      rw [← Bool.not_eq_true, hclosed]
      simp [unclosed, create]
    refine ⟨bridge.enqueue message, ?_⟩
    rw [accept?_of_open hopen, receiptFor, kind_run, accepted_run]
    exact congrArg (fun number => some (Receipt.mk _ _ number, _)) (UInt64.zero_add _)
  · have closed : bridge.closed = true := hclosed.mpr (.inl closing)
    refine ⟨fun message => ?_, fun later => ?_⟩
    · have hrefused := accept?_of_closed closed message
      exact ⟨hrefused, by rw [step, hrefused]⟩
    · rw [taken_append_waiting, acceptedIn_of_closed closed, List.map_nil, List.append_nil]

end Bridge

end GovernanceRelay
