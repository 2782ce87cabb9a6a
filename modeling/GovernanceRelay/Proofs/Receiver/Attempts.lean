import GovernanceRelay.Proofs.Course
import GovernanceRelay.Proofs.Receiver.History
import GovernanceRelay.Proofs.Receiver.Restart

/-!
# The calls put to an executor

An executor can be given an account of the calls that are put to it, whether they are made or fail
(`Accounted`). A receiver over an executor with an account answers and goes on as the receiver over
the executor alone (`ReceiverOver.receive_accounted`), so the account tells which calls a delivery
puts to the executor (`ReceiverOver.attempts`).

A delivery puts the calls of its batch to the executor from the first one not made before, in order,
up to one that fails (`ReceiverOver.Handled`). Over all deliveries, retries and restarts, the calls
made for a message are therefore the front of its batch, and each call put to the executor, also one
that fails, is the next of the batch behind those made before (`ReceiverOver.attempts_follow_batch`).
-/

set_option autoImplicit false

namespace GovernanceRelay

/-- A call put to an executor. -/
structure Attempt where
  /-- The call. -/
  call : Instruction
  /-- Whether the call was made. -/
  made : Bool
deriving DecidableEq

namespace Attempt

/-- The calls that were made, in order. -/
def callsMade (attempts : List Attempt) : List Instruction :=
  (attempts.filter Attempt.made).map Attempt.call

theorem callsMade_append (attempts more : List Attempt) :
    callsMade (attempts ++ more) = callsMade attempts ++ callsMade more := by
  rw [callsMade, List.filter_append, List.map_append, callsMade, callsMade]

/-- Attempts that all succeed. -/
theorem callsMade_map_made (calls : List Instruction) :
    callsMade (calls.map fun call => ⟨call, true⟩) = calls := by
  induction calls with
  | nil => rfl
  | cons call rest ih => exact congrArg _ ih

/-- Every call put to the executor is the next of a batch behind the calls made before. -/
def Follow (instructions : List Instruction) (attempts : List Attempt) : Prop :=
  ∀ before attempt after, attempts = before ++ attempt :: after →
    callsMade before ++ [attempt.call] <+: instructions

theorem follow_nil (instructions : List Instruction) : Follow instructions [] := by
  intro before attempt after h
  cases before <;> cases h

/-- Calls of the rest of a batch may follow those that made its front. -/
theorem Follow.append {instructions rest : List Instruction} {attempts more : List Attempt}
    (early : Follow instructions attempts) (late : Follow rest more)
    (front : callsMade attempts ++ rest = instructions) :
    Follow instructions (attempts ++ more) := by
  intro before attempt after h
  rcases List.append_eq_append_iff.mp h with ⟨middle, rfl, hmore⟩ | ⟨middle, hattempts, hmore⟩
  · -- the attempt is one of those that come later
    rw [callsMade_append, List.append_assoc, ← front]
    exact (List.prefix_append_right_inj _).mpr (late middle attempt after hmore)
  · cases middle with
    | nil =>
      -- it is the first of those that come later
      rw [List.append_nil] at hattempts
      rw [← front, ← hattempts]
      exact (List.prefix_append_right_inj _).mpr (late [] attempt after hmore.symm)
    | cons first middle =>
      obtain ⟨rfl, -⟩ := List.cons.inj hmore
      exact early before attempt middle hattempts

theorem follow_singleton (call : Instruction) (made : Bool) (rest : List Instruction) :
    Follow (call :: rest) [⟨call, made⟩] := by
  intro before attempt after h
  cases before with
  | nil =>
    obtain ⟨rfl, -⟩ := List.cons.inj h
    exact ⟨rest, rfl⟩
  | cons first before => cases before <;> cases h

/-- The front of a batch may be made. -/
theorem follow_map_made (calls rest : List Instruction) :
    Follow (calls ++ rest) (calls.map fun call => ⟨call, true⟩) := by
  induction calls with
  | nil => exact follow_nil rest
  | cons call calls ih =>
    -- the first call is the next of the whole batch, and the others are those of what is left
    exact (follow_singleton call true (calls ++ rest)).append ih rfl

/-- Every call put to the executor is one of the batch. -/
theorem Follow.mem {instructions : List Instruction} {attempts : List Attempt}
    (follow : Follow instructions attempts) {attempt : Attempt} (h : attempt ∈ attempts) :
    attempt.call ∈ instructions := by
  obtain ⟨before, after, hsplit⟩ := List.append_of_mem h
  apply (follow before attempt after hsplit).subset
  exact List.mem_append_right _ List.mem_cons_self

end Attempt

/-- An executor with an account of the calls put to it. -/
structure Accounted (ε : Type) where
  /-- The executor that makes the calls. -/
  executor : ε
  /-- The calls put to it. -/
  attempts : List Attempt

instance {ε : Type} [Executor ε] : Executor (Accounted ε) where
  call accounted instruction :=
    let answered := Executor.call accounted.executor instruction
    (answered.1, ⟨answered.2, accounted.attempts ++ [⟨instruction, answered.1.isNone⟩]⟩)

/-- Calls are made in order up to the first that fails, with an account or without, and the account
has those made and the failing one. -/
theorem Executor.callFrom_accounted {ε : Type} [Executor ε] (index : Nat) (executor : ε)
    (attempts : List Attempt) (instructions : List Instruction) :
    (∃ after, callFrom index executor instructions = (none, after) ∧
      callFrom index (⟨executor, attempts⟩ : Accounted ε) instructions =
        (none, ⟨after, attempts ++ instructions.map fun call => ⟨call, true⟩⟩)) ∨
    ∃ made call rest reason after, instructions = made ++ call :: rest ∧
      callFrom index executor instructions = (some (index + made.length, reason), after) ∧
      callFrom index (⟨executor, attempts⟩ : Accounted ε) instructions =
        (some (index + made.length, reason),
          ⟨after, attempts ++ ((made.map fun call => ⟨call, true⟩) ++ [⟨call, false⟩])⟩) := by
  induction instructions generalizing index executor attempts with
  | nil => exact .inl ⟨executor, rfl, by rw [callFrom, List.map_nil, List.append_nil]⟩
  | cons first rest ih =>
    have haccounted : Executor.call (⟨executor, attempts⟩ : Accounted ε) first =
        ((Executor.call executor first).1,
          ⟨(Executor.call executor first).2,
            attempts ++ [⟨first, (Executor.call executor first).1.isNone⟩]⟩) := rfl
    rw [callFrom, callFrom, haccounted]
    rcases Executor.call executor first with ⟨_ | reason, next⟩
    · -- the first call is made, and the rest follows it in the account
      rcases ih (index + 1) next (attempts ++ [⟨first, true⟩]) with
        ⟨after, hcalls, haccount⟩ | ⟨made, call, later, reason, after, rfl, hcalls, haccount⟩
      · refine .inl ⟨after, hcalls, ?_⟩
        simp only [Option.isNone_none]
        rw [haccount, List.append_assoc, List.singleton_append, List.map_cons]
      · have hindex : index + 1 + made.length = index + (first :: made).length := by
          rw [List.length_cons]
          omega
        rw [hindex] at hcalls haccount
        refine .inr ⟨first :: made, call, later, reason, after, rfl, hcalls, ?_⟩
        simp only [Option.isNone_none]
        rw [haccount, List.append_assoc, List.singleton_append, List.map_cons, List.cons_append]
    · exact .inr ⟨[], first, rest, reason, next, rfl, rfl, rfl⟩

namespace ReceiverOver

variable {ε : Type}

/-! ## One delivery -/

/-- The receiver over the executor with an account. -/
def withAccount (receiver : ReceiverOver ε) (attempts : List Attempt) :
    ReceiverOver (Accounted ε) :=
  ofMemory ⟨receiver.executor, attempts⟩ receiver.memory

/-- What a delivery does: nothing, or it puts the calls not made before to the executor, up to one
that fails, or all of them. -/
inductive Handled (receiver : ReceiverOver ε) (message : Message) :
    List Attempt → ReceiverOver ε → Prop
  | idle : Handled receiver message [] receiver
  | interrupted {batch : Batch} {made rest : List Instruction} {call : Instruction} {after : ε} :
      receiver.isProcessed message.id = false →
      Wire.decode message.data = .ok batch →
      batch.instructions.drop (receiver.callsDone message.id) = made ++ call :: rest →
      Handled receiver message ((made.map fun call => ⟨call, true⟩) ++ [⟨call, false⟩])
        (ofMemory after (receiver.memory.interrupt message.id
          (receiver.callsDone message.id + made.length) made))
  | completed {batch : Batch} {after : ε} :
      receiver.isProcessed message.id = false →
      Wire.decode message.data = .ok batch →
      Handled receiver message
        ((batch.instructions.drop (receiver.callsDone message.id)).map fun call => ⟨call, true⟩)
        (ofMemory after (receiver.memory.complete message.id
          (batch.instructions.drop (receiver.callsDone message.id))))

section Deliver

variable [Executor ε]

/-- The calls that a delivery puts to the executor, in order. -/
def attempts (receiver : ReceiverOver ε) (mediators : Mediators) (message : Message) :
    List Attempt :=
  ((receiver.withAccount []).receive mediators message).2.executor.attempts

/-- A delivery goes on alike with an account and without, in one of the three ways. -/
theorem receive_cases (receiver : ReceiverOver ε) (mediators : Mediators) (message : Message) :
    ∃ answer attempts after, receiver.receive mediators message = (answer, after) ∧
      (receiver.withAccount []).receive mediators message = (answer, after.withAccount attempts) ∧
      receiver.Handled message attempts after := by
  have hprocessed : (receiver.withAccount []).isProcessed message.id =
      receiver.isProcessed message.id := rfl
  have hdone : (receiver.withAccount []).callsDone message.id = receiver.callsDone message.id := rfl
  simp only [receive, hprocessed]
  cases mediators.authenticate message.sourceChain message.sender with
  | error error => exact ⟨_, [], receiver, rfl, rfl, .idle⟩
  | ok mediator =>
    cases hfresh : receiver.isProcessed message.id with
    | true => exact ⟨_, [], receiver, rfl, rfl, .idle⟩
    | false =>
      cases hdecode : Wire.decode message.data with
      | error error => exact ⟨_, [], receiver, rfl, rfl, .idle⟩
      | ok batch =>
        have hexecutor : (receiver.withAccount []).executor = ⟨receiver.executor, []⟩ := rfl
        simp only [Bool.false_eq_true, if_false, carryOut, hdone, hexecutor]
        rcases Executor.callFrom_accounted (receiver.callsDone message.id) receiver.executor []
            (batch.instructions.drop (receiver.callsDone message.id)) with
          ⟨after, hcalls, haccount⟩ | ⟨made, call, rest, reason, after, hsplit, hcalls, haccount⟩
        · rw [hcalls, haccount]
          exact ⟨_, _, _, rfl, rfl, .completed hfresh hdecode⟩
        · rw [hcalls, haccount]
          exact ⟨_, _, _, rfl, rfl, .interrupted hfresh hdecode hsplit⟩

/-- A receiver over an executor with an account answers and goes on as without. -/
theorem receive_accounted (receiver : ReceiverOver ε) (mediators : Mediators)
    (message : Message) :
    (receiver.withAccount []).receive mediators message =
      ((receiver.receive mediators message).1,
        (receiver.receive mediators message).2.withAccount
          (receiver.attempts mediators message)) := by
  obtain ⟨answer, attempts, after, hreceive, haccount, -⟩ :=
    receiver.receive_cases mediators message
  rw [ReceiverOver.attempts, haccount, hreceive]
  rfl

theorem handled_receive (receiver : ReceiverOver ε) (mediators : Mediators) (message : Message) :
    receiver.Handled message (receiver.attempts mediators message)
      (receiver.receive mediators message).2 := by
  obtain ⟨answer, attempts, after, hreceive, haccount, handled⟩ :=
    receiver.receive_cases mediators message
  rw [ReceiverOver.attempts, haccount, hreceive]
  exact handled

end Deliver

namespace Handled

variable {receiver after : ReceiverOver ε} {message : Message} {attempts : List Attempt}

/-- What the receiver remembers afterwards is faithful to the history with the calls made. -/
theorem faithful (handled : receiver.Handled message attempts after) {deliveries : List Delivery}
    (faithful : receiver.memory.Faithful deliveries) :
    ∃ delivery : Delivery, delivery.message = message ∧
      delivery.calls = Attempt.callsMade attempts ∧
      after.memory.Faithful (deliveries ++ [delivery]) := by
  -- the history is told only that a call failed, whatever the executor gave as the reason
  cases handled with
  | idle =>
    refine ⟨⟨message, [], .ok (.duplicate message.id)⟩, rfl, rfl, ?_⟩
    exact faithful.idle rfl fun ⟨_, hanswer⟩ => by cases hanswer
  | @interrupted batch made rest call _ hfresh hdecode hsplit =>
    refine ⟨⟨message, made, .error (.callFailed
      (receiver.callsDone message.id + made.length) call.target)⟩, rfl, ?_, ?_⟩
    · rw [Attempt.callsMade_append, Attempt.callsMade_map_made]
      exact (List.append_nil _).symm
    · exact (faithful.interrupt hfresh hdecode hsplit _).withRecorder _
  | @completed batch _ hfresh hdecode =>
    refine ⟨⟨message, batch.instructions.drop (receiver.callsDone message.id),
      .ok (.executed message.id 0)⟩, rfl, ?_, ?_⟩
    · rw [Attempt.callsMade_map_made]
    · exact (faithful.complete hfresh hdecode _).withRecorder _

/-- The calls of a message that is not carried out are made as far as they are counted. -/
theorem progress_of_fresh {batch : Batch} (hfresh : receiver.isProcessed message.id = false)
    (hdecode : Wire.decode message.data = .ok batch) :
    receiver.memory.progress message = receiver.callsDone message.id := by
  rw [Receiver.progress_of_decode _ hdecode]
  exact if_neg (ne_true_of_eq_false hfresh)

/-- The calls put to the executor follow those that the receiver takes to have been made. -/
theorem follow (handled : receiver.Handled message attempts after) :
    Attempt.Follow (message.instructions.drop (receiver.memory.progress message)) attempts := by
  cases handled with
  | idle => exact Attempt.follow_nil _
  | @interrupted batch made rest call _ hfresh hdecode hsplit =>
    -- the failing call is the next one behind the calls that were made
    rw [progress_of_fresh hfresh hdecode, Message.instructions_of_decode hdecode, hsplit]
    refine (Attempt.follow_map_made made (call :: rest)).append
      (Attempt.follow_singleton call false rest) ?_
    rw [Attempt.callsMade_map_made]
  | @completed batch _ hfresh hdecode =>
    rw [progress_of_fresh hfresh hdecode, Message.instructions_of_decode hdecode]
    have hfollow := Attempt.follow_map_made
      (batch.instructions.drop (receiver.callsDone message.id)) []
    rwa [List.append_nil] at hfollow

end Handled

/-! ## Runs -/

section Run

variable [Executor ε]

/-- The calls put to the executor on behalf of a message at a moment of a run. -/
def attemptsAt (message : Message) (moment : Moment (ReceiverOver ε) (ReceiverEvent ε)) :
    List Attempt :=
  match moment.event with
  | .arrive arrival =>
    if arrival.message = message then moment.before.attempts arrival.mediators message else []
  | _ => []

/-- The calls put to the executor on behalf of a message, in order. -/
def attemptsFor (message : Message) (moments : List (Moment (ReceiverOver ε) (ReceiverEvent ε))) :
    List Attempt :=
  moments.flatMap (attemptsAt message)

theorem attemptsFor_concat (message : Message)
    (past : List (Moment (ReceiverOver ε) (ReceiverEvent ε)))
    (moment : Moment (ReceiverOver ε) (ReceiverEvent ε)) :
    attemptsFor message (past ++ [moment]) =
      attemptsFor message past ++ attemptsAt message moment := by
  rw [attemptsFor, List.flatMap_append, List.flatMap_singleton, attemptsFor]

/-- No other message that arrives has the identifier of the message. -/
def ApartIn (message : Message) (moments : List (Moment (ReceiverOver ε) (ReceiverEvent ε))) :
    Prop :=
  ∀ moment ∈ moments, ∀ arrival, moment.event = .arrive arrival →
    arrival.message.id = message.id → arrival.message = message

/-- The deliveries of a history are the arrivals at the moments of a run. -/
structure Recounts (deliveries : List Delivery)
    (past : List (Moment (ReceiverOver ε) (ReceiverEvent ε))) : Prop where
  /-- What was delivered arrived. -/
  arrived : ∀ delivery ∈ deliveries, ∃ moment ∈ past, ∃ arrival,
    moment.event = .arrive arrival ∧ arrival.message = delivery.message
  /-- The calls made for a message are those that the executor made. -/
  calls : ∀ message, callsFor deliveries message = Attempt.callsMade (attemptsFor message past)

theorem Recounts.apart {deliveries : List Delivery}
    {past : List (Moment (ReceiverOver ε) (ReceiverEvent ε))} (recounts : Recounts deliveries past)
    {message : Message} (apart : ApartIn message past) : Apart deliveries message := by
  intro delivery hdelivery hid
  obtain ⟨moment, hmoment, arrival, hevent, hmessage⟩ := recounts.arrived delivery hdelivery
  rw [← hmessage] at hid ⊢
  exact apart moment hmoment arrival hevent hid

/-- The moments of a run explain what a receiver remembers. -/
structure Explained (receiver : ReceiverOver ε)
    (past : List (Moment (ReceiverOver ε) (ReceiverEvent ε))) : Prop where
  /-- The counts fit the ledger. -/
  counting : receiver.Counting
  /-- What is remembered is faithful to the history that the moments tell. -/
  faithful : ∃ deliveries, Recounts deliveries past ∧ receiver.memory.Faithful deliveries
  /-- The calls put to the executor for a message follow its batch. -/
  follow : ∀ message, ApartIn message past →
    Attempt.Follow message.instructions (attemptsFor message past)

theorem explained_create (executor : ε) : (create executor).Explained [] where
  counting := counting_create executor
  faithful := by
    refine ⟨[], ⟨fun delivery h => ?_, fun message => rfl⟩, Receiver.faithful_create _⟩
    cases h
  follow message _ := Attempt.follow_nil _

namespace Explained

variable {receiver : ReceiverOver ε} {past : List (Moment (ReceiverOver ε) (ReceiverEvent ε))}
  (explained : receiver.Explained past)

include explained

/-- An event at which nothing is put to the executor and what is remembered stays the same. -/
theorem quiet {moment : Moment (ReceiverOver ε) (ReceiverEvent ε)}
    (silent : ∀ message, attemptsAt message moment = []) {after : ReceiverOver ε}
    (counting : after.Counting) (same : after.memory = receiver.memory) :
    after.Explained (past ++ [moment]) := by
  obtain ⟨deliveries, recounts, hfaithful⟩ := explained.faithful
  refine ⟨counting, ⟨deliveries, ⟨?_, ?_⟩, same ▸ hfaithful⟩, ?_⟩
  · intro delivery hdelivery
    exact exists_mem_concat.mpr (.inl (recounts.arrived delivery hdelivery))
  · intro message
    rw [attemptsFor_concat, silent, List.append_nil, recounts.calls]
  · intro message apart
    rw [attemptsFor_concat, silent, List.append_nil]
    exact explained.follow message fun earlier h => apart earlier (List.mem_append_left _ h)

/-- An arrival, at which the calls of a delivery are put to the executor. -/
theorem arrive (arrival : Arrival) :
    (receiver.step (.arrive arrival)).Explained
      (past ++ [⟨receiver, .arrive arrival, receiver.step (.arrive arrival)⟩]) := by
  have handled := receiver.handled_receive arrival.mediators arrival.message
  obtain ⟨deliveries, recounts, hfaithful⟩ := explained.faithful
  obtain ⟨delivery, hmessage, hcalls, hafter⟩ := handled.faithful hfaithful
  refine ⟨explained.counting.step _, ⟨deliveries ++ [delivery], ⟨?_, ?_⟩, hafter⟩, ?_⟩
  · -- the new delivery is of the message that arrives now
    intro earlier hearlier
    rcases List.mem_append.mp hearlier with hmem | hmem
    · exact exists_mem_concat.mpr (.inl (recounts.arrived earlier hmem))
    · rw [List.mem_singleton.mp hmem]
      exact exists_mem_concat.mpr (.inr ⟨arrival, rfl, hmessage.symm⟩)
  · intro message
    rw [callsFor_concat, attemptsFor_concat, Attempt.callsMade_append, recounts.calls, hmessage,
      hcalls, attemptsAt]
    dsimp only
    split
    · rename_i hsame
      rw [hsame]
    · rfl
  · intro message apart
    have early : ApartIn message past := fun moment h => apart moment (List.mem_append_left _ h)
    rw [attemptsFor_concat, attemptsAt]
    dsimp only
    split
    · -- the calls made before are the front of the batch, and the new ones follow them
      rename_i hsame
      subst hsame
      refine (explained.follow _ early).append handled.follow ?_
      rw [← recounts.calls, hfaithful.calls _ (recounts.apart early), List.take_append_drop]
    · rw [List.append_nil]
      exact explained.follow message early

/-- Every event keeps what is remembered explained. -/
theorem step (event : ReceiverEvent ε) :
    (receiver.step event).Explained (past ++ [⟨receiver, event, receiver.step event⟩]) := by
  have counting := explained.counting.step event
  cases event with
  | arrive arrival => exact explained.arrive arrival
  | equip executor => exact explained.quiet (fun _ => rfl) counting rfl
  | restart =>
    -- the receiver that goes on from the ledger is the one that wrote it
    refine explained.quiet (fun _ => rfl) counting ?_
    rw [ReceiverOver.step, explained.counting.restore_ledger]
  | reload =>
    refine explained.quiet (fun _ => rfl) counting ?_
    rw [ReceiverOver.step]
    cases hreload : receiver.reload with
    | error error => rfl
    | ok restored => rw [((explained.counting.reload_eq_ok_iff restored).mp hreload).2]

end Explained

/-- Whatever arrives at a receiver, whichever calls fail and however often it is restarted: the calls
made for a message are the front of its batch as far as the receiver takes it to be carried out, and
each call put to the executor for it is the next of the batch behind those made before. -/
theorem attempts_follow_batch (executor : ε) (events : List (ReceiverEvent ε)) (message : Message)
    (apart : ∀ arrival, .arrive arrival ∈ events →
      arrival.message.id = message.id → arrival.message = message) :
    let attempts := attemptsFor message (course step (create executor) events)
    Attempt.callsMade attempts =
        message.instructions.take (((create executor).run events).memory.progress message) ∧
      Attempt.Follow message.instructions attempts := by
  have explained : ((create executor).run events).Explained
      (course step (create executor) events) :=
    course_induction (explained_create executor)
      (fun _ _ event explained => explained.step event) events
  have apartIn : ApartIn message (course step (create executor) events) := by
    intro moment hmoment arrival hevent
    obtain ⟨earlier, rest, hevents, -, -⟩ := of_mem_course hmoment
    apply apart
    rw [hevents, ← hevent]
    exact List.mem_append_right _ List.mem_cons_self
  obtain ⟨deliveries, recounts, hfaithful⟩ := explained.faithful
  refine ⟨?_, explained.follow message apartIn⟩
  rw [← recounts.calls]
  exact hfaithful.calls message (recounts.apart apartIn)

end Run

end ReceiverOver

end GovernanceRelay
