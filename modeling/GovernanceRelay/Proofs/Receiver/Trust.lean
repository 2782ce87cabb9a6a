import GovernanceRelay.Proofs.Governance.Granted
import GovernanceRelay.Proofs.Receiver.AtMostOnce

/-!
# Trust when a message arrives

Whom a remote chain believes is decided anew at every delivery: it is the mediator that was named
last for the chain that the message comes from, by a request that was granted, whatever was believed
at earlier deliveries of the same message. A message that is not believed, was carried out before or
is no batch leaves the receiver as it was, and it is refused for the first of these reasons
(`Receiver.gated_receive`). The mediator that was named last is read off the course of the run
(`RemoteChain.lastNamed?`); that the governance goes by it is kept by every step
(`RemoteChain.find?_mediators_step`), and all its answers about senders agree on it
(`RemoteChain.trust_gates_deliveries`).
-/

set_option autoImplicit false

namespace GovernanceRelay

/-! ## Who was named last -/

/-- The mediator that a request names for a chain, if the request is granted. -/
def Governance.named? (governance : Governance) (source : ChainId) :
    GovernanceRequest → Option Address
  | .setMediator caller chain mediator =>
    if chain = source ∧ (governance.setMediator caller chain mediator).isOk = true then some mediator
    else none
  | _ => none

/-- After a request a chain has the mediator that the request names for it, and otherwise the one
that it had before. -/
theorem Governance.find?_mediators_after (governance : Governance) (request : GovernanceRequest)
    (source : ChainId) :
    (governance.after request).mediators.find? source =
      (governance.named? source request).or (governance.mediators.find? source) := by
  cases hanswer : governance.answer request with
  | error error =>
    rw [after_of_refused hanswer]
    cases request with
    | setMediator caller chain mediator =>
      -- what is refused names nobody
      cases hset : governance.setMediator caller chain mediator with
      | error _ => simp [named?, hset, Except.isOk, Except.toBool]
      | ok _ => simp [answer, hset, Except.map] at hanswer
    | setPolicies _ _ => rfl
    | setPolicyColumns _ _ => rfl
    | setRoute _ _ _ => rfl
    | handOver _ _ _ _ => rfl
    | handOverTogether _ _ _ _ => rfl
  | ok done =>
    rw [after_of_answer hanswer]
    obtain ⟨hadmin, granted⟩ := (governance.answer_eq_ok_iff request done).mp hanswer
    cases granted with
    | @setMediator caller mediator chain hmediator =>
      have hset := (governance.setMediator_eq_ok_iff caller chain mediator _).mpr
        ⟨hadmin, hmediator, rfl⟩
      rw [OrderedMap.find?_insert, named?, hset]
      by_cases hsource : source = chain
      · simp [hsource, Except.isOk, Except.toBool]
      · simp [hsource, Ne.symm hsource]
    | setPolicies _ => rfl
    | setPolicyColumns _ => rfl
    | setRoute _ => rfl
    | handOver => rfl
    | handOverTogether _ => rfl

namespace RemoteChain

/-- The mediator that is named for a chain at a moment, if there is one. -/
def named? (source : ChainId) (moment : Moment RemoteChain RemoteEvent) : Option Address :=
  match moment.event with
  | .govern request => moment.before.governance.named? source request
  | _ => none

/-- The mediator that was named last for a chain, if there was one. -/
def lastNamed? (moments : List (Moment RemoteChain RemoteEvent)) (source : ChainId) :
    Option Address :=
  (moments.filterMap (named? source)).getLast?

theorem lastNamed?_concat (moments : List (Moment RemoteChain RemoteEvent))
    (moment : Moment RemoteChain RemoteEvent) (source : ChainId) :
    lastNamed? (moments ++ [moment]) source =
      (named? source moment).or (lastNamed? moments source) := by
  simp only [lastNamed?, List.filterMap_append, List.getLast?_append]
  cases hnamed : named? source moment with
  | none => simp only [List.filterMap_cons_none hnamed, List.filterMap_nil, List.getLast?_nil]
  | some mediator =>
    simp only [List.filterMap_cons_some hnamed, List.filterMap_nil, List.getLast?_singleton]

/-- Every step changes whom a chain believes to whoever is named by it. -/
theorem find?_mediators_step (chain : RemoteChain) (event : RemoteEvent) (source : ChainId) :
    (chain.step event).governance.mediators.find? source =
      (named? source ⟨chain, event, chain.step event⟩).or
        (chain.governance.mediators.find? source) := by
  cases event with
  | deliver message => rfl
  | failOn target => rfl
  | govern request => exact chain.governance.find?_mediators_after request source

/-- A chain that named nobody at first believes whoever was named last. -/
theorem find?_mediators_run (admin : Address) (recorder : Recorder) (events : List RemoteEvent)
    (source : ChainId) :
    ((start (Governance.create admin) recorder).run events).governance.mediators.find? source =
      lastNamed? (course step (start (Governance.create admin) recorder) events) source := by
  refine course_induction
    (P := fun chain past => chain.governance.mediators.find? source = lastNamed? past source)
    ?_ (fun chain past event ih => ?_) events
  · rfl
  · rw [find?_mediators_step, lastNamed?_concat, ih]

end RemoteChain

/-! ## What comes of a delivery -/

namespace Receiver

/-- What comes of a delivery to a receiver, given the mediator of the chain that the message comes
from. A delivery reaches the targets of its calls if a call is recorded or a call fails. -/
structure Gated (receiver : Receiver) (mediator : Option Address) (message : Message)
    (received : Except ReceiveError ReceiveOutcome × Receiver) : Prop where
  /-- A chain without a mediator is unknown. -/
  unknown : mediator = none →
    received = (.error (.sender (.unknownChain message.sourceChain)), receiver)
  /-- A sender other than the mediator is not believed. -/
  untrusted : ∀ other, mediator = some other → other ≠ message.sender →
    received =
      (.error (.sender (.untrustedSender message.sourceChain message.sender)), receiver)
  /-- A message of the mediator that was carried out before is a duplicate. -/
  duplicate : mediator = some message.sender → receiver.isProcessed message.id = true →
    received = (.ok (.duplicate message.id), receiver)
  /-- A message of the mediator that is no batch is refused for what is wrong with its data. -/
  undecodable : mediator = some message.sender → receiver.isProcessed message.id = false →
    ∀ error, Wire.decode message.data = .error error →
      received = (.error (.undecodable error), receiver)
  /-- Any other message of the mediator is carried out up to its end or up to a call that fails. -/
  attempted : mediator = some message.sender → receiver.isProcessed message.id = false →
    ∀ batch, Wire.decode message.data = .ok batch →
      (∃ calls, received.1 = .ok (.executed message.id calls)) ∨
        ∃ index target, received.1 = .error (.callFailed index target)
  /-- No other message reaches the targets of its calls. -/
  reaching : (received.2.recorder.calls ≠ receiver.recorder.calls ∨
      ∃ index target, received.1 = .error (.callFailed index target)) →
    mediator = some message.sender ∧ receiver.isProcessed message.id = false ∧
      ∃ batch, Wire.decode message.data = .ok batch
  /-- The progress of other messages is what it was. -/
  others : ∀ id, id ≠ message.id →
    received.2.isProcessed id = receiver.isProcessed id ∧
      received.2.started.find? id = receiver.started.find? id

/-- What comes of a delivery is decided by the mediator in force for the chain of the message. -/
theorem gated_receive (receiver : Receiver) (mediators : Mediators) (message : Message) :
    receiver.Gated (mediators.find? message.sourceChain) message
      (receiver.receive mediators message) where
  unknown hnone :=
    receiver.receive_of_refused ((mediators.authenticate_eq_error_iff _ _ _).mpr
      (.inl ⟨hnone, rfl⟩))
  untrusted other hother hne :=
    receiver.receive_of_refused ((mediators.authenticate_eq_error_iff _ _ _).mpr
      (.inr ⟨other, hother, hne, rfl⟩))
  duplicate trusted hprocessed := by
    rw [receiver.receive_of_trusted trusted, hprocessed, if_pos rfl]
  undecodable trusted hprocessed error hdecode := by
    rw [receiver.receive_of_trusted trusted, hprocessed, if_neg Bool.false_ne_true, hdecode]
  attempted trusted hprocessed batch hdecode := by
    have hreceived := received_receive receiver mediators message
    generalize receiver.receive mediators message = received at hreceived ⊢
    cases hreceived with
    | rejected refused =>
      rw [(mediators.authenticate_eq_ok_iff _ _ _).mpr ⟨rfl, trusted⟩] at refused
      cases refused
    | duplicate _ processed => rw [processed] at hprocessed; cases hprocessed
    | undecodable _ _ hundecodable => rw [hundecodable] at hdecode; cases hdecode
    | interrupted _ _ _ _ _ _ => exact .inr ⟨_, _, rfl⟩
    | completed _ _ _ _ => exact .inl ⟨_, rfl⟩
  reaching := by
    have hreceived := received_receive receiver mediators message
    generalize receiver.receive mediators message = received at hreceived ⊢
    cases hreceived with
    | rejected _ => simp
    | duplicate _ _ => simp
    | undecodable _ _ _ => simp
    | interrupted trusted hprocessed hdecode _ _ _ =>
      exact fun _ => ⟨trusted, hprocessed, _, hdecode⟩
    | completed trusted hprocessed hdecode _ => exact fun _ => ⟨trusted, hprocessed, _, hdecode⟩
  others id hne := receiver.frame_receive mediators message hne

end Receiver

namespace RemoteChain

/-- Whatever happened on a remote chain whose governance began with one admin, and whatever message
arrives then: what comes of it is decided by the mediator that was named last for the chain that it
comes from. The governance tells this mediator, trusts it and no other sender, and authenticates it
and no other sender, for every chain. -/
theorem trust_gates_deliveries (admin : Address) (recorder : Recorder)
    (events : List RemoteEvent) :
    let first := start (Governance.create admin) recorder
    let chain := first.run events
    let named := lastNamed? (course step first events)
    (∀ message, chain.receiver.Gated (named message.sourceChain) message
      (chain.receiver.receive chain.governance.mediators message)) ∧
    (∀ source account,
      chain.governance.mediatorOf source = named source ∧
      (chain.governance.mediators.trusts source account = true ↔ named source = some account) ∧
      (∀ mediator, chain.governance.mediators.authenticate source account = .ok mediator ↔
        mediator = account ∧ named source = some account) ∧
      (∀ error, chain.governance.mediators.authenticate source account = .error error ↔
        (named source = none ∧ error = .unknownChain source) ∨
          ∃ mediator, named source = some mediator ∧ mediator ≠ account ∧
            error = .untrustedSender source account)) := by
  intro first chain named
  have hnamed : ∀ source, chain.governance.mediators.find? source = named source :=
    find?_mediators_run admin recorder events
  refine ⟨fun message => ?_, fun source account => ?_⟩
  · rw [← hnamed]
    exact chain.receiver.gated_receive chain.governance.mediators message
  · rw [← hnamed]
    refine ⟨rfl, ?_, fun mediator => Mediators.authenticate_eq_ok_iff _ _ _ _,
      fun error => Mediators.authenticate_eq_error_iff _ _ _ _⟩
    rw [Mediators.trusts_iff_authenticate, Mediators.authenticate_eq_ok_iff]
    exact and_iff_right rfl

end RemoteChain

end GovernanceRelay
