import P2pService.Proof.Service.Calls
import P2pService.World.Fanout

/-!
# What a request of the API ends with

An answer has the type that its command asks for, so a status other than those the API documents
cannot come up, and a request that ends in `INTERNAL` for want of an answer has outlived the loop.
-/

namespace P2pService
open Library

variable {PeerId : Type}

inductive Command.Fits : Command PeerId → Answer PeerId → Prop where
  | listening (addr : Multiaddr PeerId) (sender : Sender) : Fits (.startListening addr sender) .ok
  | notListening (addr : Multiaddr PeerId) (sender : Sender) :
      Fits (.startListening addr sender) (.error .listen)
  | connected (peer : PeerId) (addrs : List (Multiaddr PeerId)) (sender : Sender) :
      Fits (.dial peer addrs sender) .ok
  | refused (peer : PeerId) (addrs : List (Multiaddr PeerId)) (sender : Sender) (error : DialError) :
      Fits (.dial peer addrs sender) (.error (.dial error))
  | failed (peer : PeerId) (addrs : List (Multiaddr PeerId)) (sender : Sender) (error : DialError) :
      Fits (.dial peer addrs sender) (.error (.dialFailed error))
  | identified (sender : Sender) (info : NodeInfo PeerId) : Fits (.identify sender) (.nodeInfo info)
  | subscribed (topic : String) (sender : Sender) : Fits (.subscribe topic sender) .ok
  | notSubscribed (topic : String) (sender : Sender) :
      Fits (.subscribe topic sender) (.error .subscription)
  | published (topic : String) (message : List UInt8) (sender : Sender) :
      Fits (.publishMessage topic message sender) .ok
  | notPublished (topic : String) (message : List UInt8) (sender : Sender) (error : PublishError) :
      Fits (.publishMessage topic message sender) (.error (.publish error))
  | observed (sender : Sender) (snapshot : NetworkSnapshot PeerId) :
      Fits (.networkSnapshot sender) (.snapshot snapshot)
  | preferred (peers : List (PeerId × List (Multiaddr PeerId))) (sender : Sender)
      (accepted truncated : UInt32) : Fits (.setPreferredPeers peers sender) (.counts accepted truncated)
  | listed (sender : Sender) (peers : Multiset (PeerSnapshot PeerId)) :
      Fits (.getPeers sender) (.peers peers)

theorem fits_of_outcome {label : Label PeerId} {peer : PeerId} {answer : Answer PeerId}
    (outcome : label.outcome = some (peer, answer)) (addrs : List (Multiaddr PeerId))
    (sender : Sender) : Command.Fits (.dial peer addrs sender) answer := by
  unfold Label.outcome at outcome
  split at outcome
  · split_ifs at outcome
    cases outcome
    exact .connected peer addrs sender
  · cases outcome
    exact .failed peer addrs sender _
  · cases outcome

theorem fits_refusal (peer : PeerId) (addrs : List (Multiaddr PeerId)) (sender : Sender)
    (error : DialError) : Command.Fits (.dial peer addrs sender) (EventLoop.refusal error) := by
  unfold EventLoop.refusal
  split_ifs
  · exact .connected peer addrs sender
  · exact .refused peer addrs sender error

theorem replyAnswer_of_errsWith {kind : CommandError → Bool} {reply : Except CommandError Unit}
    (typed : errsWith kind reply) : (replyAnswer reply : Answer PeerId) = .ok ∨
      ∃ error, kind error ∧ (replyAnswer reply : Answer PeerId) = .error error := by
  cases reply with
  | ok => exact .inl rfl
  | error error => exact .inr ⟨error, typed, rfl⟩

/-- Why a request ends with an error, given what its call returned. -/
inductive Rpc.Cause : Rpc → Option (Answer PeerId) → StatusCode → Prop where
  | wrongPeerId (request : DialRequest) (error : CommandError) :
      error = .dial .wrongPeerId ∨ error = .dialFailed .wrongPeerId →
      Cause (.dial request) (some (.error error)) .failedPrecondition
  | unreachable (request : DialRequest) (error : CommandError) (reason : DialError) :
      error = .dial reason ∨ error = .dialFailed reason → reason ≠ .wrongPeerId →
      Cause (.dial request) (some (.error error)) .notFound
  | notPublished (request : PublishRequest) (error : PublishError) :
      error ≠ .noPeersSubscribedToTopic →
      Cause (.publish request) (some (.error (.publish error))) .internal
  | notSubscribed (topicName : String) :
      Cause (.subscribe topicName) (some (.error .subscription)) .internal
  | ended (rpc : Rpc) : Cause rpc none .internal

def statusCode : Except Status Unit → Option StatusCode
  | .ok () => none
  | .error status => some status.code

theorem Rpc.statusCode_of_cause [TextCodec PeerId] [TextCodec (Multiaddr PeerId)]
    [ToString CommandError] {rpc : Rpc} {outcome : Option (Answer PeerId)} {code : StatusCode}
    (cause : rpc.Cause outcome code) (metrics : Metrics) (localPeerId : String) (nowMillis : Nat) :
    statusCode (rpc.status metrics localPeerId nowMillis (P2PClient.sendCommandAndWait outcome)) =
      some code := by
  cases cause with
  | wrongPeerId request error wrong =>
      rcases wrong with rfl | rfl <;> rfl
  | unreachable request error reason failed different =>
      rcases failed with rfl | rfl <;> cases reason <;> first | rfl | exact absurd rfl different
  | notPublished request error different =>
      cases error <;> first | rfl | exact absurd rfl different
  | notSubscribed topicName => rfl
  | ended rpc => cases rpc <;> rfl

theorem Rpc.cause_of_dialError (request : DialRequest) {error : CommandError} {reason : DialError}
    (failed : error = .dial reason ∨ error = .dialFailed reason) :
    ∃ code, Rpc.Cause (.dial request) (some (.error error : Answer PeerId)) code := by
  by_cases wrong : reason = .wrongPeerId
  · exact ⟨_, .wrongPeerId request error (wrong ▸ failed)⟩
  · exact ⟨_, .unreachable request error reason failed wrong⟩

/-! ## Answers of the right type -/

variable [DecidableEq PeerId]

theorem EventLoop.fits_handleCommand (loop : EventLoop PeerId) {view : SwarmView PeerId}
    {command : Command PeerId} (other : ∀ peer addrs sender, command ≠ .dial peer addrs sender)
    (typed : (Label.command view command).wellTyped) :
    ∃ answer, (loop.handleCommand view command).effects.filterMap Effect.answer? =
      [(command.sender, answer)] ∧ command.Fits answer := by
  cases command with
  | startListening addr sender =>
      refine ⟨_, rfl, ?_⟩
      rcases replyAnswer_of_errsWith typed with ok | ⟨error, kind, failed⟩
      · exact ok ▸ .listening addr sender
      · cases of_decide_eq_true kind
        exact failed ▸ .notListening addr sender
  | dial peer addrs sender => exact absurd rfl (other peer addrs sender)
  | identify sender => exact ⟨_, rfl, .identified sender _⟩
  | subscribe topic sender =>
      refine ⟨_, rfl, ?_⟩
      rcases replyAnswer_of_errsWith typed with ok | ⟨error, kind, failed⟩
      · exact ok ▸ .subscribed topic sender
      · cases of_decide_eq_true kind
        exact failed ▸ .notSubscribed topic sender
  | publishMessage topic message sender =>
      refine ⟨_, rfl, ?_⟩
      rcases replyAnswer_of_errsWith typed with ok | ⟨error, kind, failed⟩
      · exact ok ▸ .published topic message sender
      · cases error with
        | publish error => exact failed ▸ .notPublished topic message sender error
        | _ => cases kind
  | networkSnapshot sender => exact ⟨_, rfl, .observed sender _⟩
  | setPreferredPeers peers sender =>
      exact ⟨_, loop.answers_handleSetPreferredPeers peers sender, .preferred peers sender _ _⟩
  | getPeers sender => exact ⟨_, rfl, .listed sender _⟩

/-- Every answer fits the command of its sender, and every sender that waits for a dial asked for
that dial. -/
structure Answering (asked : Sender → Option (Command PeerId)) (world : World PeerId) : Prop where
  answers : ∀ sender answer, (sender, answer) ∈ world.answers →
    ∃ command, asked sender = some command ∧ command.Fits answer
  waiting : ∀ peer senders, world.loop.pendingDials.get peer = some senders → ∀ sender ∈ senders,
    ∃ addrs, asked sender = some (.dial peer addrs sender)

namespace Answering

variable {asked : Sender → Option (Command PeerId)} {before after : World PeerId}

theorem mono (answering : Answering asked before) {more : Sender → Option (Command PeerId)}
    (grown : ∀ sender command, asked sender = some command → more sender = some command) :
    Answering more before where
  answers sender answer member := by
    obtain ⟨command, made, fits⟩ := answering.answers sender answer member
    exact ⟨command, grown sender command made, fits⟩
  waiting peer senders pending sender member := by
    obtain ⟨addrs, made⟩ := answering.waiting peer senders pending sender member
    exact ⟨addrs, grown sender _ made⟩

theorem answer (answering : Answering asked before) {sender : Sender} {answer : Answer PeerId}
    {command : Command PeerId} (made : asked sender = some command) (fits : command.Fits answer)
    (answers : after.answers = before.answers ++ [(sender, answer)])
    (pendingDials : after.loop.pendingDials = before.loop.pendingDials) : Answering asked after where
  answers other told member := by
    rw [answers, List.mem_append, List.mem_singleton] at member
    rcases member with old | new
    · exact answering.answers other told old
    · cases new
      exact ⟨command, made, fits⟩
  waiting := pendingDials ▸ answering.waiting

theorem join (answering : Answering asked before) {peer : PeerId} {addrs : List (Multiaddr PeerId)}
    {sender : Sender} (waiting : List Sender) (made : asked sender = some (.dial peer addrs sender))
    (before_waiting : ∀ other ∈ waiting, ∃ addrs, asked other = some (.dial peer addrs other))
    (answers : after.answers = before.answers)
    (joined : after.loop.pendingDials = before.loop.pendingDials.insert peer (waiting ++ [sender])) :
    Answering asked after where
  answers := answers ▸ answering.answers
  waiting other senders pending waiter member := by
    rw [joined, HashMap.get_insert] at pending
    split_ifs at pending with same
    · cases pending
      rcases List.mem_append.mp member with old | new
      · exact same ▸ before_waiting waiter old
      · cases List.mem_singleton.mp new
        exact ⟨addrs, same ▸ made⟩
    · exact answering.waiting other senders pending waiter member

theorem ended (answering : Answering asked before) {label : Label PeerId} {peer : PeerId}
    {answer : Answer PeerId} (outcome : label.outcome = some (peer, answer))
    (step : World.Ended before after peer answer) : Answering asked after where
  answers sender told member := by
    rw [step.answers, List.mem_append] at member
    rcases member with old | new
    · exact answering.answers sender told old
    · obtain ⟨waiter, waits, same⟩ := List.mem_map.mp new
      cases same
      cases pending : before.loop.pendingDials.get peer with
      | none => simp [pending] at waits
      | some senders =>
          rw [pending, Option.getD_some] at waits
          obtain ⟨addrs, made⟩ := answering.waiting peer senders pending sender waits
          exact ⟨_, made, fits_of_outcome outcome addrs sender⟩
  waiting other senders pending := by
    rw [step.pendingDials, HashMap.get_remove] at pending
    split_ifs at pending
    exact answering.waiting other senders pending

variable [TextCodec PeerId] [TextCodec (Multiaddr PeerId)]

theorem command (answering : Answering asked before) {view : SwarmView PeerId}
    {command : Command PeerId} (enabled : before.Matched (.command view command))
    (typed : (Label.command view command).wellTyped) (made : asked command.sender = some command) :
    Answering asked (before.next (.command view command)) := by
  cases World.dialStep enabled with
  | queued view peer addrs sender waiting step =>
      exact answering.join waiting made (answering.waiting peer waiting step.occupied) step.answers
        step.pendingDials
  | started view peer addrs sender _ step =>
      exact answering.join [] made (by simp) step.answers step.pendingDials
  | refused view peer addrs sender error _ step =>
      exact answering.answer made (fits_refusal peer addrs sender error) step.answers
        step.pendingDials
  | told view command answer other step =>
      obtain ⟨told, answered, fits⟩ := before.loop.fits_handleCommand other typed
      exact answering.answer made fits (congrArg (before.answers ++ ·) answered) step.pendingDials
  | ended _ _ _ outcome _ => simp [Label.outcome] at outcome
  | idle _ _ other _ => exact absurd rfl (other view command)

theorem event (answering : Answering asked before) {label : Label PeerId}
    (matched : before.Matched label) (event : label.command? = none) :
    Answering asked (before.next label) := by
  cases World.dialStep matched with
  | ended label peer answer outcome step => exact answering.ended outcome step
  | idle label _ _ step => exact ⟨step.answers ▸ answering.answers, step.pendingDials ▸ answering.waiting⟩
  | _ => cases event

end Answering

variable [TextCodec PeerId] [TextCodec (Multiaddr PeerId)]

theorem answering_agrees : (eventLoopServer PeerId).Agrees Answering := by
  constructor
  case initial =>
    rintro asked _ ⟨subscriptions, peerstore, settings, bootstrapPeers, rfl⟩
    constructor
    · intro sender answer member
      cases member
    · intro peer senders pending
      simp [World.start, EventLoop.new] at pending
  case mono => exact fun asked more world grown answering => answering.mono grown
  case serves =>
    intro asked world label command answering enabled asks made
    cases label with
    | command view command =>
        cases asks
        exact answering.command enabled.1 enabled.2 made
    | _ => cases asks
  case reacts => exact fun asked world label answering enabled event =>
    answering.event enabled.1 event

/-! ## The statuses -/

namespace Rpc

def WellFormed (PeerId : Type) [TextCodec PeerId] [TextCodec (Multiaddr PeerId)] : Rpc → Prop
  | .dial request => (TextCodec.fromStr request.peerId : Option PeerId).isSome ∧
      (TextCodec.fromStr request.multiaddr : Option (Multiaddr PeerId)).isSome
  | .publish request => request.topic ≠ ""
  | .subscribe topicName => topicName ≠ ""
  | .identify | .setPreferredPeers _ | .getPeers => True

section

variable [ParseError PeerId] [ParseError (Multiaddr PeerId)]

theorem command_of_wellFormed {rpc : Rpc} (wellFormed : rpc.WellFormed PeerId) (sender : Sender) :
    ∃ command : Command PeerId, rpc.command sender = .ok command ∧ command.sender = sender := by
  cases rpc with
  | dial request =>
      obtain ⟨peerId, parsed⟩ := Option.isSome_iff_exists.mp wellFormed.1
      obtain ⟨multiaddr, read⟩ := Option.isSome_iff_exists.mp wellFormed.2
      refine ⟨.dial peerId [multiaddr] sender, ?_, rfl⟩
      simp only [command, Grpc.dial, Grpc.parsePeerId, Grpc.parseMultiaddr, parsed, read]
      rfl
  | publish request => exact ⟨_, if_neg wellFormed, rfl⟩
  | subscribe topicName => exact ⟨_, if_neg wellFormed, rfl⟩
  | _ => exact ⟨_, rfl, rfl⟩

theorem refused_of_not_wellFormed {rpc : Rpc} (malformed : ¬ rpc.WellFormed PeerId)
    (sender : Sender) : ∃ status, (rpc.command sender : Except Status (Command PeerId)) = .error status ∧
      status.code = .invalidArgument := by
  cases rpc with
  | dial request =>
      cases parsed : (TextCodec.fromStr request.peerId : Option PeerId) with
      | none =>
          simp only [command, Grpc.dial, Grpc.parsePeerId, parsed]
          exact ⟨_, rfl, rfl⟩
      | some peerId =>
          cases read : (TextCodec.fromStr request.multiaddr : Option (Multiaddr PeerId)) with
          | none =>
              simp only [command, Grpc.dial, Grpc.parsePeerId, Grpc.parseMultiaddr, parsed, read]
              exact ⟨_, rfl, rfl⟩
          | some multiaddr => exact absurd ⟨by simp [parsed], by simp [read]⟩ malformed
  | publish request => exact ⟨_, if_pos (not_not.mp malformed), rfl⟩
  | subscribe topicName => exact ⟨_, if_pos (not_not.mp malformed), rfl⟩
  | _ => exact absurd trivial malformed

end

variable [ToString CommandError]

theorem cause_or_ok [ParseError PeerId] [ParseError (Multiaddr PeerId)] {rpc : Rpc} {sender : Sender}
    {command : Command PeerId} (made : rpc.command sender = .ok command) {answer : Answer PeerId}
    (fits : command.Fits answer) (metrics : Metrics) (localPeerId : String) (nowMillis : Nat) :
    (∃ code, rpc.Cause (some answer) code) ∨
      statusCode (rpc.status metrics localPeerId nowMillis answer) = none := by
  cases rpc with
  | identify =>
      cases made
      cases fits
      exact .inr rfl
  | dial request =>
      obtain ⟨peer, multiaddr, rfl⟩ := Grpc.dial_of_ok made
      cases fits with
      | connected => exact .inr rfl
      | refused _ _ _ error => exact .inl (cause_of_dialError request (.inl rfl))
      | failed _ _ _ error => exact .inl (cause_of_dialError request (.inr rfl))
  | publish request =>
      change (if request.topic = "" then _ else _) = _ at made
      split_ifs at made
      cases made
      cases fits with
      | published => exact .inr rfl
      | notPublished _ _ _ error =>
          by_cases nobody : error = .noPeersSubscribedToTopic
          · exact .inr (nobody ▸ rfl)
          · exact .inl ⟨_, .notPublished request error nobody⟩
  | subscribe topicName =>
      change (if topicName = "" then _ else _) = _ at made
      split_ifs at made
      cases made
      cases fits with
      | subscribed => exact .inr rfl
      | notSubscribed => exact .inl ⟨_, .notSubscribed topicName⟩
  | setPreferredPeers peers =>
      cases made
      cases fits
      exact .inr rfl
  | getPeers =>
      cases made
      cases fits
      exact .inr rfl

theorem statusCode_iff_cause [ParseError PeerId] [ParseError (Multiaddr PeerId)] {rpc : Rpc}
    {sender : Sender} {command : Command PeerId} (made : rpc.command sender = .ok command)
    {outcome : Option (Answer PeerId)} (fits : ∀ answer, outcome = some answer → command.Fits answer)
    (metrics : Metrics) (localPeerId : String) (nowMillis : Nat) (code : StatusCode) :
    statusCode (rpc.status metrics localPeerId nowMillis (P2PClient.sendCommandAndWait outcome)) =
      some code ↔ rpc.Cause outcome code := by
  refine ⟨fun failed => ?_, fun cause => statusCode_of_cause cause metrics localPeerId nowMillis⟩
  have found : ∃ reason, rpc.Cause outcome reason := by
    cases outcome with
    | none => exact ⟨_, .ended rpc⟩
    | some answer =>
        rcases cause_or_ok made (fits answer rfl) metrics localPeerId nowMillis with cause | ok
        · exact cause
        · exact absurd (failed.symm.trans ok) (by simp)
  obtain ⟨reason, cause⟩ := found
  have same := statusCode_of_cause cause metrics localPeerId nowMillis
  exact Option.some.inj (same.symm.trans failed) ▸ cause

end Rpc

/--
A request that is not well formed is refused with `INVALID_ARGUMENT` and sends no command. Whenever
the call of one that is well formed returns, the error it ends with, if any, is what the loop's
answer to its own command calls for, and there is no answer only when the loop has ended.
-/
theorem rpc_contract [ToString CommandError] [ParseError PeerId] [ParseError (Multiaddr PeerId)]
    (rpc : Rpc) (sender : Sender) :
    (¬ rpc.WellFormed PeerId → ∃ status,
      (rpc.command sender : Except Status (Command PeerId)) = .error status ∧
        status.code = .invalidArgument) ∧
    (rpc.WellFormed PeerId → ∃ command : Command PeerId, rpc.command sender = .ok command ∧
      command.sender = sender ∧
      ∀ state, (serviceSystem PeerId).Reachable state →
        ∀ client outcome, state.1.calls[sender]? = some ⟨client, command, .returned outcome⟩ →
          (outcome = none → state.1.running = false) ∧
          ∀ metrics localPeerId nowMillis code,
            statusCode (rpc.status metrics localPeerId nowMillis
              (P2PClient.sendCommandAndWait outcome)) = some code ↔ rpc.Cause outcome code) := by
  refine ⟨fun malformed => Rpc.refused_of_not_wellFormed malformed sender, fun wellFormed => ?_⟩
  obtain ⟨command, made, own⟩ := Rpc.command_of_wellFormed wellFormed sender
  refine ⟨command, made, own, fun state reachable client outcome there => ?_⟩
  have orderly := orderly_service reachable
  have answering := Server.agrees_of_reachable eventLoopServer_honest answering_agrees reachable
  have stands := orderly.stands sender _ there
  refine ⟨fun closed => ?_, Rpc.statusCode_iff_cause made fun answer answered => ?_⟩
  · subst closed
    exact stands.1
  · subst answered
    obtain ⟨asked, known, fits⟩ := answering.answers sender answer stands
    rw [Server.asked, there, Option.map_some, Option.some.injEq] at known
    obtain rfl : command = asked := known
    exact fits

section

open Sample

theorem rpc_contract_hungUp : hungUp.1.running = false ∧
    statusCode (Rpc.identify.status .new "" 0
      (P2PClient.sendCommandAndWait (none : Option (Answer Peer)))) = some .internal := by
  obtain ⟨command, made, _, contract⟩ := (@rpc_contract Peer _ _ _ _ _ _ .identify 1).2 trivial
  cases made
  have ended := contract hungUp hungUp_reachable 1 none rfl
  exact ⟨ended.1 rfl, (ended.2 .new "" 0 .internal).mpr (.ended .identify)⟩

end

end P2pService
