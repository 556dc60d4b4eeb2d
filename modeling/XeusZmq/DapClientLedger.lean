import XeusZmq.DapClientRuns
import XeusZmq.Traces

/-!
Which responses the thread has received, and where they are: sent on `m_controller`,
taken as answers to requests of its own, or still in the queue.
-/

namespace XeusZmq.DapClientLedger

open XeusZmq.Values
open XeusZmq.JsonAccess
open XeusZmq.DapFraming
open XeusZmq.Commands
open XeusZmq.Runs
open XeusZmq.Traces
open XeusZmq.Exchanges
open XeusZmq.DapClient
open XeusZmq.DapClientWaiting
open XeusZmq.DapClientActions
open XeusZmq.DapClientRuns

/-- The requests of the frontend that have not been replied to. -/
def unansweredRequests (json : JsonLibrary) (actions : List Action) : List Json :=
  (acceptedRequests json actions).drop (repliedMessages actions).length

theorem unansweredRequests_silent (json : JsonLibrary) (actions : List Action) {more : List Action}
    (hmore : ∀ action ∈ more, Silent action) :
    unansweredRequests json (actions ++ more) = unansweredRequests json actions := by
  have haccepted : acceptedRequests json more = [] := by
    apply List.filterMap_eq_nil_iff.mpr
    intro action haction
    have hsilent := hmore action haction false
    cases action <;> first | rfl | cases hsilent
  have hreplied : repliedMessages more = [] := by
    apply List.filterMap_eq_nil_iff.mpr
    intro action haction
    have hsilent := hmore action haction true
    cases action <;> first | rfl | cases hsilent
  rw [unansweredRequests, acceptedRequests_append, repliedMessages_append, haccepted, hreplied,
    List.append_nil, List.append_nil, unansweredRequests]

/-- A threads request is made only while the frontend waits for no answer to one. -/
def AsksAlone (json : JsonLibrary) (before : List Action) : Action → Prop
  | .issued request _ => namesThreads request = true →
      ∀ other ∈ unansweredRequests json before, namesThreads other = false
  | _ => True

/-- The debugger sends events and responses, and these in the order of the requests. No
event names the command of a threads request, and no threads request of the thread meets
one of the frontend. -/
structure Conforms (json : JsonLibrary) (actions : List Action) : Prop where
  order : AnswersInOrder json actions
  speaks : ∀ rawMessage ∈ receivedMessages actions,
    isEvent (messageOf json rawMessage) = true ∨ isResponse (messageOf json rawMessage) = true
  plain : ∀ rawMessage ∈ receivedMessages actions,
    isEvent (messageOf json rawMessage) = true → namesThreads (messageOf json rawMessage) = false
  alone : Always (AsksAlone json) actions

theorem Conforms.front {json : JsonLibrary} {actions more : List Action}
    (h : Conforms json (actions ++ more)) : Conforms json actions where
  order := h.order.front
  speaks rawMessage hmem := h.speaks rawMessage (by simp [hmem])
  plain rawMessage hmem := h.plain rawMessage (by simp [hmem])
  alone := (always_append.mp h.alone).1

/-- Nothing has gone to the wrong place. -/
structure Tallied (json : JsonLibrary) (actions : List Action) : Prop where
  forwarded : forwardedRequests json actions <+: acceptedRequests json actions
  replied : repliedMessages actions <+: frontendResponses json actions
  answered : answeredMessages actions <+: internalResponses json actions

/-- The action neither forwards a request nor passes a response on. -/
def Quiet : Action → Prop
  | .forwarded _ _ => False
  | .replied _ _ => False
  | .answered _ => False
  | _ => True

theorem frontendResponses_append (json : JsonLibrary) (actions more : List Action) :
    frontendResponses json actions <+: frontendResponses json (actions ++ more) := by
  rw [frontendResponses, frontendResponses, exchanges_append]
  exact responsesTo_append _ _ _

theorem internalResponses_append (json : JsonLibrary) (actions more : List Action) :
    internalResponses json actions <+: internalResponses json (actions ++ more) := by
  rw [internalResponses, internalResponses, exchanges_append]
  exact responsesTo_append _ _ _

theorem Tallied.append {json : JsonLibrary} {actions more : List Action}
    (h : Tallied json actions) (hmore : ∀ action ∈ more, Quiet action) :
    Tallied json (actions ++ more) := by
  have hforwarded : forwardedRequests json more = [] := by
    apply List.filterMap_eq_nil_iff.mpr
    intro action haction
    have hquiet := hmore action haction
    cases action <;> first | rfl | exact hquiet.elim
  have hreplied : repliedMessages more = [] := by
    apply List.filterMap_eq_nil_iff.mpr
    intro action haction
    have hquiet := hmore action haction
    cases action <;> first | rfl | exact hquiet.elim
  have hanswered : answeredMessages more = [] := by
    apply List.filterMap_eq_nil_iff.mpr
    intro action haction
    have hquiet := hmore action haction
    cases action <;> first | rfl | exact hquiet.elim
  constructor
  · rw [forwardedRequests_append, hforwarded, List.append_nil, acceptedRequests_append]
    exact h.forwarded.trans (List.prefix_append _ _)
  · rw [repliedMessages_append, hreplied, List.append_nil]
    exact h.replied.trans (frontendResponses_append json actions more)
  · rw [answeredMessages_append, hanswered, List.append_nil]
    exact h.answered.trans (internalResponses_append json actions more)

theorem Tallied.of_continues {json : JsonLibrary} {s s' : XDapTcpClient}
    (h : Tallied json s.actions) (hcontinues : Continues Quiet s s') : Tallied json s'.actions := by
  obtain ⟨new, hactions, hnew, -⟩ := hcontinues
  exact hactions ▸ h.append hnew

def responses (json : JsonLibrary) (queue : List Bytes) : List Json :=
  (queue.map (messageOf json)).filter isResponse

/-- The account of a state in which the requests `asked` of the thread are open, and the
responses `taken` to such requests and `held` to the frontend are in hand. -/
structure Ledger (json : JsonLibrary) (asked : List Request) (taken held : List Json)
    (s : XDapTcpClient) : Prop where
  forwarded : forwardedRequests json s.actions = acceptedRequests json s.actions
  frontend : frontendResponses json s.actions =
    repliedMessages s.actions ++ (held ++ responses json s.messageQueue)
  internal : internalResponses json s.actions = answeredMessages s.actions ++ taken
  asked : (outstanding json s.actions).filter (fun request => request.internal) = asked
  received : ∀ rawMessage ∈ s.messageQueue, rawMessage ∈ receivedMessages s.actions
  stopped : s.stoppedQueue = []
  owed : (acceptedRequests json s.actions).length =
    (repliedMessages s.actions).length + (if s.replyOwed then 1 else 0)

theorem Ledger.tallied {json : JsonLibrary} {asked : List Request} {taken held : List Json}
    {s : XDapTcpClient} (h : Ledger json asked taken held s) : Tallied json s.actions where
  forwarded := h.forwarded ▸ List.prefix_rfl
  replied := h.frontend ▸ List.prefix_append _ _
  answered := h.internal ▸ List.prefix_append _ _

/-! What the messages that are read do to the responses. -/

theorem exchanges_received (json : JsonLibrary) (batches : List (List Bytes)) :
    exchanges json (batches.map .received) =
      (batches.flatten.map (messageOf json)).map .received := by
  induction batches with
  | nil => rfl
  | cons batch batches ih =>
      rw [List.map_cons, List.flatten_cons, List.map_append, List.map_append, ← ih]
      simp [exchanges, exchange]

theorem responses_rejected (json : JsonLibrary) (test : Json → Bool) (queue : List Bytes) :
    responses json (rejected json test queue) =
      (queue.map (messageOf json)).filter fun message => isResponse message && !test message := by
  rw [responses, rejected, List.filter_map, List.filter_map, List.filter_filter]
  rfl

/-- The test tells the responses to requests of the thread. -/
def TellsInternal (json : JsonLibrary) (actions : List Action) (test : Json → Bool) : Prop :=
  Tells isResponse Answers (fun request => request.internal) test (outstanding json actions)

theorem responses_read {json : JsonLibrary} {actions : List Action} {batches : List (List Bytes)}
    {test : Json → Bool} (horder : AnswersInOrder json (actions ++ batches.map .received))
    (htells : TellsInternal json actions test) :
    frontendResponses json (actions ++ batches.map .received) =
        frontendResponses json actions ++ responses json (rejected json test batches.flatten) ∧
      internalResponses json (actions ++ batches.map .received) =
        internalResponses json actions ++ (batches.flatten.map (messageOf json)).filter
          (fun message => isResponse message && test message) ∧
      (outstanding json (actions ++ batches.map .received)) <:+ outstanding json actions ∧
      ((outstanding json (actions ++ batches.map .received)).filter
          fun request => request.internal).length +
        ((batches.flatten.map (messageOf json)).filter
          fun message => isResponse message && test message).length =
          ((outstanding json actions).filter fun request => request.internal).length := by
  rw [AnswersInOrder, exchanges_append, exchanges_received] at horder
  rw [responses_rejected]
  simp only [frontendResponses, internalResponses, outstanding, exchanges_append,
    exchanges_received, account_append]
  obtain ⟨hinternal, hsuffix, hcount⟩ := run_received horder.rest htells
  have hothers : Tells isResponse Answers (fun request => !request.internal)
      (fun message => !test message) (outstanding json actions) :=
    fun request hrequest message hresponse hanswers =>
      congrArg not (htells request hrequest message hresponse hanswers)
  obtain ⟨hfrontend, -, -⟩ := run_received horder.rest hothers
  exact ⟨hfrontend, hinternal, hsuffix, hcount⟩

@[simp] theorem acceptedRequests_received (json : JsonLibrary) (batches : List (List Bytes)) :
    acceptedRequests json (batches.map .received) = [] := by
  simp [acceptedRequests]

@[simp] theorem forwardedRequests_received (json : JsonLibrary) (batches : List (List Bytes)) :
    forwardedRequests json (batches.map .received) = [] := by
  simp [forwardedRequests]

@[simp] theorem repliedMessages_received (batches : List (List Bytes)) :
    repliedMessages (batches.map .received) = [] := by
  simp [repliedMessages]

@[simp] theorem answeredMessages_received (batches : List (List Bytes)) :
    answeredMessages (batches.map .received) = [] := by
  simp [answeredMessages]

section Ledger

variable {json : JsonLibrary} {asked : List Request} {taken held : List Json} {s s' : XDapTcpClient}

theorem requests_frontend (h : Ledger json asked taken held s) :
    (requests (exchanges json s.actions)).filter (fun request => !request.internal) =
      (acceptedRequests json s.actions).map fun message => ⟨false, message⟩ := by
  rw [requests_exchanges, h.forwarded]

theorem drop_requests_frontend (h : Ledger json asked taken held s) :
    ((requests (exchanges json s.actions)).filter fun request => !request.internal).drop
        (repliedMessages s.actions).length =
      (unansweredRequests json s.actions).map fun message => ⟨false, message⟩ := by
  rw [requests_frontend h, unansweredRequests, List.map_drop]

/-- A response in the queue answers a request that has not been replied to. -/
theorem Ledger.exists_unanswered (h : Ledger json asked taken held s)
    (horder : AnswersInOrder json s.actions) {message : Json}
    (hmessage : message ∈ responses json s.messageQueue) :
    ∃ request ∈ unansweredRequests json s.actions, Answers ⟨false, request⟩ message := by
  obtain ⟨request, hrequest, hanswers⟩ := exists_answers_of_mem horder h.frontend
    (List.mem_append_right held hmessage)
  rw [drop_requests_frontend h] at hrequest
  obtain ⟨other, hother, rfl⟩ := List.mem_map.mp hrequest
  exact ⟨other, hother, hanswers⟩

/-- So do the open requests of the frontend. -/
theorem Ledger.mem_unanswered (h : Ledger json asked taken held s) {request : Request}
    (hrequest : request ∈ outstanding json s.actions) (hfrontend : request.internal = false) :
    request.message ∈ unansweredRequests json s.actions := by
  have hmem := mem_drop_of_outstanding h.frontend hrequest (by simp [hfrontend])
  rw [drop_requests_frontend h] at hmem
  obtain ⟨message, hmessage, rfl⟩ := List.mem_map.mp hmem
  exact hmessage

theorem Ledger.mem_asked (h : Ledger json asked taken held s) {request : Request}
    (hrequest : request ∈ outstanding json s.actions) (hinternal : request.internal = true) :
    request ∈ asked :=
  h.asked ▸ List.mem_filter.mpr ⟨hrequest, hinternal⟩

/-- At most one response is in hand or in the queue, and only if a reply is owed. -/
theorem Ledger.length_le (h : Ledger json asked taken held s) :
    (held ++ responses json s.messageQueue).length ≤ if s.replyOwed then 1 else 0 := by
  have hlength : (frontendResponses json s.actions).length ≤
      (acceptedRequests json s.actions).length := by
    have hle := length_responsesTo_le isResponse
      (fun request : Request => !request.internal) (exchanges json s.actions)
    rwa [requests_frontend h, List.length_map] at hle
  rw [h.frontend, List.length_append, h.owed] at hlength
  exact Nat.le_of_add_le_add_left hlength

theorem receivedMessages_read (actions : List Action) (batches : List (List Bytes)) :
    receivedMessages (actions ++ batches.map .received) =
      receivedMessages actions ++ batches.flatten := by
  rw [receivedMessages_append, receivedMessages_received]

theorem mem_of_mem_rejected {test : Json → Bool} {queue : List Bytes} {rawMessage : Bytes}
    (h : rawMessage ∈ rejected json test queue) : rawMessage ∈ queue :=
  (List.mem_filter.mp h).1

theorem mem_responses {queue : List Bytes} {rawMessage : Bytes} (hmem : rawMessage ∈ queue)
    (hresponse : isResponse (messageOf json rawMessage) = true) :
    messageOf json rawMessage ∈ responses json queue :=
  List.mem_filter.mpr ⟨List.mem_map_of_mem hmem, hresponse⟩

theorem responses_append (front rest : List Bytes) :
    responses json (front ++ rest) = responses json front ++ responses json rest := by
  simp [responses]

theorem responses_cons_of_not {rawMessage : Bytes} (queue : List Bytes)
    (h : isResponse (messageOf json rawMessage) = false) :
    responses json (rawMessage :: queue) = responses json queue := by
  simp [responses, h]

/-- The wait for the response to the only open request of the thread. -/
theorem Ledger.take {condition : MessageCondition} {request message : Json}
    (h : Ledger json [⟨true, request⟩] [] [] s)
    (hwait : exec (waitForMessage json condition) s = (.ok message, s'))
    (hconforms : Conforms json s'.actions)
    (hasked : ∀ response, isResponse response = true → Answers ⟨true, request⟩ response →
      holds condition response = true)
    (hothers : ∀ other ∈ unansweredRequests json s.actions, ∀ response,
      isResponse response = true → Answers ⟨false, other⟩ response →
        holds condition response = false)
    (hevents : ∀ rawMessage ∈ receivedMessages s'.actions,
      isEvent (messageOf json rawMessage) = true →
        holds condition (messageOf json rawMessage) = false) :
    Ledger json [] [message] [] s' ∧ ∃ more, s'.messageQueue = s.messageQueue ++ more := by
  have hresponse : ∀ rawMessage ∈ receivedMessages s'.actions,
      holds condition (messageOf json rawMessage) = true →
        isResponse (messageOf json rawMessage) = true := by
    intro rawMessage hmem hholds
    rcases hconforms.speaks rawMessage hmem with hevent | hresponse
    · rw [hevents rawMessage hmem hevent] at hholds
      cases hholds
    · exact hresponse
  rcases waitForMessage_eq_ok hwait h.stopped with
    ⟨before, rawMessage, after, hqueue, rfl, hholds, rfl⟩ | ⟨-, batches, pending, hlast, rfl⟩
  · have hmem : rawMessage ∈ s.messageQueue := by simp [hqueue]
    have hanswer := hresponse rawMessage (h.received rawMessage hmem) hholds
    obtain ⟨other, hother, hanswers⟩ :=
      h.exists_unanswered hconforms.order (mem_responses hmem hanswer)
    rw [hothers other hother _ hanswer hanswers] at hholds
    cases hholds
  · have htells : TellsInternal json s.actions (holds condition) := by
      intro other hother response hanswer hanswers
      cases hinternal : other.internal with
      | true =>
          obtain rfl := List.mem_singleton.mp (h.mem_asked hother hinternal)
          exact hasked response hanswer hanswers
      | false =>
          have hfrontend := h.mem_unanswered hother hinternal
          have hmatches : Answers ⟨false, other.message⟩ response := hanswers
          exact (hothers _ hfrontend response hanswer hmatches).trans hinternal.symm
    obtain ⟨hfrontend, hinternal, -, hcount⟩ := responses_read hconforms.order htells
    obtain ⟨rawMessage, hmem, rfl, hholds⟩ := lastMatch_eq_some hlast
    have hanswer := hresponse rawMessage
      (by rw [receivedMessages_read]; exact List.mem_append_right _ hmem) hholds
    have hfound : messageOf json rawMessage ∈ (batches.flatten.map (messageOf json)).filter
        fun response => isResponse response && holds condition response :=
      List.mem_filter.mpr ⟨List.mem_map_of_mem hmem, by simp [hanswer, hholds]⟩
    rw [h.asked, List.length_singleton] at hcount
    have hpositive := List.length_pos_of_mem hfound
    obtain ⟨response, hsingle⟩ := List.length_eq_one_iff.mp
      (Nat.le_antisymm (by omega) hpositive)
    rw [hsingle] at hfound hinternal hcount
    obtain rfl := List.mem_singleton.mp hfound
    refine ⟨⟨by simp [h.forwarded], ?_, ?_, ?_, ?_, rfl, by simpa using h.owed⟩, _, rfl⟩
    · rw [hfrontend, h.frontend, responses_append, repliedMessages_append,
        repliedMessages_received, List.append_nil]
      simp only [List.nil_append, List.append_assoc]
    · rw [hinternal, h.internal, answeredMessages_append, answeredMessages_received]
    · exact List.length_eq_zero_iff.mp (by simpa using hcount)
    · intro other hother
      rw [receivedMessages_read]
      rcases List.mem_append.mp hother with hother | hother
      · exact List.mem_append_left _ (h.received other hother)
      · exact List.mem_append_right _ (mem_of_mem_rejected hother)

/-- Without an open request of the thread every response is one to the frontend. -/
theorem Ledger.receive {batches : List (List Bytes)} (h : Ledger json [] taken held s)
    (horder : AnswersInOrder json (s.actions ++ batches.map .received))
    (pending : List StreamChunk) :
    Ledger json [] taken held { s with
      messageQueue := s.messageQueue ++ batches.flatten
      stream := pending
      actions := s.actions ++ batches.map .received } := by
  have htells : TellsInternal json s.actions fun _ => false := by
    intro request hrequest _ _ _
    cases hinternal : request.internal with
    | true => exact absurd (h.mem_asked hrequest hinternal) List.not_mem_nil
    | false => exact hinternal.symm
  obtain ⟨hfrontend, hinternal, -, hcount⟩ := responses_read horder htells
  rw [rejected_of_none (fun _ _ => rfl), h.frontend] at hfrontend
  refine ⟨by simp [h.forwarded], ?_, ?_, ?_, ?_, h.stopped, by simpa using h.owed⟩
  · rw [hfrontend, responses_append, repliedMessages_append, repliedMessages_received,
      List.append_nil]
    simp only [List.append_assoc]
  · rw [hinternal, h.internal, answeredMessages_append, answeredMessages_received]
    simp
  · rw [h.asked] at hcount
    exact List.length_eq_zero_iff.mp (Nat.add_eq_zero_iff.mp hcount).1
  · intro other hother
    rw [receivedMessages_read]
    rcases List.mem_append.mp hother with hother | hother
    · exact List.mem_append_left _ (h.received other hother)
    · exact List.mem_append_right _ hother

theorem responses_rejected_of_none {test : Json → Bool}
    (htest : ∀ response, isResponse response = true → test response = false)
    (queue : List Bytes) : responses json (rejected json test queue) = responses json queue := by
  rw [responses_rejected, responses]
  apply List.filter_congr
  intro message _
  cases hresponse : isResponse message with
  | true => simp [htest message hresponse]
  | false => rfl

theorem Ledger.of_same (h : Ledger json asked taken held s) (hactions : s'.actions = s.actions)
    (hqueue : s'.messageQueue = s.messageQueue) (hstopped : s'.stoppedQueue = [])
    (howed : s'.replyOwed = s.replyOwed) : Ledger json asked taken held s' where
  forwarded := hactions ▸ h.forwarded
  frontend := by rw [hactions, hqueue]; exact h.frontend
  internal := hactions ▸ h.internal
  asked := hactions ▸ h.asked
  received := by rw [hactions, hqueue]; exact h.received
  stopped := hstopped
  owed := by rw [hactions, howed]; exact h.owed

/-- Messages that leave the queue, with the responses among them in hand. -/
theorem Ledger.leave {left : List Bytes} {now : List Json} (h : Ledger json asked taken held s)
    (hleft : ∀ rawMessage ∈ left, rawMessage ∈ s.messageQueue)
    (hresponses : held ++ responses json s.messageQueue = now ++ responses json left) :
    Ledger json asked taken now { s with messageQueue := left } where
  forwarded := h.forwarded
  frontend := hresponses ▸ h.frontend
  internal := h.internal
  asked := h.asked
  received rawMessage hmem := h.received rawMessage (hleft rawMessage hmem)
  stopped := h.stopped
  owed := h.owed

theorem mem_append_of_mem_append_cons {before after : List Bytes} {rawMessage other : Bytes}
    (h : other ∈ before ++ after) : other ∈ before ++ rawMessage :: after := by
  rcases List.mem_append.mp h with h | h
  · exact List.mem_append_left _ h
  · exact List.mem_append_right _ (List.mem_cons_of_mem _ h)

theorem mem_append_of_mem_rejected {test : Json → Bool} {queue read : List Bytes}
    {other : Bytes} (h : other ∈ queue ++ rejected json test read) : other ∈ queue ++ read := by
  rcases List.mem_append.mp h with h | h
  · exact List.mem_append_left _ h
  · exact List.mem_append_right _ (mem_of_mem_rejected h)

/-- The wait for an event. -/
theorem Ledger.takeEvent {condition : MessageCondition} {message : Json}
    (h : Ledger json [] taken held s)
    (hwait : exec (waitForMessage json condition) s = (.ok message, s'))
    (hconforms : Conforms json s'.actions)
    (hevent : ∀ response, isResponse response = true → holds condition response = false) :
    Ledger json [] taken held s' := by
  rcases waitForMessage_eq_ok hwait h.stopped with
    ⟨before, rawMessage, after, hqueue, rfl, hholds, rfl⟩ | ⟨-, batches, pending, -, rfl⟩
  · have hnot : isResponse (messageOf json rawMessage) = false := by
      by_contra hresponse
      rw [hevent _ (Bool.not_eq_false _ ▸ hresponse)] at hholds
      cases hholds
    apply h.leave
    · exact fun other hother => hqueue ▸ mem_append_of_mem_append_cons hother
    · rw [hqueue, responses_append, responses_append, responses_cons_of_not _ hnot]
  · have hleft : ∀ other ∈ s.messageQueue ++ rejected json (holds condition) batches.flatten,
        other ∈ s.messageQueue ++ batches.flatten := fun _ => mem_append_of_mem_rejected
    have hleaves := (h.receive hconforms.order pending).leave hleft
      (by rw [responses_append, responses_append, responses_rejected_of_none hevent])
    exact hleaves.of_same rfl rfl rfl rfl

theorem Ledger.length_le_one (h : Ledger json asked taken held s) :
    (held ++ responses json s.messageQueue).length ≤ 1 := by
  have hle := h.length_le
  split at hle <;> omega

/-- The wait for the response to the only request that the frontend waits for. -/
theorem Ledger.hold {condition : MessageCondition} {message : Json}
    (h : Ledger json [] [] [] s)
    (hwait : exec (waitForMessage json condition) s = (.ok message, s'))
    (hconforms : Conforms json s'.actions)
    (hresponse : ∀ response, holds condition response = true → isResponse response = true) :
    Ledger json [] [] [message] s' := by
  rcases waitForMessage_eq_ok hwait h.stopped with
    ⟨before, rawMessage, after, hqueue, rfl, hholds, rfl⟩ | ⟨-, batches, pending, hlast, rfl⟩
  · have hsplit : responses json s.messageQueue =
        responses json before ++ messageOf json rawMessage :: responses json after := by
      rw [hqueue, responses_append]
      simp [responses, hresponse _ hholds]
    have hle := h.length_le_one
    rw [hsplit] at hle
    simp only [List.nil_append, List.length_append, List.length_cons] at hle
    have hbefore : responses json before = [] := List.length_eq_zero_iff.mp (by omega)
    have hafter : responses json after = [] := List.length_eq_zero_iff.mp (by omega)
    apply h.leave
    · exact fun other hother => hqueue ▸ mem_append_of_mem_append_cons hother
    · rw [hsplit, responses_append, hbefore, hafter]
      rfl
  · obtain ⟨rawMessage, hmem, rfl, hholds⟩ := lastMatch_eq_some hlast
    have hreceived := h.receive hconforms.order pending
    have hle := hreceived.length_le_one
    have hfound := mem_responses hmem (hresponse _ hholds)
    have hpositive := List.length_pos_of_mem hfound
    rw [List.nil_append, responses_append, List.length_append] at hle
    have hqueue : responses json s.messageQueue = [] := List.length_eq_zero_iff.mp (by omega)
    obtain ⟨response, hsingle⟩ := List.length_eq_one_iff.mp
      (Nat.le_antisymm (by omega) hpositive)
    rw [hsingle] at hfound
    obtain rfl := List.mem_singleton.mp hfound
    have hrejected : responses json (rejected json (holds condition) batches.flatten) = [] := by
      rw [responses_rejected]
      apply List.filter_eq_nil_iff.mpr
      intro response hmem' hkept
      rw [Bool.and_eq_true] at hkept
      have hsame : response ∈ responses json batches.flatten := List.mem_filter.mpr ⟨hmem', hkept.1⟩
      rw [hsingle] at hsame
      rw [List.mem_singleton.mp hsame, hholds] at hkept
      exact Bool.false_ne_true hkept.2
    have hleft : ∀ other ∈ s.messageQueue ++ rejected json (holds condition) batches.flatten,
        other ∈ s.messageQueue ++ batches.flatten := fun _ => mem_append_of_mem_rejected
    have hresponses : [] ++ responses json (s.messageQueue ++ batches.flatten) =
        [messageOf json rawMessage] ++
          responses json (s.messageQueue ++ rejected json (holds condition) batches.flatten) := by
      rw [responses_append, responses_append, hqueue, hsingle, hrejected]
      rfl
    exact (hreceived.leave hleft hresponses).of_same rfl rfl rfl rfl

/-! The actions that are neither read nor waited for. -/

def Idle : Action → Prop
  | .handled _ => True
  | .callback _ => True
  | .published _ => True
  | _ => False

theorem exchanges_concat (actions : List Action) (action : Action) :
    exchanges json (actions ++ [action]) = exchanges json actions ++ exchange json action := by
  simp [exchanges]

/-- Responses come with messages that are received only. -/
theorem responsesTo_concat {action : Action} (haction : receivedMessages [action] = [])
    (actions : List Action) (mine : Request → Bool) :
    (account isResponse (exchanges json (actions ++ [action]))).responsesTo mine =
      (account isResponse (exchanges json actions)).responsesTo mine := by
  rw [exchanges_concat]
  cases action with
  | received messages =>
      obtain rfl : messages = [] := (List.append_nil messages).symm.trans haction
      rw [exchange, List.map_nil, List.append_nil]
  | forwarded request frames => rw [exchange, account_sent]; rfl
  | issued request frames => rw [exchange, account_sent]; rfl
  | _ =>
      exact congrArg (fun log => (account isResponse log).responsesTo mine) (List.append_nil _)

theorem frontendResponses_concat {action : Action} (haction : receivedMessages [action] = [])
    (actions : List Action) :
    frontendResponses json (actions ++ [action]) = frontendResponses json actions :=
  responsesTo_concat haction actions _

theorem internalResponses_concat {action : Action} (haction : receivedMessages [action] = [])
    (actions : List Action) :
    internalResponses json (actions ++ [action]) = internalResponses json actions :=
  responsesTo_concat haction actions _

theorem outstanding_concat {action : Action} (haction : exchange json action = [])
    (actions : List Action) :
    outstanding json (actions ++ [action]) = outstanding json actions := by
  rw [outstanding, exchanges_concat, haction, List.append_nil, outstanding]

theorem outstanding_sent {action : Action} {request : Request}
    (haction : exchange json action = [.sent request]) (actions : List Action) :
    outstanding json (actions ++ [action]) = outstanding json actions ++ [request] := by
  rw [outstanding, exchanges_concat, haction, account_sent, outstanding]

theorem Ledger.idle {action : Action} (h : Ledger json asked taken held s) (haction : Idle action) :
    Ledger json asked taken held { s with actions := s.actions ++ [action] } := by
  obtain ⟨hexchange, hreceived, haccepted, hforwarded, hreplied, hanswered⟩ :
      exchange json action = [] ∧ receivedMessages [action] = [] ∧
        acceptedRequests json [action] = [] ∧ forwardedRequests json [action] = [] ∧
        repliedMessages [action] = [] ∧ answeredMessages [action] = [] := by
    cases action <;> first | exact ⟨rfl, rfl, rfl, rfl, rfl, rfl⟩ | exact haction.elim
  constructor
  · rw [forwardedRequests_append, acceptedRequests_append, hforwarded, haccepted, h.forwarded]
  · rw [frontendResponses_concat hreceived, repliedMessages_append, hreplied, List.append_nil]
    exact h.frontend
  · rw [internalResponses_concat hreceived, answeredMessages_append, hanswered, List.append_nil]
    exact h.internal
  · rw [outstanding_concat hexchange]
    exact h.asked
  · rw [receivedMessages_append, hreceived, List.append_nil]
    exact h.received
  · exact h.stopped
  · rw [acceptedRequests_append, repliedMessages_append, haccepted, hreplied, List.append_nil,
      List.append_nil]
    exact h.owed

/-- The thread makes a request. -/
theorem Ledger.issue (h : Ledger json [] [] held s) (request : Json) (frames : List Bytes) :
    Ledger json [⟨true, request⟩] [] held
      { s with actions := s.actions ++ [.issued request frames] } where
  forwarded := by
    rw [forwardedRequests_append, acceptedRequests_append, h.forwarded]
    rfl
  frontend := by
    rw [frontendResponses_concat rfl, h.frontend, repliedMessages_append]
    exact congrArg (· ++ _) (List.append_nil _).symm
  internal := by
    rw [internalResponses_concat rfl, h.internal, answeredMessages_append]
    exact congrArg (· ++ _) (List.append_nil _).symm
  asked := by
    rw [outstanding_sent rfl, List.filter_append, h.asked]
    rfl
  received rawMessage hmem := by
    rw [receivedMessages_append]
    exact List.mem_append_left _ (h.received rawMessage hmem)
  stopped := h.stopped
  owed := by
    rw [acceptedRequests_append, repliedMessages_append, List.length_append, List.length_append]
    exact h.owed

/-- The thread has its answer. -/
theorem Ledger.answer {response : Json} (h : Ledger json [] [response] held s) :
    Ledger json [] [] held { s with actions := s.actions ++ [.answered response] } where
  forwarded := by
    rw [forwardedRequests_append, acceptedRequests_append, h.forwarded]
    rfl
  frontend := by
    rw [frontendResponses_concat rfl, h.frontend, repliedMessages_append]
    exact congrArg (· ++ _) (List.append_nil _).symm
  internal := by
    rw [internalResponses_concat rfl, h.internal, answeredMessages_append]
    exact (List.append_nil _).symm
  asked := by
    rw [outstanding_concat rfl]
    exact h.asked
  received rawMessage hmem := by
    rw [receivedMessages_append]
    exact List.mem_append_left _ (h.received rawMessage hmem)
  stopped := h.stopped
  owed := by
    rw [acceptedRequests_append, repliedMessages_append, List.length_append, List.length_append]
    exact h.owed

/-- The frontend has its reply. -/
theorem Ledger.reply {message : Json} (h : Ledger json [] [] [message] s)
    (howed : s.replyOwed = true) (text : Bytes) :
    Ledger json [] [] [] { s with
      replyOwed := false
      actions := s.actions ++ [.replied message text] } where
  forwarded := by
    rw [forwardedRequests_append, acceptedRequests_append, h.forwarded]
    rfl
  frontend := by
    rw [frontendResponses_concat rfl, h.frontend, repliedMessages_append]
    exact (List.append_assoc _ _ _).symm
  internal := by
    rw [internalResponses_concat rfl, h.internal, answeredMessages_append]
    exact congrArg (· ++ _) (List.append_nil _).symm
  asked := by
    rw [outstanding_concat rfl]
    exact h.asked
  received rawMessage hmem := by
    rw [receivedMessages_append]
    exact List.mem_append_left _ (h.received rawMessage hmem)
  stopped := h.stopped
  owed := by
    have hreplies := h.owed
    rw [howed] at hreplies
    rw [acceptedRequests_append, repliedMessages_append, List.length_append, List.length_append]
    exact hreplies

/-- A request of the frontend is forwarded. -/
theorem Ledger.forward (h : Ledger json [] [] [] s) (howed : s.replyOwed = false)
    (request : Bytes) (frames : List Bytes) :
    Ledger json [] [] [] { s with
      replyOwed := true
      actions := s.actions ++ [.accepted request] ++ [.forwarded request frames] } where
  forwarded := by
    simp only [forwardedRequests_append, acceptedRequests_append, h.forwarded, List.append_assoc]
    rfl
  frontend := by
    rw [frontendResponses_concat rfl, frontendResponses_concat rfl, h.frontend]
    simp only [repliedMessages_append]
    exact congrArg (· ++ _) (by simp [repliedMessages])
  internal := by
    rw [internalResponses_concat rfl, internalResponses_concat rfl, h.internal]
    simp only [answeredMessages_append]
    exact congrArg (· ++ _) (by simp [answeredMessages])
  asked := by
    rw [outstanding_sent rfl, outstanding_concat rfl, List.filter_append, h.asked]
    rfl
  received rawMessage hmem := by
    simp only [receivedMessages_append]
    exact List.mem_append_left _ (List.mem_append_left _ (h.received rawMessage hmem))
  stopped := h.stopped
  owed := by
    have hreplies := h.owed
    rw [howed] at hreplies
    simp only [acceptedRequests_append, repliedMessages_append, List.length_append, hreplies]
    rfl

end Ledger

end XeusZmq.DapClientLedger
