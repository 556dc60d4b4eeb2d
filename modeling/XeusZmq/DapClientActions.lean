import XeusZmq.DapClientWaiting
import XeusZmq.Exchanges

/-!
What the actions of the thread say about messages and requests.
-/

namespace XeusZmq.DapClientActions

open XeusZmq.Values
open XeusZmq.JsonAccess
open XeusZmq.DapFraming
open XeusZmq.Commands
open XeusZmq.Exchanges
open XeusZmq.DapClient
open XeusZmq.DapClientWaiting

/-- The member is there, and it is the text. -/
def holdsText (message : Json) (key text : Bytes) : Bool :=
  match findMember message key with
  | some value => isText value text
  | none => false

def hasType (type : String) (message : Json) : Bool :=
  holdsText message (literal "type") (literal type)

def isEvent (message : Json) : Bool :=
  hasType "event" message

def isResponse (message : Json) : Bool :=
  hasType "response" message

theorem holdsText_iff {message : Json} {key text : Bytes} :
    holdsText message key text = true ↔ findMember message key = some (.string text) := by
  unfold holdsText
  cases findMember message key with
  | none => simp
  | some value => cases value <;> simp [isText]

theorem isResponse_of_isEvent {message : Json} (h : isEvent message = true) :
    isResponse message = false := by
  have htype := holdsText_iff.mp h
  simp only [isResponse, hasType, holdsText, htype]
  decide

/-- `operator[]` finds what `find` finds, or null. -/
theorem isText_of_readAt {key text : Bytes} {message value message' : Json}
    (h : readAt [.key key] message = .ok (value, message')) :
    isText value text = holdsText message key text := by
  cases message with
  | object members =>
      cases h
      simp only [holdsText, findMember]
      cases members.lookup key <;> rfl
  | null =>
      cases h
      rfl
  | _ => cases h

/-- The other members stay as they are. -/
theorem holdsText_of_readAt {key other text : Bytes} (hother : other ≠ key)
    {message value message' : Json} (h : readAt [.key key] message = .ok (value, message')) :
    holdsText message' other text = holdsText message other text := by
  cases message with
  | object members =>
      cases h
      simp only [holdsText, findMember, OrderedMap.lookup_insert_of_ne keyBefore hother]
  | null =>
      cases h
      simp only [holdsText, findMember, OrderedMap.lookup_insert_of_ne keyBefore hother,
        List.lookup_nil]
  | _ => cases h

theorem eq_of_holdsText {message : Json} {key text other : Bytes}
    (h : holdsText message key text = true) (h' : holdsText message key other = true) :
    text = other :=
  Json.string.inj (Option.some.inj ((holdsText_iff.mp h).symm.trans (holdsText_iff.mp h')))

theorem holds_iff {condition : MessageCondition} {message : Json} :
    holds condition message = true ↔ condition message = .ok true := by
  unfold holds
  split
  · next meets h => simp [h]
  · next failure h => simp [h]

theorem memberIs_iff {message : Json} {key text : String} :
    memberIs message key text = .ok true ↔
      holdsText message (literal key) (literal text) = true := by
  cases message with
  | object members =>
      simp only [memberIs, constIndex, holdsText, findMember]
      cases members.lookup (literal key) with
      | none => simp
      | some value =>
          rw [ok_bind]
          exact ⟨Except.ok.inj, congrArg Except.ok⟩
  | _ => simp [memberIs, constIndex, holdsText, findMember]

theorem holds_isInitialized_iff {message : Json} :
    holds isInitialized message = true ↔
      isEvent message = true ∧
        holdsText message (literal "event") (literal "initialized") = true := by
  rw [holds_iff, isEvent, hasType, ← memberIs_iff, ← memberIs_iff, isInitialized]
  cases memberIs message "type" "event" with
  | error failure => simp
  | ok meets => cases meets <;> simp [pure, Except.pure]

/-- `forward_event` does not take it for a stopped event. -/
theorem stopsAllThreads_of_isInitialized {message : Json}
    (h : holds isInitialized message = true) :
    ∃ event, stopsAllThreads message = .ok (false, event) := by
  obtain ⟨htype, hname⟩ := holds_isInitialized_iff.mp h
  cases message with
  | object members =>
      have htyped := readAt_key_object (literal "type") members
      have hkind := (isText_of_readAt htyped).trans htype
      have hnamed := readAt_key_object (literal "event")
        (OrderedMap.insert keyBefore (literal "type")
          ((members.lookup (literal "type")).getD .null) members)
      have hstopped := (isText_of_readAt hnamed).trans
        (@holdsText_of_readAt _ _ (literal "stopped") (by decide) _ _ _ htyped)
      have hnot : holdsText (.object members) (literal "event") (literal "stopped") = false := by
        rw [Bool.eq_false_iff]
        exact fun hother => absurd (eq_of_holdsText hname hother) (by decide)
      rw [hnot] at hstopped
      rw [stopsAllThreads, htyped, ok_bind]
      simp only [hkind, if_true]
      rw [hnamed, ok_bind]
      simp only [hstopped, Bool.false_eq_true, if_false]
      exact ⟨_, rfl⟩
  | null | boolean | integer | float | string | array => cases hname

theorem holds_isResponseTo_iff {command : String} {message : Json} :
    holds (isResponseTo command) message = true ↔
      isResponse message = true ∧
        holdsText message (literal "command") (literal command) = true := by
  rw [holds_iff, isResponse, hasType, ← memberIs_iff, ← memberIs_iff, isResponseTo]
  cases memberIs message "type" "response" with
  | error failure => simp
  | ok meets => cases meets <;> simp [pure, Except.pure]

def receivedMessages (actions : List Action) : List Bytes :=
  actions.flatMap fun action =>
    match action with
    | .received messages => messages
    | _ => []

def handledEvents (actions : List Action) : List Json :=
  actions.filterMap fun action =>
    match action with
    | .handled event => some event
    | _ => none

def repliedTexts (actions : List Action) : List Bytes :=
  actions.filterMap fun action =>
    match action with
    | .replied _ text => some text
    | _ => none

@[simp] theorem receivedMessages_append (front rest : List Action) :
    receivedMessages (front ++ rest) = receivedMessages front ++ receivedMessages rest := by
  simp [receivedMessages]

@[simp] theorem handledEvents_append (front rest : List Action) :
    handledEvents (front ++ rest) = handledEvents front ++ handledEvents rest := by
  simp [handledEvents]

@[simp] theorem repliedTexts_append (front rest : List Action) :
    repliedTexts (front ++ rest) = repliedTexts front ++ repliedTexts rest := by
  simp [repliedTexts]

theorem receivedMessages_received (batches : List (List Bytes)) :
    receivedMessages (batches.map .received) = batches.flatten := by
  induction batches with
  | nil => rfl
  | cons batch batches ih => simpa [receivedMessages] using ih

theorem exec_sendDapRequest {config : Config} {s s' : XDapTcpClient} (message : Json) :
    exec (DapClient.sendDapRequest config message) s = (.ok ⟨⟩, s') ↔
      ∃ frames, DapFraming.sendDapRequest config.json s.socketId message = .ok frames ∧
        s' = { s with actions := s.actions ++ [.issued message frames] } := by
  rw [DapClient.sendDapRequest, exec_bind_of_ok (exec_get s), exec_bind_eq_ok]
  constructor
  · rintro ⟨frames, s₁, hframes, hrecord⟩
    obtain ⟨hframes, rfl⟩ := exec_throwing_eq_ok.mp hframes
    rw [exec_record] at hrecord
    exact ⟨frames, hframes, (Prod.mk.inj hrecord).2.symm⟩
  · rintro ⟨frames, hframes, rfl⟩
    exact ⟨frames, s, exec_throwing_eq_ok.mpr ⟨hframes, rfl⟩, exec_record _ s⟩

/-- A request that the debugger is sent, by the frontend or by the thread itself. -/
structure Request where
  internal : Bool
  message : Json

/-- The request in a message of the frontend. -/
def requestOf (json : JsonLibrary) (message : Bytes) : Json :=
  match controlBody message with
  | .ok text => messageOf json text
  | .error _ => .null

def exchange (json : JsonLibrary) : Action → List (Exchange Request Json)
  | .received messages => messages.map fun rawMessage => .received (messageOf json rawMessage)
  | .forwarded request _ => [.sent ⟨false, requestOf json request⟩]
  | .issued request _ => [.sent ⟨true, request⟩]
  | _ => []

def exchanges (json : JsonLibrary) (actions : List Action) : List (Exchange Request Json) :=
  actions.flatMap (exchange json)

@[simp] theorem exchanges_append (json : JsonLibrary) (front rest : List Action) :
    exchanges json (front ++ rest) = exchanges json front ++ exchanges json rest := by
  simp [exchanges]

/-- The response names the command and the number of the request. -/
def Answers (request : Request) (response : Json) : Prop :=
  findMember response (literal "command") = findMember request.message (literal "command") ∧
    findMember response (literal "request_seq") = findMember request.message (literal "seq")

theorem namesThreads_of_answers {request response : Json} {internal : Bool}
    (h : Answers ⟨internal, request⟩ response) : namesThreads response = namesThreads request := by
  rw [namesThreads, namesThreads, h.1]

/-- The debugger answers each request at most once, in the order in which it got them. -/
def AnswersInOrder (json : JsonLibrary) (actions : List Action) : Prop :=
  InOrder isResponse Answers (exchanges json actions)

theorem AnswersInOrder.front {json : JsonLibrary} {actions more : List Action}
    (h : AnswersInOrder json (actions ++ more)) : AnswersInOrder json actions := by
  rw [AnswersInOrder, exchanges_append] at h
  exact h.front

/-- The requests that the debugger has not answered. -/
def outstanding (json : JsonLibrary) (actions : List Action) : List Request :=
  (account isResponse (exchanges json actions)).outstanding

def acceptedRequests (json : JsonLibrary) (actions : List Action) : List Json :=
  actions.filterMap fun action =>
    match action with
    | .accepted request => some (requestOf json request)
    | _ => none

def forwardedRequests (json : JsonLibrary) (actions : List Action) : List Json :=
  actions.filterMap fun action =>
    match action with
    | .forwarded request _ => some (requestOf json request)
    | _ => none

def repliedMessages (actions : List Action) : List Json :=
  actions.filterMap fun action =>
    match action with
    | .replied message _ => some message
    | _ => none

def answeredMessages (actions : List Action) : List Json :=
  actions.filterMap fun action =>
    match action with
    | .answered response => some response
    | _ => none

def frontendResponses (json : JsonLibrary) (actions : List Action) : List Json :=
  (account isResponse (exchanges json actions)).responsesTo fun request => !request.internal

def internalResponses (json : JsonLibrary) (actions : List Action) : List Json :=
  (account isResponse (exchanges json actions)).responsesTo fun request => request.internal

@[simp] theorem acceptedRequests_append (json : JsonLibrary) (front rest : List Action) :
    acceptedRequests json (front ++ rest) =
      acceptedRequests json front ++ acceptedRequests json rest :=
  List.filterMap_append

@[simp] theorem forwardedRequests_append (json : JsonLibrary) (front rest : List Action) :
    forwardedRequests json (front ++ rest) =
      forwardedRequests json front ++ forwardedRequests json rest :=
  List.filterMap_append

@[simp] theorem repliedMessages_append (front rest : List Action) :
    repliedMessages (front ++ rest) = repliedMessages front ++ repliedMessages rest :=
  List.filterMap_append

@[simp] theorem answeredMessages_append (front rest : List Action) :
    answeredMessages (front ++ rest) = answeredMessages front ++ answeredMessages rest :=
  List.filterMap_append

theorem requests_exchanges (json : JsonLibrary) (actions : List Action) :
    (requests (exchanges json actions)).filter (fun request => !request.internal) =
      (forwardedRequests json actions).map fun message => ⟨false, message⟩ := by
  induction actions with
  | nil => rfl
  | cons action actions ih =>
      rw [requests] at ih
      have hsplit : exchanges json (action :: actions) =
          exchange json action ++ exchanges json actions := List.flatMap_cons
      rw [hsplit, requests, List.filterMap_append, List.filter_append, ih]
      cases action <;> simp [exchange, forwardedRequests]

end XeusZmq.DapClientActions
