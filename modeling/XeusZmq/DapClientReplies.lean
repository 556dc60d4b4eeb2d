import XeusZmq.DapClientCorrelation
import XeusZmq.DapClientQueue

/-!
The replies that the frontend gets over whole runs of the thread, and the run in which it
gets the response to a request that it has not made.
-/

namespace XeusZmq.DapClientReplies

open XeusZmq.Values
open XeusZmq.JsonAccess
open XeusZmq.DapFraming
open XeusZmq.Commands
open XeusZmq.Runs
open XeusZmq.Traces
open XeusZmq.Exchanges
open XeusZmq.DapClient
open XeusZmq.DapClientWaiting
open XeusZmq.DapClientActions
open XeusZmq.DapClientRuns
open XeusZmq.DapClientLedger
open XeusZmq.DapClientCorrelation
open XeusZmq.TabledJson
open XeusZmq.DapClientQueue (stoppedAll threadsResponse)

/-- The replies are the debugger's responses to the requests that they answer, and what
the thread has waited for are the responses to its own requests. Once the debugger has
answered everything, a thread that is in its loop or has left it has replied to every
request. -/
structure Correlated (json : JsonLibrary) (thread : Thread) : Prop where
  answers : ∀ (i : Nat) (message : Json),
    (repliedMessages thread.client.actions)[i]? = some message →
      ∃ request, (acceptedRequests json thread.client.actions)[i]? = some request ∧
        Answers ⟨false, request⟩ message
  replied : repliedMessages thread.client.actions <+: frontendResponses json thread.client.actions
  answered : answeredMessages thread.client.actions <+: internalResponses json thread.client.actions
  complete : (∀ halt, thread.status ≠ .halted halt) → outstanding json thread.client.actions = [] →
    (repliedMessages thread.client.actions).length =
      (acceptedRequests json thread.client.actions).length

/-- What every step of the loop keeps. -/
structure Accounted (json : JsonLibrary) (system : System) : Prop where
  lockStep : LockStep system
  tallied : Conforms json system.thread.client.actions → Tallied json system.thread.client.actions
  ledger : (∀ halt, system.thread.status ≠ .halted halt) →
    Conforms json system.thread.client.actions →
      Ledger json [] [] [] system.thread.client ∧ system.thread.client.messageQueue = []

section Accounted

variable {config : Config}

theorem accounted_step {self : System} (h : Accounted config.json self) (input : Input) :
    Accounted config.json (self.step config input) := by
  have hlock := lockStep_step config h.lockStep input
  cases input with
  | request message =>
      have hthread : (self.step config (.request message)).thread = self.thread := by
        rw [System.step]
        split <;> rfl
      exact ⟨hlock, hthread ▸ h.tallied, hthread ▸ h.ledger⟩
  | interrupted num =>
      refine ⟨hlock, ?_, fun hstatus => ?_⟩
      · rw [System.step, client_of_interrupted]
        exact h.tallied
      · rw [System.step, client_of_interrupted]
        apply h.ledger
        intro halt hhalted
        apply hstatus halt
        simp only [System.step, Thread.step, hhalted]
  | pass header control stream =>
      rw [System.step] at hlock ⊢
      split
      · next hrunning =>
          have howed : (self.poll header control stream).control.isSome = true →
              self.thread.client.replyOwed = false := by
            intro hcontrol
            apply h.lockStep
            cases control with
            | true => exact hcontrol
            | false => cases hcontrol
          have hends : Ends (pass config (self.poll header control stream)) self.thread.client
              (fun _ s' => Conforms config.json s'.actions →
                Ledger config.json [] [] [] s' ∧ s'.messageQueue = [])
              fun _ s' => Conforms config.json s'.actions → Tallied config.json s'.actions :=
            leads_pass _ self.thread.client fun hconforms =>
              ⟨(h.ledger (by simp [hrunning]) hconforms).1, howed⟩
          simp only [Thread.step, hrunning] at hlock ⊢
          rcases hexec : exec (pass config (self.poll header control stream)) self.thread.client
            with ⟨result, client⟩
          rw [hexec] at hlock
          cases result with
          | ok _ =>
              have hledger := hends.of_ok hexec
              exact ⟨hlock, fun hconforms => (hledger hconforms).1.tallied, fun _ => hledger⟩
          | error halt =>
              exact ⟨hlock, hends.of_error hexec, fun hstatus => absurd rfl (hstatus halt)⟩
      · exact h

theorem ledger_of_nil {json : JsonLibrary} {s : XDapTcpClient} (hactions : s.actions = [])
    (hqueue : s.messageQueue = []) (hstopped : s.stoppedQueue = []) (howed : s.replyOwed = false) :
    Ledger json [] [] [] s where
  forwarded := by rw [hactions]; rfl
  frontend := by rw [hactions, hqueue]; rfl
  internal := by rw [hactions]; rfl
  asked := by rw [hactions]; rfl
  received := by simp [hqueue]
  stopped := hstopped
  owed := by rw [hactions, howed]; rfl

theorem accounted_start {stream : List StreamChunk} {thread : Thread}
    (hstart : startDebugger config stream = some thread) :
    Accounted config.json (.init thread) := by
  obtain ⟨⟨socketId, chunks⟩, -, hthread⟩ := Option.bind_eq_some_iff.mp hstart
  obtain rfl := Option.some.inj hthread
  constructor
  · simp [LockStep, System.init]
  · exact fun _ => (ledger_of_nil rfl rfl rfl rfl).tallied
  · exact fun _ _ => ⟨ledger_of_nil rfl rfl rfl rfl, rfl⟩

theorem accounted_run {stream : List StreamChunk} {thread : Thread}
    (hstart : startDebugger config stream = some thread) (inputs : List Input) :
    Accounted config.json (run (System.step config) (.init thread) inputs) :=
  run_induction (P := fun _ system => Accounted config.json system) _ (accounted_start hstart)
    (fun _ _ h => accounted_step h _) inputs

theorem getElem?_of_prefix {α : Type} {front whole : List α} (h : front <+: whole) {i : Nat}
    {a : α} (ha : front[i]? = some a) : whole[i]? = some a := by
  obtain ⟨hi, rfl⟩ := List.getElem?_eq_some_iff.mp ha
  exact List.prefix_iff_getElem?.mp h i hi

/-- When no request is outstanding, there are as many responses as requests. -/
theorem length_responsesTo_of_settled {ρ μ : Type} {isResponse : μ → Bool}
    {log : List (Exchange ρ μ)} (h : (account isResponse log).outstanding = []) (mine : ρ → Bool) :
    ((account isResponse log).responsesTo mine).length = ((requests log).filter mine).length := by
  rw [← requestsBy_account isResponse, Account.requestsBy, Account.responsesTo, h]
  simp

theorem correlated_of_asksAlone {stream : List StreamChunk} {thread : Thread}
    (hstart : startDebugger config stream = some thread) (inputs : List Input)
    (horder : AnswersInOrder config.json
      (run (System.step config) (.init thread) inputs).thread.client.actions)
    (hspeaks : ∀ rawMessage ∈ receivedMessages
        (run (System.step config) (.init thread) inputs).thread.client.actions,
      isEvent (messageOf config.json rawMessage) = true ∨
        isResponse (messageOf config.json rawMessage) = true)
    (hplain : ∀ rawMessage ∈ receivedMessages
        (run (System.step config) (.init thread) inputs).thread.client.actions,
      isEvent (messageOf config.json rawMessage) = true →
        namesThreads (messageOf config.json rawMessage) = false)
    (halone : Always (AsksAlone config.json)
      (run (System.step config) (.init thread) inputs).thread.client.actions) :
    Correlated config.json (run (System.step config) (.init thread) inputs).thread := by
  have haccounted := accounted_run hstart inputs
  have hconforms : Conforms config.json
      (run (System.step config) (.init thread) inputs).thread.client.actions :=
    ⟨horder, hspeaks, hplain, halone⟩
  generalize run (System.step config) (.init thread) inputs = self at haccounted hconforms horder ⊢
  have htallied := haccounted.tallied hconforms
  constructor
  · intro i message hmessage
    have hresponse :
        (frontendResponses config.json self.thread.client.actions)[i]? = some message :=
      getElem?_of_prefix htallied.replied hmessage
    obtain ⟨request, hrequest, hanswers⟩ := answers_of_getElem? horder hresponse
    rw [requests_exchanges, List.getElem?_map, Option.map_eq_some_iff] at hrequest
    obtain ⟨accepted, haccepted, rfl⟩ := hrequest
    exact ⟨accepted, getElem?_of_prefix htallied.forwarded haccepted, hanswers⟩
  · exact htallied.replied
  · exact htallied.answered
  · intro hstatus hsettled
    obtain ⟨hledger, hqueue⟩ := haccounted.ledger hstatus hconforms
    have hresponses := hledger.frontend
    rw [hqueue] at hresponses
    have hlength := length_responsesTo_of_settled hsettled fun request => !request.internal
    rw [requests_frontend hledger, List.length_map] at hlength
    rw [← hlength]
    exact congrArg List.length ((List.append_nil _).symm.trans hresponses.symm)

end Accounted

/-- Whatever the frontend sends and however the messages of the debugger are cut and come,
its replies and the answers of the thread are those that they should be. -/
def AlwaysCorrelated (config : Config) (stream : List StreamChunk) : Prop :=
  ∀ thread inputs, startDebugger config stream = some thread →
    AnswersInOrder config.json
      (run (System.step config) (.init thread) inputs).thread.client.actions →
    (∀ rawMessage ∈ receivedMessages
        (run (System.step config) (.init thread) inputs).thread.client.actions,
      isEvent (messageOf config.json rawMessage) = true ∨
        isResponse (messageOf config.json rawMessage) = true) →
    Correlated config.json (run (System.step config) (.init thread) inputs).thread

def threadsRequest : Json :=
  .object [(literal "command", .string (literal "threads")), (literal "seq", .integer 3),
    (literal "type", .string (literal "request"))]

/-- The response to the request of the frontend. -/
def frontendThreads : Json :=
  .object [(literal "body", .object [(literal "threads",
      .array [.object [(literal "id", .integer 1), (literal "name", .string (literal "main"))]])]),
    (literal "command", .string (literal "threads")), (literal "request_seq", .integer 3),
    (literal "seq", .integer 9), (literal "success", .boolean true),
    (literal "type", .string (literal "response"))]

def threadsConfig : Config :=
  tabledConfig [threadsRequest, stoppedAll, frontendThreads, threadsResponse]

def asksForThreads : Input :=
  .request (dapFrame (textOf threadsRequest))

def sentBy (message : Json) : StreamChunk where
  identity := [0, 1, 2, 3, 4]
  content := dapFrame (textOf message)

/-- The stop comes when the frontend has its threads. -/
def stopsLater : List StreamChunk :=
  [sentBy frontendThreads, sentBy stoppedAll, sentBy threadsResponse]

/-- The stop comes while the frontend waits for the threads. -/
def stopsMeanwhile : List StreamChunk :=
  [sentBy stoppedAll, sentBy frontendThreads, sentBy threadsResponse]

def threadsInputs : List Input :=
  [asksForThreads, .pass none true false, .pass none false true, .pass none false true]

set_option maxRecDepth 20000 in
theorem correlated_stopsLater : ∃ thread, startDebugger threadsConfig stopsLater = some thread ∧
    Correlated threadsConfig.json
      (run (System.step threadsConfig) (.init thread) threadsInputs).thread := by
  have hmem : ∀ rawMessage ∈ [textOf frontendThreads, textOf stoppedAll, textOf threadsResponse],
      rawMessage = textOf frontendThreads ∨ rawMessage = textOf stoppedAll ∨
        rawMessage = textOf threadsResponse := by
    simp
  have hstart : startDebugger threadsConfig stopsLater = some _ := rfl
  refine ⟨_, hstart, correlated_of_asksAlone hstart threadsInputs ?_ ?_ ?_ ?_⟩
  · refine guarded_cons.mpr ⟨trivial, guarded_cons.mpr ⟨fun _ => ⟨_, _, rfl, rfl, rfl⟩, ?_⟩⟩
    refine guarded_cons.mpr ⟨fun h => absurd h (by decide), guarded_cons.mpr ⟨trivial, ?_⟩⟩
    exact guarded_cons.mpr ⟨fun _ => ⟨_, _, rfl, rfl, rfl⟩, guarded_nil⟩
  · intro rawMessage hreceived
    rcases hmem rawMessage hreceived with rfl | rfl | rfl
    · exact .inr rfl
    · exact .inl rfl
    · exact .inr rfl
  · intro rawMessage hreceived
    rcases hmem rawMessage hreceived with rfl | rfl | rfl
    · exact fun hevent => absurd hevent (by decide)
    · exact fun _ => rfl
    · exact fun hevent => absurd hevent (by decide)
  · refine always_cons.mpr ⟨trivial, always_cons.mpr ⟨trivial, always_cons.mpr ⟨trivial, ?_⟩⟩⟩
    refine always_cons.mpr ⟨trivial, always_cons.mpr ⟨trivial, always_cons.mpr ⟨trivial, ?_⟩⟩⟩
    refine always_cons.mpr ⟨fun _ _ hother => absurd hother List.not_mem_nil, ?_⟩
    refine always_cons.mpr ⟨trivial, always_cons.mpr ⟨trivial, always_cons.mpr ⟨trivial, ?_⟩⟩⟩
    exact always_cons.mpr ⟨trivial, always_nil⟩

set_option maxRecDepth 20000 in
theorem exchanges_stopsMeanwhile :
    ∃ thread, startDebugger threadsConfig stopsMeanwhile = some thread ∧ ∃ actions,
      (run (System.step threadsConfig) (.init thread) threadsInputs).thread.client.actions =
        actions ∧
      exchanges threadsConfig.json actions =
        [.sent ⟨false, threadsRequest⟩, .received stoppedAll, .sent ⟨true, dapRequest "threads" 8⟩,
          .received frontendThreads, .received threadsResponse] ∧
      receivedMessages actions =
        [textOf stoppedAll, textOf frontendThreads, textOf threadsResponse] ∧
      repliedMessages actions = [threadsResponse] :=
  ⟨_, rfl, _, rfl, rfl, rfl, rfl⟩

/-- The thread takes the response to the frontend for that to its own request, and sends
this one on `m_controller`. -/
theorem not_alwaysCorrelated : ¬ AlwaysCorrelated threadsConfig stopsMeanwhile := by
  intro h
  obtain ⟨thread, hstart, actions, hactions, hexchanges, hreceived, hreplied⟩ :=
    exchanges_stopsMeanwhile
  have hcorrelated := h thread threadsInputs hstart
  rw [hactions] at hcorrelated
  have horder : AnswersInOrder threadsConfig.json actions := by
    rw [AnswersInOrder, hexchanges]
    refine guarded_cons.mpr ⟨trivial, guarded_cons.mpr ⟨fun h => absurd h (by decide), ?_⟩⟩
    refine guarded_cons.mpr ⟨trivial, guarded_cons.mpr ⟨fun _ => ⟨_, _, rfl, rfl, rfl⟩, ?_⟩⟩
    exact guarded_cons.mpr ⟨fun _ => ⟨_, _, rfl, rfl, rfl⟩, guarded_nil⟩
  have hspeaks : ∀ rawMessage ∈ receivedMessages actions,
      isEvent (messageOf threadsConfig.json rawMessage) = true ∨
        isResponse (messageOf threadsConfig.json rawMessage) = true := by
    rw [hreceived]
    intro rawMessage hmem
    simp only [List.mem_cons, List.not_mem_nil, or_false] at hmem
    rcases hmem with rfl | rfl | rfl
    · exact .inl rfl
    · exact .inr rfl
    · exact .inr rfl
  have hwrong := (hcorrelated horder hspeaks).replied
  rw [hactions, hreplied, frontendResponses, hexchanges] at hwrong
  have hsame : threadsResponse = frontendThreads := (List.cons_prefix_cons.mp hwrong).1
  have hnumbers : findMember threadsResponse (literal "request_seq") =
      findMember frontendThreads (literal "request_seq") := by rw [hsame]
  cases hnumbers

end XeusZmq.DapClientReplies
