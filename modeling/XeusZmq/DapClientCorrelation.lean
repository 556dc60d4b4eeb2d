import XeusZmq.DapClientLedger
import XeusZmq.TabledJson

/-!
Every reply on `m_controller` is the response of the debugger to the request that it
answers, and every response that the thread waits for is one to a request of its own, as
long as no threads request of the thread meets one of the frontend.
-/

namespace XeusZmq.DapClientCorrelation

open XeusZmq.Values
open XeusZmq.JsonAccess
open XeusZmq.DapFraming
open XeusZmq.Commands
open XeusZmq.Runs
open XeusZmq.Traces
open XeusZmq.Exchanges
open XeusZmq.DapClient
open XeusZmq.DapClientWaiting
open XeusZmq.DapClientActions
open XeusZmq.DapClientRuns
open XeusZmq.DapClientLedger
open XeusZmq.TabledJson
open XeusZmq.HeartbeatClient (efsm)

/-- While the debugger conforms, the command takes a state that meets `I` to one that
meets `J`, or is cut short with nothing in the wrong place. -/
def Leads {α : Type} (json : JsonLibrary) (I : XDapTcpClient → Prop)
    (J : α → XDapTcpClient → Prop) (c : Client α) : Prop :=
  ∀ s, (Conforms json s.actions → I s) →
    Ends c s (fun a s' => Conforms json s'.actions → J a s')
      fun _ s' => Conforms json s'.actions → Tallied json s'.actions

section Leads

variable {json : JsonLibrary} {I : XDapTcpClient → Prop} {α β : Type}
  {J : α → XDapTcpClient → Prop} {K : β → XDapTcpClient → Prop}

theorem leads_bind {c : Client α} {f : α → Client β} (hc : Leads json I J c)
    (hf : ∀ a, Leads json (J a) K (f a)) : Leads json I K (c >>= f) :=
  fun s hs => ends_bind.mpr ((hc s hs).mono (fun a s' => hf a s') fun _ _ => id)

theorem Leads.of_imp {I' : XDapTcpClient → Prop} {c : Client α} (h : Leads json I J c)
    (hI : ∀ s, Conforms json s.actions → I' s → I s) : Leads json I' J c :=
  fun s hs => h s fun hconforms => hI s hconforms (hs hconforms)

theorem Leads.mono {c : Client α} {J' : α → XDapTcpClient → Prop} (h : Leads json I J c)
    (hJ : ∀ a s, J a s → J' a s) : Leads json I J' c :=
  fun s hs => (h s hs).mono (fun a s' hJs hconforms => hJ a s' (hJs hconforms)) fun _ _ => id

theorem leads_pure {a : α} (hJ : ∀ s, I s → J a s) : Leads json I J (pure a : Client α) :=
  fun s hs => ends_pure.mpr fun hconforms => hJ s (hs hconforms)

theorem leads_get {J : XDapTcpClient → XDapTcpClient → Prop} (hJ : ∀ s, I s → J s s) :
    Leads json I J (get : Client XDapTcpClient) :=
  fun s hs => ends_get.mpr fun hconforms => hJ s (hs hconforms)

theorem leads_throw (hI : ∀ s, I s → Tallied json s.actions) (halt : Halt) :
    Leads json I J (throw halt : Client α) :=
  fun s hs => ends_throw.mpr fun hconforms => hI s (hs hconforms)

theorem leads_modify {f : XDapTcpClient → XDapTcpClient} {J : PUnit → XDapTcpClient → Prop}
    (hf : ∀ s, s.actions <+: (f s).actions)
    (hJ : ∀ s, I s → Conforms json (f s).actions → J ⟨⟩ (f s)) :
    Leads json I J (modify f : Client PUnit) := by
  intro s hs
  refine ends_modify.mpr fun hconforms => hJ s (hs ?_) hconforms
  obtain ⟨more, hmore⟩ := hf s
  rw [← hmore] at hconforms
  exact hconforms.front

theorem leads_throwing (hI : ∀ s, I s → Tallied json s.actions) (x : Result α) :
    Leads json I (fun _ => I) (throwing x) := by
  cases x with
  | ok a => exact leads_pure fun _ => id
  | error f => exact leads_throw hI _

theorem leads_throwing_bind (hI : ∀ s, I s → Tallied json s.actions) {x : Result α}
    {f : α → Client β} (hf : ∀ a, x = .ok a → Leads json I K (f a)) :
    Leads json I K (throwing x >>= f) := by
  intro s hs
  cases x with
  | ok a =>
      rw [Ends, exec_bind_of_ok (exec_throwing_ok a s)]
      exact hf a rfl s hs
  | error failure =>
      rw [Ends, exec_bind_of_error (exec_throwing_error failure s)]
      exact fun hconforms => hI s (hs hconforms)

/-- A command that passes no response on. -/
theorem leads_of_quiet {c : Client α} (hkeeps : Keeps (Continues Quiet) c)
    (hI : ∀ s, I s → Tallied json s.actions)
    (hJ : ∀ s a s', I s → exec c s = (.ok a, s') → Conforms json s'.actions → J a s') :
    Leads json I J c := by
  intro s hs
  have hcontinues := hkeeps s
  have hfront : Conforms json (exec c s).2.actions → Conforms json s.actions := by
    obtain ⟨new, hactions, -⟩ := hcontinues
    intro hconforms
    rw [hactions] at hconforms
    exact hconforms.front
  apply ends_of_exec
  · intro a s' hexec hconforms
    rw [hexec] at hfront
    exact hJ s a s' (hs (hfront hconforms)) hexec hconforms
  · intro halt s' hexec hconforms
    rw [hexec] at hfront hcontinues
    exact (hI s (hs (hfront hconforms))).of_continues hcontinues

/-- A fact that does not depend on the state. -/
theorem leads_of_fact {c : Client α} {p : Prop} (hkeeps : Keeps (Continues fun _ => True) c)
    (h : p → Leads json I J c) : Leads json (fun s => I s ∧ p) J c := by
  intro s hs
  by_cases hp : p
  · exact h hp s fun hconforms => (hs hconforms).1
  · have hcontinues := hkeeps s
    have hnot : ¬ Conforms json (exec c s).2.actions := by
      obtain ⟨new, hactions, -⟩ := hcontinues
      rw [hactions]
      exact fun hconforms => hp (hs hconforms.front).2
    apply ends_of_exec
    · intro a s' hexec hconforms
      rw [hexec] at hnot
      exact absurd hconforms hnot
    · intro halt s' hexec hconforms
      rw [hexec] at hnot
      exact absurd hconforms hnot

end Leads

/-! The events. -/

/-- The queue has grown while its front is being handled. -/
def Handling (json : JsonLibrary) (queue : List Bytes) (asked : List Request)
    (taken held : List Json) (s : XDapTcpClient) : Prop :=
  Ledger json asked taken held s ∧ ∃ more, s.messageQueue = queue ++ more

section Events

variable {json : JsonLibrary} {config : Config} {queue : List Bytes} {asked : List Request}
  {taken held : List Json}

theorem Handling.tallied {s : XDapTcpClient} (h : Handling json queue asked taken held s) :
    Tallied json s.actions :=
  h.1.tallied

theorem leads_idle {action : Action} (haction : Idle action) :
    Leads json (Handling json queue asked taken held)
      (fun _ => Handling json queue asked taken held) (record action) :=
  leads_modify (fun _ => List.prefix_append _ _) fun _ hs _ => ⟨hs.1.idle haction, hs.2⟩

theorem leads_eventCallback (message : Json) :
    Leads config.json (Handling config.json queue asked taken held)
      (fun _ => Handling config.json queue asked taken held) (eventCallback config message) :=
  leads_bind (leads_idle trivial) fun _ =>
    leads_throwing (fun _ => Handling.tallied) _

theorem leads_publish (message : Json) :
    Leads config.json (Handling config.json queue asked taken held)
      (fun _ => Handling config.json queue asked taken held) (publish config message) :=
  leads_bind (leads_get fun _ => id) fun _ =>
    leads_throwing_bind (fun _ => Handling.tallied) fun _ _ => leads_idle trivial

/-- A threads request of the thread does not meet one of the frontend. -/
def Alone (json : JsonLibrary) (request : Json) (s : XDapTcpClient) : Prop :=
  namesThreads request = true →
    ∀ other ∈ unansweredRequests json s.actions, namesThreads other = false

theorem leads_sendDapRequest (request : Json) :
    Leads config.json (Handling config.json queue [] [] held)
      (fun _ s => Handling config.json queue [⟨true, request⟩] [] held s ∧
        Alone config.json request s)
      (DapClient.sendDapRequest config request) := by
  refine leads_bind (leads_get fun _ => id) fun _ => ?_
  refine leads_throwing_bind (fun _ => Handling.tallied) fun frames _ => ?_
  refine leads_modify (fun _ => List.prefix_append _ _) fun s hs hconforms => ?_
  refine ⟨⟨hs.1.issue request frames, hs.2⟩, ?_⟩
  have halone := (always_concat.mp hconforms.alone).2
  have hsilent : ∀ action ∈ [Action.issued request frames], Silent action := by
    intro action haction
    rw [List.mem_singleton.mp haction]
    exact fun _ => rfl
  intro hthreads other hother
  rw [unansweredRequests_silent config.json s.actions hsilent] at hother
  exact halone hthreads other hother

theorem leads_awaitThreads {request : Json} (hrequest : namesThreads request = true) :
    Leads json (fun s => Handling json queue [⟨true, request⟩] [] [] s ∧ Alone json request s)
      (fun message s => Handling json queue [] [message] [] s) (waitForMessage json isThreads) := by
  refine leads_of_quiet (continues_waitForMessage fun _ => trivial) (fun _ hs => hs.1.tallied) ?_
  rintro s message s' ⟨⟨hledger, more, hqueue⟩, halone⟩ hwait hconforms
  obtain ⟨htaken, more', hqueue'⟩ := hledger.take hwait hconforms
    (fun response _ hanswers => (namesThreads_of_answers hanswers).trans hrequest)
    (fun other hother response _ hanswers =>
      (namesThreads_of_answers hanswers).trans (halone hrequest other hother))
    hconforms.plain
  exact ⟨htaken, more ++ more', by rw [hqueue', hqueue, List.append_assoc]⟩

theorem leads_answered (response : Json) :
    Leads json (Handling json queue [] [response] held) (fun _ => Handling json queue [] [] held)
      (record (.answered response)) :=
  leads_modify (fun _ => List.prefix_append _ _) fun _ hs _ => ⟨hs.1.answer, hs.2⟩

theorem leads_announceStop (message : Json) :
    Leads config.json (Handling config.json queue [] [] [])
      (fun _ => Handling config.json queue [] [] []) (announceStop config message) :=
  leads_throwing_bind (fun _ => Handling.tallied) fun _ _ =>
    leads_bind (leads_sendDapRequest _) fun _ =>
      leads_bind (leads_awaitThreads rfl) fun response =>
        leads_bind (leads_answered response) fun _ =>
          leads_throwing_bind (fun _ => Handling.tallied) fun _ _ => leads_eventCallback _

/-- While a response to the frontend is in hand no threads request is made. -/
theorem leads_forwardEvent {message : Json}
    (hheld : held = [] ∨ ∀ event, stopsAllThreads message ≠ .ok (true, event)) :
    Leads config.json (Handling config.json queue [] [] held)
      (fun _ => Handling config.json queue [] [] held) (forwardEvent config message) := by
  refine leads_throwing_bind (fun _ => Handling.tallied) fun tested htested => ?_
  rcases tested with ⟨stopped, event⟩
  cases stopped with
  | false => exact leads_bind (leads_eventCallback _) fun _ => leads_publish _
  | true =>
      rcases hheld with rfl | hnot
      · exact leads_bind (leads_announceStop _) fun _ => leads_publish _
      · exact absurd (liftJson_eq_ok.mp htested) (hnot event)

end Events

/-! The queue. -/

section Queue

variable {json : JsonLibrary} {config : Config} {rawMessage : Bytes} {rest : List Bytes}

theorem leads_popFront (hnot : isResponse (messageOf json rawMessage) = false) :
    Leads json (Handling json (rawMessage :: rest) [] [] []) (fun _ => Ledger json [] [] [])
      popFront := by
  intro s hs
  rw [popFront, Ends, exec_bind_of_ok (exec_get s)]
  cases hqueue : s.messageQueue with
  | nil => exact fun hconforms => (hs hconforms).tallied
  | cons front queue =>
      intro hconforms
      obtain ⟨hledger, more, hmore⟩ := hs hconforms
      rw [hqueue] at hmore
      obtain ⟨rfl, rfl⟩ := List.cons.inj hmore
      apply hledger.leave
      · exact fun other hother => hqueue ▸ List.mem_cons_of_mem _ hother
      · rw [hqueue, responses_cons_of_not _ hnot]

/-- The front is the response that the frontend waits for. -/
theorem leads_replyFront :
    Leads json
      (fun s => (Ledger json [] [] [] s ∧ s.messageQueue = rawMessage :: rest) ∧
        isResponse (messageOf json rawMessage) = true)
      (fun _ => Ledger json [] [] [])
      (do sendReply (messageOf json rawMessage) rawMessage; popFront) := by
  intro s hs
  cases howed : s.replyOwed with
  | false =>
      have hrefused : exec (sendReply (messageOf json rawMessage) rawMessage) s =
          (.error (.failed (.exception (.zmqError efsm))), s) := by
        simp [sendReply, exec_bind, howed]
      rw [Ends, exec_bind_of_error hrefused]
      exact fun hconforms => (hs hconforms).1.1.tallied
  | true =>
      obtain ⟨s₁, hs₁⟩ : ∃ s₁, s₁ = { s with
          replyOwed := false
          actions := s.actions ++ [Action.replied (messageOf json rawMessage) rawMessage] } :=
        ⟨_, rfl⟩
      have hsent : exec (sendReply (messageOf json rawMessage) rawMessage) s = (.ok ⟨⟩, s₁) := by
        simp [sendReply, exec_bind, howed, hs₁]
      have hreplied : Conforms json s₁.actions →
          s.messageQueue = rawMessage :: rest ∧
            Ledger json [] [] [] { s₁ with messageQueue := rest } := by
        intro hconforms
        rw [hs₁] at hconforms
        obtain ⟨⟨hledger, hqueue⟩, hresponse⟩ := hs hconforms.front
        have hheld : Ledger json [] [] [messageOf json rawMessage]
            { s with messageQueue := rest } := by
          apply hledger.leave
          · exact fun other hother => hqueue ▸ List.mem_cons_of_mem _ hother
          · simp [responses, hqueue, hresponse]
        exact ⟨hqueue, hs₁ ▸ hheld.reply howed rawMessage⟩
      rw [Ends, exec_bind_of_ok hsent, popFront, exec_bind_of_ok (exec_get s₁)]
      cases hqueue : s₁.messageQueue with
      | nil =>
          intro hconforms
          have hsame := (hreplied hconforms).1
          rw [hs₁] at hqueue
          cases hqueue.symm.trans hsame
      | cons front queue =>
          intro hconforms
          obtain ⟨hsame, hledger⟩ := hreplied hconforms
          rw [hs₁] at hqueue
          obtain ⟨rfl, rfl⟩ := List.cons.inj (hqueue.symm.trans hsame)
          exact hledger

theorem leads_processMessage :
    Leads config.json (fun s => Ledger config.json [] [] [] s ∧ s.messageQueue = rawMessage :: rest)
      (fun _ => Ledger config.json [] [] []) (processMessage config rawMessage) := by
  refine leads_throwing_bind (fun _ hs => hs.1.tallied) fun message hparse => ?_
  refine leads_throwing_bind (fun _ hs => hs.1.tallied) fun read hread => ?_
  rcases read with ⟨type, event⟩
  have hmessage : messageOf config.json rawMessage = message := by
    rw [messageOf, liftJson_eq_ok.mp hparse]
  have htype : isText type (literal "event") = isEvent message :=
    isText_of_readAt (liftJson_eq_ok.mp hread)
  subst hmessage
  dsimp only
  split
  · next hevent =>
      have hnot : isResponse (messageOf config.json rawMessage) = false :=
        isResponse_of_isEvent (htype ▸ hevent)
      have hhandled : Leads config.json (Handling config.json (rawMessage :: rest) [] [] [])
          (fun _ => Ledger config.json [] [] [])
          (do
            record (.handled (messageOf config.json rawMessage))
            forwardEvent config event
            popFront) :=
        leads_bind (leads_idle trivial) fun _ =>
          leads_bind (leads_forwardEvent (.inl rfl)) fun _ => leads_popFront hnot
      exact hhandled.of_imp fun s _ hs => ⟨hs.1, [], by simp [hs.2]⟩
  · next hevent =>
      -- What is not an event is the response to a request of the frontend.
      have hreplied : Leads config.json
          (fun s => Ledger config.json [] [] [] s ∧ s.messageQueue = rawMessage :: rest)
          (fun _ => Ledger config.json [] [] [])
          (do sendReply (messageOf config.json rawMessage) rawMessage; popFront) := by
        refine leads_replyFront.of_imp fun s hconforms hs => ⟨hs, ?_⟩
        have hreceived := hs.1.received rawMessage (by simp [hs.2])
        exact (hconforms.speaks rawMessage hreceived).resolve_left (htype ▸ hevent)
      refine leads_throwing_bind (fun _ hs => hs.1.tallied) fun read _ => ?_
      rcases read with ⟨command, _⟩
      dsimp only
      split
      · exact leads_bind (leads_modify (fun _ => List.prefix_rfl) fun s hs _ =>
          ⟨hs.1.of_same rfl rfl hs.1.stopped rfl, hs.2⟩) fun _ => hreplied
      · exact hreplied

theorem leads_processMessages (fuel : Nat) :
    Leads config.json (Ledger config.json [] [] [])
      (fun _ s => Ledger config.json [] [] [] s ∧ s.messageQueue = [])
      (processMessages config fuel) := by
  induction fuel with
  | zero => exact leads_throw (fun _ hs => hs.tallied) _
  | succ fuel ih =>
      intro s hs
      rw [processMessages, Ends, exec_bind_of_ok (exec_get s)]
      cases hqueue : s.messageQueue with
      | nil => exact fun hconforms => ⟨hs hconforms, hqueue⟩
      | cons rawMessage queue =>
          exact leads_bind leads_processMessage (fun _ => ih) s
            fun hconforms => ⟨hs hconforms, hqueue⟩

end Queue

/-! The start-up sequence. -/

/-- The frontend waits for the answer to the request, and for no other. -/
def Serving (json : JsonLibrary) (request : Json) (s : XDapTcpClient) : Prop :=
  s.replyOwed = true ∧ unansweredRequests json s.actions = [request]

theorem Serving.of_silent {json : JsonLibrary} {request : Json} {s s' : XDapTcpClient}
    (h : Serving json request s) (hcontinues : Continues Silent s s') :
    Serving json request s' := by
  refine ⟨(replyOwed_of_silent hcontinues).trans h.1, ?_⟩
  obtain ⟨new, hactions, hnew, -⟩ := hcontinues
  rw [hactions, unansweredRequests_silent json s.actions hnew, h.2]

section Start

variable {json : JsonLibrary} {config : Config} {request : Json} {queue : List Bytes}
  {asked : List Request} {taken held : List Json}

/-- Between the event and the reply nothing is said to the frontend. -/
def Starting (json : JsonLibrary) (request initialized : Json) (s : XDapTcpClient) : Prop :=
  Serving json request s ∧ holds isInitialized initialized = true

theorem Leads.starting {α : Type} {I : XDapTcpClient → Prop} {J : α → XDapTcpClient → Prop}
    {c : Client α} (h : Leads json I J c) (hsilent : Keeps (Continues Silent) c)
    (request initialized : Json) :
    Leads json (fun s => I s ∧ Starting json request initialized s)
      (fun a s => J a s ∧ Starting json request initialized s) c := by
  intro s hs
  have hends := h s fun hconforms => (hs hconforms).1
  apply ends_of_exec
  · intro a s' hexec hconforms
    have hcontinues := hsilent s
    rw [hexec] at hcontinues
    have hstarting : Starting json request initialized s := by
      obtain ⟨new, hactions, -⟩ := hcontinues
      rw [hactions] at hconforms
      exact (hs hconforms.front).2
    exact ⟨hends.of_ok hexec hconforms, hstarting.1.of_silent hcontinues, hstarting.2⟩
  · intro halt s' hexec
    exact hends.of_error hexec

theorem leads_awaitInitialized :
    Leads json (fun s => Ledger json [] taken held s ∧ Serving json request s)
      (fun initialized s => Ledger json [] taken held s ∧ Starting json request initialized s)
      (waitForMessage json isInitialized) := by
  refine leads_of_quiet (continues_waitForMessage fun _ => trivial) (fun _ hs => hs.1.tallied) ?_
  rintro s message s' ⟨hledger, hserving⟩ hwait hconforms
  have hsilent : Continues Silent s (exec (waitForMessage json isInitialized) s).2 :=
    continues_waitForMessage (fun _ _ => rfl) s
  rw [hwait] at hsilent
  refine ⟨hledger.takeEvent hwait hconforms ?_, hserving.of_silent hsilent,
    holds_of_waitForMessage hwait hledger.stopped⟩
  intro response hresponse
  by_contra hholds
  have hevent := (holds_isInitialized_iff.mp (Bool.not_eq_false _ ▸ hholds)).1
  rw [isResponse_of_isEvent hevent] at hresponse
  cases hresponse

theorem leads_awaitConfigured {seq : Int}
    (hattach : holdsText request (literal "command") (literal "attach") = true) :
    Leads json
      (fun s => Ledger json [⟨true, dapRequest "configurationDone" seq⟩] [] [] s ∧
        Serving json request s)
      (fun message => Ledger json [] [message] [])
      (waitForMessage json (isResponseTo "configurationDone")) := by
  refine leads_of_quiet (continues_waitForMessage fun _ => trivial) (fun _ hs => hs.1.tallied) ?_
  rintro s message s' ⟨hledger, hserving⟩ hwait hconforms
  refine (hledger.take hwait hconforms ?_ ?_ ?_).1
  · intro response hresponse hanswers
    exact holds_isResponseTo_iff.mpr ⟨hresponse, holdsText_iff.mpr hanswers.1⟩
  · intro other hother response _ hanswers
    rw [hserving.2] at hother
    obtain rfl := List.mem_singleton.mp hother
    by_contra hholds
    have hconfigured := (holds_isResponseTo_iff.mp (Bool.not_eq_false _ ▸ hholds)).2
    have hcommand : holdsText response (literal "command") (literal "attach") = true :=
      holdsText_iff.mpr (hanswers.1.trans (holdsText_iff.mp hattach))
    exact absurd (eq_of_holdsText hcommand hconfigured) (by decide)
  · intro rawMessage _ hevent
    by_contra hholds
    have hresponse := (holds_isResponseTo_iff.mp (Bool.not_eq_false _ ▸ hholds)).1
    rw [isResponse_of_isEvent hevent] at hresponse
    cases hresponse

theorem leads_awaitAttached :
    Leads json (Ledger json [] [] []) (fun message => Ledger json [] [] [message])
      (waitForMessage json (isResponseTo "attach")) := by
  refine leads_of_quiet (continues_waitForMessage fun _ => trivial) (fun _ hs => hs.tallied) ?_
  intro s message s' hledger hwait hconforms
  exact hledger.hold hwait hconforms fun response hholds => (holds_isResponseTo_iff.mp hholds).1

theorem leads_replyHeld {message : Json} (text : Bytes) :
    Leads json (fun s => Ledger json [] [] [message] s ∧ Serving json request s)
      (fun _ => Ledger json [] [] []) (sendReply message text) := by
  refine leads_bind (leads_get (J := fun s' s =>
    (Ledger json [] [] [message] s ∧ Serving json request s) ∧ s' = s) fun _ hs => ⟨hs, rfl⟩) ?_
  intro s'
  split
  · refine leads_modify (fun _ => List.prefix_append _ _) fun s hs _ => ?_
    exact hs.1.1.reply hs.1.2.1 text
  · exact leads_throw (fun s hs => hs.1.1.tallied) _

/-- The initialized event stops no thread. -/
@[simp] theorem handling_nil :
    Handling json [] asked taken held = Ledger json asked taken held :=
  funext fun s => propext ⟨And.left, fun h => ⟨h, s.messageQueue, rfl⟩⟩

theorem leads_announceInitialized {initialized : Json} :
    Leads config.json
      (fun s => Ledger config.json [] [] held s ∧ Starting config.json request initialized s)
      (fun _ s => Ledger config.json [] [] held s ∧ Starting config.json request initialized s)
      (forwardEvent config initialized) := by
  have hforwarded : holds isInitialized initialized = true →
      Leads config.json (Ledger config.json [] [] held) (fun _ => Ledger config.json [] [] held)
        (forwardEvent config initialized) := by
    intro hholds
    obtain ⟨event, hstops⟩ := stopsAllThreads_of_isInitialized hholds
    have hpasses : ∀ other, stopsAllThreads initialized ≠ .ok (true, other) := by
      intro other hother
      cases hstops.symm.trans hother
    have hforward : Leads config.json (Handling config.json [] [] [] held)
        (fun _ => Handling config.json [] [] [] held) (forwardEvent config initialized) :=
      leads_forwardEvent (.inr hpasses)
    simpa only [handling_nil] using hforward
  have hfact := leads_of_fact (continues_forwardEvent (fun _ _ => trivial) _) hforwarded
  exact (hfact.starting (continues_forwardEvent (fun _ => id) _) request initialized).of_imp
    fun s _ hs => ⟨⟨hs.1, hs.2.2⟩, hs.2⟩

theorem leads_issue (message : Json) :
    Leads config.json (Ledger config.json [] [] [])
      (fun _ => Ledger config.json [⟨true, message⟩] [] [])
      (DapClient.sendDapRequest config message) := by
  have hsent : Leads config.json (Handling config.json [] [] [] [])
      (fun _ s => Handling config.json [] [⟨true, message⟩] [] [] s ∧ Alone config.json message s)
      (DapClient.sendDapRequest config message) := leads_sendDapRequest message
  simp only [handling_nil] at hsent
  exact hsent.mono fun _ _ hs => hs.1

theorem leads_settle (response : Json) :
    Leads json (Ledger json [] [response] []) (fun _ => Ledger json [] [] [])
      (record (.answered response)) := by
  have hanswered : Leads json (Handling json [] [] [response] [])
      (fun _ => Handling json [] [] [] []) (record (.answered response)) := leads_answered response
  simpa only [handling_nil] using hanswered

theorem leads_handleInitSequence
    (hattach : holdsText request (literal "command") (literal "attach") = true) :
    Leads config.json (fun s => Ledger config.json [] [] [] s ∧ Serving config.json request s)
      (fun _ => Ledger config.json [] [] []) (handleInitSequence config) := by
  refine leads_bind leads_awaitInitialized fun initialized => ?_
  refine leads_throwing_bind (fun _ hs => hs.1.tallied) fun seq _ => ?_
  refine leads_bind ((leads_issue _).starting
    (continues_sendDapRequest (fun _ => id) _) request initialized) fun _ => ?_
  have hconfigured : Leads config.json
      (fun s => Ledger config.json [⟨true, dapRequest "configurationDone" seq⟩] [] [] s ∧
        Serving config.json request s)
      (fun response => Ledger config.json [] [response] [])
      (waitForMessage config.json (isResponseTo "configurationDone")) :=
    leads_awaitConfigured hattach
  have hkept := hconfigured.starting (continues_waitForMessage fun _ _ => rfl) request initialized
  refine leads_bind (hkept.of_imp fun s _ hs => ⟨⟨hs.1, hs.2.1⟩, hs.2⟩) fun configResponse => ?_
  refine leads_bind ((leads_settle configResponse).starting
    (continues_record (fun _ => rfl) fun _ => rfl) request initialized) fun _ => ?_
  refine leads_bind (leads_awaitAttached.starting
    (continues_waitForMessage fun _ _ => rfl) request initialized) fun attachResponse => ?_
  refine leads_bind leads_announceInitialized fun _ => ?_
  refine leads_throwing_bind (fun _ hs => hs.1.tallied) fun rawResponse _ => ?_
  exact (leads_replyHeld rawResponse).of_imp fun s _ hs => ⟨hs.1, hs.2.1⟩

/-! The sockets. -/

theorem lookup_of_find? {members : List (Bytes × Json)} {key : Bytes} {member : Bytes × Json}
    (h : members.find? (fun member => member.1 == key) = some member) :
    members.lookup key = some member.2 := by
  induction members with
  | nil => cases h
  | cons first members ih =>
      rw [List.find?_cons] at h
      split at h
      · next hkey =>
          obtain rfl := Option.some.inj h
          rw [List.lookup_cons, eq_of_beq hkey, beq_self_eq_true]
      · next hkey =>
          rw [List.lookup_cons, BEq.comm, hkey]
          exact ih h

theorem holdsText_of_isAttach {message : Json} (h : isAttach message = .ok true) :
    holdsText message (literal "command") (literal "attach") = true := by
  cases message with
  | object members =>
      rw [isAttach] at h
      split at h
      · next key command hfound =>
          have hcommand := eq_of_beq (Except.ok.inj h)
          rw [holdsText_iff, findMember, lookup_of_find? hfound, hcommand]
      · cases h
  | _ => cases h

/-- The sequence starts for the request that asks to attach. -/
theorem attached_of_handleControlSocket {tcpId message : Bytes} {waitAttach : Bool}
    (h : (DapFraming.handleControlSocket json tcpId waitAttach message).attached = .ok true) :
    holdsText (requestOf json message) (literal "command") (literal "attach") = true := by
  rw [DapFraming.handleControlSocket] at h
  split at h
  · split at h
    · cases h
    · next request hparse =>
        obtain ⟨text, hbody, hparse⟩ := bind_eq_ok.mp hparse
        have hrequest : requestOf json message = request := by
          simp only [requestOf, lift_eq_ok.mp hbody, messageOf, liftJson_eq_ok.mp hparse]
        exact hrequest ▸ holdsText_of_isAttach h
  · cases h

theorem attached_of_sent_nil {tcpId message : Bytes} {waitAttach : Bool}
    (h : (DapFraming.handleControlSocket json tcpId waitAttach message).sent = []) :
    ∃ failure, (DapFraming.handleControlSocket json tcpId waitAttach message).attached =
      .error failure := by
  rw [DapFraming.handleControlSocket] at h ⊢
  split at h
  · split at h
    · next failure hfailure => exact ⟨failure, by simp [*]⟩
    · cases h
  · cases h

/-- The request has been received, and not been forwarded yet. -/
def Accepting (json : JsonLibrary) (message : Bytes) (s : XDapTcpClient) : Prop :=
  ∃ s₀, Ledger json [] [] [] s₀ ∧ s₀.replyOwed = false ∧ s = { s₀ with
    replyOwed := true
    actions := s₀.actions ++ [.accepted message] }

theorem Accepting.tallied {message : Bytes} {s : XDapTcpClient} (h : Accepting json message s) :
    Tallied json s.actions := by
  obtain ⟨s₀, hledger, -, rfl⟩ := h
  exact hledger.tallied.append (by simp [Quiet])

theorem leads_recordForwarded {message : Bytes} (frames : List Bytes) :
    Leads json (Accepting json message)
      (fun _ s => Ledger json [] [] [] s ∧ Serving json (requestOf json message) s)
      (record (.forwarded message frames)) := by
  refine leads_modify (fun _ => List.prefix_append _ _) ?_
  rintro s ⟨s₀, hledger, howed, rfl⟩ -
  refine ⟨hledger.forward howed message frames, rfl, ?_⟩
  have hreplies := hledger.owed
  rw [howed] at hreplies
  have hforwarded : ∀ action ∈ [Action.forwarded message frames], Silent action := by
    intro action haction
    rw [List.mem_singleton.mp haction]
    exact fun _ => rfl
  rw [unansweredRequests_silent json _ hforwarded, unansweredRequests, acceptedRequests_append,
    repliedMessages_append, List.length_append]
  exact List.drop_left' hreplies

theorem leads_handleControlSocket (message : Bytes) :
    Leads config.json (fun s => Ledger config.json [] [] [] s ∧ s.replyOwed = false)
      (fun _ => Ledger config.json [] [] []) (handleControlSocket config message) := by
  have haccepted : Leads config.json
      (fun s => Ledger config.json [] [] [] s ∧ s.replyOwed = false)
      (fun _ => Accepting config.json message) (acceptRequest message) :=
    leads_modify (fun _ => List.prefix_append _ _) fun s hs _ => ⟨s, hs.1, hs.2, rfl⟩
  have hgot : Leads config.json (Accepting config.json message)
      (fun _ => Accepting config.json message) (get : Client XDapTcpClient) := leads_get fun _ => id
  refine leads_bind haccepted fun _ => leads_bind hgot fun s => ?_
  dsimp only
  split
  · next hsent =>
      refine leads_bind (leads_recordForwarded _) fun _ => ?_
      refine leads_throwing_bind (fun _ hs => hs.1.tallied) fun attached hattached => ?_
      cases attached with
      | true =>
          have hattach := attached_of_handleControlSocket hattached
          exact leads_bind (leads_handleInitSequence hattach) fun _ =>
            leads_modify (fun _ => List.prefix_rfl) fun s hs _ => hs.of_same rfl rfl hs.stopped rfl
      | false => exact leads_pure fun _ hs => hs.1
  · next hsent =>
      obtain ⟨failure, hfailure⟩ := attached_of_sent_nil (not_not.mp hsent)
      rw [hfailure]
      exact leads_throw (fun _ => Accepting.tallied) _

theorem leads_handleSockets (poll : Poll) :
    Leads config.json
      (fun s => Ledger config.json [] [] [] s ∧ (poll.control.isSome = true → s.replyOwed = false))
      (fun _ => Ledger config.json [] [] []) (handleSockets config poll) := by
  rcases poll with ⟨header, control, stream⟩
  have hcontrol : Leads config.json
      (fun s => Ledger config.json [] [] [] s ∧ (control.isSome = true → s.replyOwed = false))
      (fun _ => Ledger config.json [] [] []) (handleSockets config ⟨none, control, stream⟩) := by
    cases control with
    | none => exact leads_pure fun _ hs => hs.1
    | some message =>
        exact (leads_handleControlSocket message).of_imp fun _ _ hs => ⟨hs.1, hs.2 rfl⟩
  cases header with
  | none => exact hcontrol
  | some parent =>
      refine leads_bind (leads_modify (fun _ => List.prefix_rfl) fun s hs _ => ?_) fun _ => hcontrol
      exact ⟨hs.1.of_same rfl rfl hs.1.stopped rfl, hs.2⟩

theorem leads_receiveMessages :
    Leads json (Ledger json [] [] []) (fun _ => Ledger json [] [] []) receiveMessages := by
  intro s hs
  rcases hcall : handleTcpSocket s.stream [] with ⟨batch, result⟩
  cases result with
  | ok pending =>
      rw [Ends, exec_receiveMessages hcall]
      intro hconforms
      have horder : AnswersInOrder json (s.actions ++ [batch].map .received) := hconforms.order
      simpa using (hs hconforms.front).receive horder pending
  | error stop =>
      rw [Ends, exec_receiveMessages_stop hcall]
      intro hconforms
      exact (hs hconforms.front).tallied.append (by simp [Quiet])

theorem leads_pass (poll : Poll) :
    Leads config.json
      (fun s => Ledger config.json [] [] [] s ∧ (poll.control.isSome = true → s.replyOwed = false))
      (fun _ s => Ledger config.json [] [] [] s ∧ s.messageQueue = []) (pass config poll) := by
  refine leads_bind (leads_handleSockets poll) fun _ => ?_
  have hqueue : Leads config.json (Ledger config.json [] [] [])
      (fun _ s => Ledger config.json [] [] [] s ∧ s.messageQueue = [])
      (processMessageQueue config) :=
    leads_bind (leads_get fun _ => id) fun _ => leads_processMessages _
  split
  · exact leads_bind leads_receiveMessages fun _ => hqueue
  · exact hqueue

end Start

end XeusZmq.DapClientCorrelation
