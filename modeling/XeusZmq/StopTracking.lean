import Mathlib.Data.Finset.Basic
import XeusZmq.InitSequence
import XeusZmq.JsonPaths
import XeusZmq.StoppedThreads

/-!
The stopped threads along a sequence of events: what `forward_event` and `handle_event`
make of them, and the set that they stand for.
-/

namespace XeusZmq.StopTracking

open XeusZmq.Values
open XeusZmq.JsonAccess
open XeusZmq.JsonPaths
open XeusZmq.DapFraming
open XeusZmq.Commands
open XeusZmq.Runs
open XeusZmq.DapClient
open XeusZmq.DapClientWaiting
open XeusZmq.DapClientQueue
open XeusZmq.Debugger (XDebugger stopThreads insertThread handleEvent eventHandler)
open XeusZmq.DebugThreads
open XeusZmq.StoppedThreads (mem_insertThread)
open XeusZmq.TabledJson

/-! The set of stopped threads. -/

/-- `ids` are those of the threads that the debugger lists when all have stopped. -/
inductive ThreadEvent
  | stoppedAll (ids : List Int)
  | stopped (id : Int)
  | continuedAll
  | continued (id : Int)
  deriving DecidableEq, Repr

def ThreadEvent.ids : ThreadEvent → List Int
  | .stoppedAll ids => ids
  | .stopped id => [id]
  | .continuedAll => []
  | .continued id => [id]

def ThreadEvent.apply (threads : Finset Int) : ThreadEvent → Finset Int
  | .stoppedAll ids => threads ∪ ids.toFinset
  | .stopped id => insert id threads
  | .continuedAll => ∅
  | .continued id => threads.erase id

def insertAll (ids threads : List Int) : List Int :=
  ids.foldl (fun threads id => insertThread (toInt id) threads) threads

/-- The members of the `std::set`, as `handle_event` changes them. -/
def ThreadEvent.update (threads : List Int) : ThreadEvent → List Int
  | .stoppedAll ids => insertAll ids threads
  | .stopped id => insertThread (toInt id) threads
  | .continuedAll => []
  | .continued id => threads.erase (toInt id)

/-! The deliveries. -/

/-- A call of `forward_event`: the state in which the client makes it, with what the
debugger is to send, and the event. -/
structure Delivery where
  client : XDapTcpClient
  message : Json

def callbacks (actions : List Action) : List Json :=
  actions.filterMap fun action =>
    match action with
    | .callback message => some message
    | _ => none

/-- What `forward_event` returns, and the debugger behind the calls of `handle_event` that
it makes. -/
def deliver (config : Config) (s : XDebugger) (delivery : Delivery) :
    Except Halt PUnit × XDebugger :=
  let (result, client) := exec (forwardEvent (listening config) delivery.message) delivery.client
  let told := callbacks (client.actions.drop delivery.client.actions.length)
  (result, told.foldl (fun s message => (exec (handleEvent message) s).2) s)

section Lists

variable {id : Int} {threads : List Int}

theorem toFinset_insertThread :
    (insertThread id threads).toFinset = insert id threads.toFinset := by
  ext other
  rw [List.mem_toFinset, mem_insertThread, Finset.mem_insert, List.mem_toFinset]

theorem nodup_insertThread (h : threads.Nodup) : (insertThread id threads).Nodup := by
  unfold insertThread
  split_ifs with hmem
  · exact h
  · exact (List.perm_orderedInsert _ id threads).nodup_iff.mpr (List.nodup_cons.mpr ⟨hmem, h⟩)

theorem toFinset_erase (h : threads.Nodup) :
    (threads.erase id).toFinset = threads.toFinset.erase id := by
  ext other
  rw [List.mem_toFinset, h.mem_erase_iff, Finset.mem_erase, List.mem_toFinset]

theorem nodup_insertAll (ids : List Int) (h : threads.Nodup) : (insertAll ids threads).Nodup := by
  induction ids generalizing threads with
  | nil => exact h
  | cons id ids ih => exact ih (nodup_insertThread h)

def FitsInt (id : Int) : Prop :=
  -2 ^ 31 ≤ id ∧ id < 2 ^ 31

theorem toInt_of_fitsInt (h : FitsInt id) : toInt id = id := by
  obtain ⟨hlower, hupper⟩ := h
  unfold toInt
  omega

theorem toFinset_insertAll {ids : List Int} (h : ∀ id ∈ ids, FitsInt id) :
    (insertAll ids threads).toFinset = threads.toFinset ∪ ids.toFinset := by
  induction ids generalizing threads with
  | nil => simp [insertAll]
  | cons id ids ih =>
      have hrest := @ih (insertThread (toInt id) threads)
        fun other hother => h other (List.mem_cons_of_mem _ hother)
      have hid := toInt_of_fitsInt (h id List.mem_cons_self)
      have hstep : insertAll (id :: ids) threads =
          insertAll ids (insertThread (toInt id) threads) := rfl
      ext other
      rw [hstep, hrest, hid, toFinset_insertThread, List.toFinset_cons]
      simp only [Finset.mem_union, Finset.mem_insert]
      tauto

theorem nodup_update (event : ThreadEvent) (h : threads.Nodup) : (event.update threads).Nodup := by
  cases event with
  | stoppedAll ids => exact nodup_insertAll ids h
  | stopped id => exact nodup_insertThread h
  | continuedAll => exact List.nodup_nil
  | continued id => exact h.erase _

theorem toFinset_update {event : ThreadEvent} (hids : ∀ id ∈ event.ids, FitsInt id)
    (h : threads.Nodup) : (event.update threads).toFinset = event.apply threads.toFinset := by
  cases event with
  | stoppedAll ids => exact toFinset_insertAll hids
  | stopped id =>
      rw [ThreadEvent.update, toInt_of_fitsInt (hids id (List.mem_singleton_self id))]
      exact toFinset_insertThread
  | continuedAll => rfl
  | continued id =>
      rw [ThreadEvent.update, toInt_of_fitsInt (hids id (List.mem_singleton_self id))]
      exact toFinset_erase h

theorem exec_stopThreads (ids : List Int) (s : XDebugger) :
    exec (stopThreads (ids.map .integer)) s =
      (.ok ⟨⟩, { s with stoppedThreads := insertAll ids s.stoppedThreads }) := by
  induction ids generalizing s with
  | nil => rfl
  | cons id ids ih =>
      rw [stopThreads, List.map_cons, List.forM_eq_forM, List.forM_cons, ← List.forM_eq_forM,
        ← stopThreads]
      simp only [exec_bind, exec_fromExcept, exec_modify, getInt, ih]
      rfl

end Lists

/-! What `handle_event` does. -/

section Handlers

variable {message : Json} {body : List (Bytes × Json)} {id : Int}

theorem constIndex_object {key : Bytes} {value : Json} (h : body.lookup key = some value) :
    constIndex (.object body) key = .ok value := by
  rw [constIndex, h]

theorem exec_handleEvent_of_name {name : Bytes} {handler : Json → Command XDebugger Failure PUnit}
    (hevent : constIndex message (literal "event") = .ok (.string name))
    (hhandler : eventHandler.lookup name = some handler) (s : XDebugger) :
    exec (handleEvent message) s = exec (handler message) s := by
  rw [handleEvent, exec_bind, exec_fromExcept, hevent]
  dsimp only
  rw [exec_bind, exec_fromExcept, getString, liftJson_ok]
  simp only [hhandler]

theorem exec_continuedEvent_all (hbody : constIndex message (literal "body") = .ok (.object body))
    (hflag : body.lookup (literal "allThreadsContinued") = some (.boolean true))
    (s : XDebugger) :
    exec (Debugger.continuedEvent message) s = (.ok ⟨⟩, { s with stoppedThreads := [] }) := by
  simp [Debugger.continuedEvent, exec_bind, hbody, constIndex_object hflag, getBool]

theorem exec_continuedEvent_one (hbody : constIndex message (literal "body") = .ok (.object body))
    (hflag : body.lookup (literal "allThreadsContinued") = some (.boolean false))
    (hid : body.lookup (literal "threadId") = some (.integer id)) (s : XDebugger) :
    exec (Debugger.continuedEvent message) s =
      (.ok ⟨⟩, { s with stoppedThreads := s.stoppedThreads.erase (toInt id) }) := by
  simp [Debugger.continuedEvent, exec_bind, hbody, constIndex_object hflag, getBool,
    constIndex_object hid, getInt]

theorem exec_stoppedEvent_all (hbody : constIndex message (literal "body") = .ok (.object body))
    (hflag : body.lookup (literal "allThreadsStopped") = some (.boolean true)) {ids : List Int}
    (hids : body.lookup (literal "threadList") = some (.array (ids.map .integer)))
    (s : XDebugger) :
    exec (Debugger.stoppedEvent message) s =
      (.ok ⟨⟩, { s with stoppedThreads := insertAll ids s.stoppedThreads }) := by
  rw [exec_stoppedEvent, ← exec_stopThreads]
  simp [stoppedIds, exec_bind, hbody, constIndex_object hflag, getBool,
    constIndex_object hids, elements]

theorem exec_stoppedEvent_one (hbody : constIndex message (literal "body") = .ok (.object body))
    (hflag : body.lookup (literal "allThreadsStopped") = some (.boolean false))
    (hid : body.lookup (literal "threadId") = some (.integer id)) (s : XDebugger) :
    exec (Debugger.stoppedEvent message) s =
      (.ok ⟨⟩, { s with stoppedThreads := insertThread (toInt id) s.stoppedThreads }) := by
  simp [Debugger.stoppedEvent, exec_bind, hbody, constIndex_object hflag, getBool,
    constIndex_object hid, getInt]

end Handlers

/-! What `forward_event` reads and adds. -/

/-- An event of the given name with the flag, or without it. -/
structure Carries (message : Json) (name flag : String) (all : Option Bool)
    (body : List (Bytes × Json)) : Prop where
  ordered : Ordered message
  isEvent : lookupAt [.key (literal "type")] message = some (.string (literal "event"))
  isNamed : lookupAt [.key (literal "event")] message = some (.string (literal name))
  hasBody : lookupAt [.key (literal "body")] message = some (.object body)
  hasFlag : body.lookup (literal flag) = all.map .boolean

/-- The ids of the threads that a response lists. -/
def Lists (rep : Json) (ids : List Int) : Prop :=
  ∃ threads, lookupAt [.key (literal "body"), .key (literal "threads")] rep =
      some (.array threads) ∧
    List.Forall₂ (fun thread id => lookupAt [.key (literal "id")] thread = some (.integer id))
      threads ids

section Forwarding

variable {message : Json} {name flag : String} {all : Option Bool} {body : List (Bytes × Json)}

theorem Carries.stopsAllThreads_eq (h : Carries message name flag all body) :
    stopsAllThreads message =
      if isText (.string (literal name)) (literal "stopped") then
        readAt [.key (literal "body"), .key (literal "allThreadsStopped")] message >>= fun read =>
          getBool read.1 >>= fun stops => .ok (stops, read.2)
      else .ok (false, message) := by
  rw [stopsAllThreads, readAt_of_lookupAt h.ordered h.isEvent, ok_bind]
  dsimp only
  rw [if_pos (by decide), readAt_of_lookupAt h.ordered h.isNamed, ok_bind]
  rfl

theorem Carries.stopsAllThreads_continued
    (h : Carries message "continued" "allThreadsContinued" all body) :
    stopsAllThreads message = .ok (false, message) := by
  rw [h.stopsAllThreads_eq, if_neg (by decide)]

theorem Carries.stopsAllThreads_stopped {stops : Bool}
    (h : Carries message "stopped" "allThreadsStopped" (some stops) body) :
    stopsAllThreads message = .ok (stops, message) := by
  have hlookup : body.lookup (literal "allThreadsStopped") = some (.boolean stops) := h.hasFlag
  have hflag : lookupAt [.key (literal "body"), .key (literal "allThreadsStopped")] message =
      some (.boolean stops) := by
    rw [← List.singleton_append, lookupAt_append, h.hasBody, Option.bind_some, lookupAt, hlookup]
    rfl
  rw [h.stopsAllThreads_eq, if_pos (by decide), readAt_of_lookupAt h.ordered hflag, ok_bind]
  rfl

theorem Carries.stopsAllThreads_of_no_flag
    (h : Carries message "stopped" "allThreadsStopped" none body) :
    stopsAllThreads message = .error .typeError := by
  have hflag : body.lookup (literal "allThreadsStopped") = none := h.hasFlag
  rw [h.stopsAllThreads_eq, if_pos (by decide), readAt, ← List.singleton_append, visit_append,
    visit_of_lookupAt h.hasBody, visit_key, membersOf, ok_bind, hflag]
  rfl

theorem mapM_index {threads : List Json} {ids : List Int}
    (h : List.Forall₂ (fun thread id => lookupAt [.key (literal "id")] thread = some (.integer id))
      threads ids) :
    threads.mapM (fun thread => index thread (literal "id")) = .ok (ids.map .integer) := by
  induction h with
  | nil => rfl
  | cons hid _ ih =>
      obtain ⟨members, child, rfl, hchild, hvalue⟩ := lookupAt_key hid
      obtain rfl := Option.some.inj hvalue
      rw [List.mapM_cons, ih, index, hchild]
      rfl

/-- The event that the callback is told of. -/
def withThreadList (message : Json) (body : List (Bytes × Json)) (ids : List Int) : Json :=
  replaceAt [.key (literal "body")] (.object (OrderedMap.insert keyBefore (literal "threadList")
    (.array (ids.map .integer)) body)) message

theorem addThreadList_of_lists {rep : Json} {ids : List Int}
    (hbody : lookupAt [.key (literal "body")] message = some (.object body))
    (hlists : Lists rep ids) :
    addThreadList message rep = .ok (withThreadList message body ids) := by
  obtain ⟨threads, hthreads, hids⟩ := hlists
  rw [addThreadList, readAt, visit_of_lookupAt hthreads]
  change ((threads.mapM fun thread => index thread (literal "id")) >>= fun ids =>
    assignAt [.key (literal "body"), .key (literal "threadList")] (.array ids) message) = _
  rw [mapM_index hids, ok_bind, ← List.singleton_append, assignAt_member hbody]
  rfl

end Forwarding

/-! One delivery. -/

/-- An event as it is delivered, with its flag and with what it says. -/
structure Report where
  delivery : Delivery
  flag : Option Bool
  event : ThreadEvent

/-- A flag that is absent is false, and then the event names a thread. The debugger
answers the threads request of a stop of all threads. -/
inductive Means (config : Config) (delivery : Delivery) : Option Bool → ThreadEvent → Prop
  | stoppedAll {body : List (Bytes × Json)} {messages : List Bytes} {answer : Bytes}
      {ids : List Int}
      (hcarries : Carries delivery.message "stopped" "allThreadsStopped" (some true) body)
      (hready : Ready config.json delivery.client messages)
      (hanswer : AnsweredBy config.json delivery.client answer)
      (hlists : Lists (messageOf config.json answer) ids) :
      Means config delivery (some true) (.stoppedAll ids)
  | stopped {flag : Option Bool} {body : List (Bytes × Json)} {id : Int}
      (hcarries : Carries delivery.message "stopped" "allThreadsStopped" flag body)
      (hflag : flag ≠ some true) (hid : body.lookup (literal "threadId") = some (.integer id)) :
      Means config delivery flag (.stopped id)
  | continuedAll {body : List (Bytes × Json)}
      (hcarries : Carries delivery.message "continued" "allThreadsContinued" (some true) body) :
      Means config delivery (some true) .continuedAll
  | continued {flag : Option Bool} {body : List (Bytes × Json)} {id : Int}
      (hcarries : Carries delivery.message "continued" "allThreadsContinued" flag body)
      (hflag : flag ≠ some true) (hid : body.lookup (literal "threadId") = some (.integer id)) :
      Means config delivery flag (.continued id)

/-- The event has its flag, its ids are ints, and nothing that is sent is refused. -/
structure Supported (config : Config) (report : Report) : Prop where
  hasFlag : report.flag.isSome
  fits : ∀ id ∈ report.event.ids, FitsInt id
  requests : ∀ ids, report.event = .stoppedAll ids →
    Requests config report.delivery.client report.delivery.message
  publishes : ∃ wireMsg, publication config report.delivery.client.parentHeader
    report.delivery.message = .ok wireMsg

/-- `forward_event` returns, and has told the callback of one message. -/
def Tells (config : Config) (delivery : Delivery) (told : Json) : Prop :=
  ∃ client new, exec (forwardEvent (listening config) delivery.message) delivery.client =
      (.ok ⟨⟩, client) ∧ client.actions = delivery.client.actions ++ new ∧ callbacks new = [told]

/-- What `handle_event` does for a message that says what the event says. -/
def Handles (told : Json) (event : ThreadEvent) : Prop :=
  ∀ s, exec (handleEvent told) s =
    (.ok ⟨⟩, { s with stoppedThreads := event.update s.stoppedThreads })

section Delivering

variable {config : Config} {delivery : Delivery} {flag : Option Bool} {event : ThreadEvent}
  {told : Json}

theorem deliver_of_tells (htells : Tells config delivery told) (hhandles : Handles told event)
    (s : XDebugger) : deliver config s delivery =
      (.ok ⟨⟩, { s with stoppedThreads := event.update s.stoppedThreads }) := by
  obtain ⟨client, new, hexec, hactions, hcallbacks⟩ := htells
  rw [deliver, hexec]
  dsimp only
  rw [hactions, List.drop_left, hcallbacks, List.foldl_cons, List.foldl_nil, hhandles s]

theorem Handles.returns (h : Handles told event) (config : Config) :
    CallbackReturns (listening config) told := by
  rw [CallbackReturns, eventCallback_listening config told .init, h]

theorem tells_of_not_stopsAll (hstops : stopsAllThreads delivery.message =
      .ok (false, delivery.message))
    (hhandles : Handles delivery.message event)
    (hpublishes : ∃ wireMsg, publication config delivery.client.parentHeader delivery.message =
      .ok wireMsg) : Tells config delivery delivery.message := by
  obtain ⟨wireMsg, hwire⟩ := hpublishes
  refine ⟨_, [.callback delivery.message, .published wireMsg],
    (InitSequence.exec_forwardEvent hstops).mpr
      ⟨hhandles.returns config, wireMsg, hwire, rfl⟩, ?_, rfl⟩
  simp

theorem tells_of_stopsAll (hstops : stopsAllThreads delivery.message =
      .ok (true, delivery.message))
    {messages : List Bytes} {answer : Bytes} (hready : Ready config.json delivery.client messages)
    (hanswer : AnsweredBy config.json delivery.client answer)
    (hrequests : Requests config delivery.client delivery.message)
    (hadded : addThreadList delivery.message (messageOf config.json answer) = .ok told)
    (hhandles : Handles told event)
    (hpublishes : ∃ wireMsg, publication config delivery.client.parentHeader delivery.message =
      .ok wireMsg) : Tells config delivery told := by
  obtain ⟨wireMsg, hwire⟩ := hpublishes
  obtain ⟨seq, frames, hseq, hframes⟩ := hrequests
  obtain ⟨batches, before, after, pending, hbatches, hnone, hthreads⟩ := hanswer
  obtain ⟨s₁, new, hannounce, hactions, hheader, hcallbacks⟩ : ∃ s₁ new,
      exec (announceStop (listening config) delivery.message) delivery.client = (.ok ⟨⟩, s₁) ∧
        s₁.actions = delivery.client.actions ++ new ∧
        s₁.parentHeader = delivery.client.parentHeader ∧ callbacks new = [told] :=
    ⟨_, _, @exec_announceStop (listening config) delivery.client messages hready delivery.message
      told seq frames batches before after answer pending hseq hframes hbatches hnone hthreads
      hadded (hhandles.returns config), rfl, rfl, by simp [callbacks]⟩
  refine ⟨{ s₁ with actions := s₁.actions ++ [.published wireMsg] }, new ++ [.published wireMsg],
    ?_, ?_, ?_⟩
  · rw [forwardEvent, hstops, liftJson_ok, exec_bind_of_ok (exec_throwing_ok _ _)]
    simp only [if_true]
    rw [exec_bind_of_ok hannounce]
    exact (exec_publish _).mpr ⟨wireMsg, hheader ▸ hwire, rfl⟩
  · dsimp only
    rw [hactions, List.append_assoc]
  · rw [callbacks, List.filterMap_append, ← callbacks, hcallbacks]
    rfl

theorem handles_stopped {message : Json} {body : List (Bytes × Json)} {id : Int}
    (h : Carries message "stopped" "allThreadsStopped" (some false) body)
    (hid : body.lookup (literal "threadId") = some (.integer id)) :
    Handles message (.stopped id) := by
  intro s
  rw [exec_handleEvent_of_name (constIndex_of_lookupAt h.isNamed) rfl]
  exact exec_stoppedEvent_one (constIndex_of_lookupAt h.hasBody) h.hasFlag hid s

theorem handles_continued {message : Json} {body : List (Bytes × Json)} {id : Int}
    (h : Carries message "continued" "allThreadsContinued" (some false) body)
    (hid : body.lookup (literal "threadId") = some (.integer id)) :
    Handles message (.continued id) := by
  intro s
  rw [exec_handleEvent_of_name (constIndex_of_lookupAt h.isNamed) rfl]
  exact exec_continuedEvent_one (constIndex_of_lookupAt h.hasBody) h.hasFlag hid s

theorem handles_continuedAll {message : Json} {body : List (Bytes × Json)}
    (h : Carries message "continued" "allThreadsContinued" (some true) body) :
    Handles message .continuedAll := by
  intro s
  rw [exec_handleEvent_of_name (constIndex_of_lookupAt h.isNamed) rfl]
  exact exec_continuedEvent_all (constIndex_of_lookupAt h.hasBody) h.hasFlag s

/-- The list that has been added leaves the name of the event and the flag as they are. -/
theorem handles_stoppedAll {message : Json} {body : List (Bytes × Json)}
    (h : Carries message "stopped" "allThreadsStopped" (some true) body) (ids : List Int) :
    Handles (withThreadList message body ids) (.stoppedAll ids) := by
  intro s
  have hname : lookupAt [.key (literal "event")] (withThreadList message body ids) =
      some (.string (literal "stopped")) := by
    rw [withThreadList, lookupAt_replaceAt_of_ne (by decide), h.isNamed]
  have hbody := constIndex_of_lookupAt (lookupAt_replaceAt h.hasBody
    (.object (OrderedMap.insert keyBefore (literal "threadList") (.array (ids.map .integer)) body)))
  rw [exec_handleEvent_of_name (constIndex_of_lookupAt hname) rfl]
  refine exec_stoppedEvent_all hbody ?_ (OrderedMap.lookup_insert_self _ _ _ _) s
  rw [OrderedMap.lookup_insert_of_ne keyBefore (by decide)]
  exact h.hasFlag

theorem flag_eq_false (hflag : flag.isSome) (hnot : flag ≠ some true) : flag = some false := by
  obtain ⟨value, rfl⟩ := Option.isSome_iff_exists.mp hflag
  rw [ne_eq, Option.some.injEq, Bool.not_eq_true] at hnot
  rw [hnot]

theorem deliver_of_supported (hmeans : Means config delivery flag event)
    (h : Supported config ⟨delivery, flag, event⟩) (s : XDebugger) :
    deliver config s delivery =
      (.ok ⟨⟩, { s with stoppedThreads := event.update s.stoppedThreads }) := by
  cases hmeans with
  | @stoppedAll body messages answer ids hcarries hready hanswer hlists =>
      have hhandles := handles_stoppedAll hcarries ids
      exact deliver_of_tells (tells_of_stopsAll hcarries.stopsAllThreads_stopped hready hanswer
        (h.requests ids rfl) (addThreadList_of_lists hcarries.hasBody hlists) hhandles
        h.publishes) hhandles s
  | stopped hcarries hflag hid =>
      obtain rfl := flag_eq_false h.hasFlag hflag
      have hhandles := handles_stopped hcarries hid
      exact deliver_of_tells (tells_of_not_stopsAll hcarries.stopsAllThreads_stopped hhandles
        h.publishes) hhandles s
  | continuedAll hcarries =>
      have hhandles := handles_continuedAll hcarries
      exact deliver_of_tells (tells_of_not_stopsAll hcarries.stopsAllThreads_continued hhandles
        h.publishes) hhandles s
  | continued hcarries hflag hid =>
      obtain rfl := flag_eq_false h.hasFlag hflag
      have hhandles := handles_continued hcarries hid
      exact deliver_of_tells (tells_of_not_stopsAll hcarries.stopsAllThreads_continued hhandles
        h.publishes) hhandles s

theorem exec_forwardEvent_of_error {f : Failure}
    (hstops : liftJson (stopsAllThreads delivery.message) = .error f) (client : XDapTcpClient) :
    (exec (forwardEvent config delivery.message) client).1 = .error (.failed f) := by
  rw [forwardEvent, hstops, exec_bind, exec_throwing_error]

theorem exec_handleEvent_of_no_flag {message : Json} {body : List (Bytes × Json)}
    (h : Carries message "continued" "allThreadsContinued" none body) (s : XDebugger) :
    (exec (handleEvent message) s).1 = .error (.undefined .missingMember) := by
  have hbody := constIndex_of_lookupAt h.hasBody
  have hlookup : body.lookup (literal "allThreadsContinued") = none := h.hasFlag
  have hflag : constIndex (.object body) (literal "allThreadsContinued") =
      .error (.undefined .missingMember) := by
    rw [constIndex, hlookup]
  rw [exec_handleEvent_of_name (constIndex_of_lookupAt h.isNamed) rfl]
  simp [Debugger.continuedEvent, exec_bind, hbody, hflag]

/-- Without its flag no event comes through: `forward_event` throws for a stop, and
`continued_event` reads a member that is not there. -/
theorem not_returns_of_no_flag (hmeans : Means config delivery none event) (s : XDebugger) :
    (deliver config s delivery).1 ≠ .ok ⟨⟩ := by
  have hresult : (deliver config s delivery).1 =
      (exec (forwardEvent (listening config) delivery.message) delivery.client).1 := rfl
  rw [hresult]
  cases hmeans with
  | stopped hcarries _ _ =>
      rw [exec_forwardEvent_of_error (by rw [hcarries.stopsAllThreads_of_no_flag]; rfl)]
      simp
  | continued hcarries _ _ =>
      intro hreturns
      have hforward : exec (forwardEvent (listening config) delivery.message) delivery.client =
          (.ok ⟨⟩, (exec (forwardEvent (listening config) delivery.message) delivery.client).2) :=
        Prod.ext hreturns rfl
      obtain ⟨hcallback, -⟩ :=
        (InitSequence.exec_forwardEvent hcarries.stopsAllThreads_continued).mp hforward
      rw [CallbackReturns, eventCallback_listening config _ s,
        exec_handleEvent_of_no_flag hcarries] at hcallback
      cases hcallback

end Delivering

/-! Sequences of deliveries. -/

/-- The debugger after the deliveries. -/
def history (config : Config) (reports : List Report) : XDebugger :=
  run (fun s report => (deliver config s report.delivery).2) .init reports

def tracked (reports : List Report) : Finset Int :=
  run (fun threads report => report.event.apply threads) ∅ reports

/-- No event makes `forward_event` or a handler fail, and the stopped threads are those
of the events. -/
structure TracksThreads (config : Config) (reports : List Report) : Prop where
  returns : ∀ front report rest, reports = front ++ report :: rest →
    (deliver config (history config front) report.delivery).1 = .ok ⟨⟩
  nodup : (history config reports).stoppedThreads.Nodup
  tracks : (history config reports).stoppedThreads.toFinset = tracked reports

theorem history_concat {config : Config} {reports : List Report} {report : Report}
    (hmeans : Means config report.delivery report.flag report.event)
    (h : Supported config report) :
    (history config (reports ++ [report])).stoppedThreads =
      report.event.update (history config reports).stoppedThreads := by
  rw [history, run_concat, deliver_of_supported hmeans h]
  rfl

/-- The stopped threads of any sequence of events that all have their flag. -/
theorem tracksThreads_of_supported {config : Config} {reports : List Report}
    (hmeans : ∀ report ∈ reports, Means config report.delivery report.flag report.event)
    (h : ∀ report ∈ reports, Supported config report) : TracksThreads config reports := by
  induction reports using List.reverseRecOn with
  | nil => exact ⟨by simp, List.nodup_nil, rfl⟩
  | append_singleton reports last ih =>
      have hfront := ih (fun report hreport => hmeans report (List.mem_append_left _ hreport))
        fun report hreport => h report (List.mem_append_left _ hreport)
      have hmem : last ∈ reports ++ [last] := List.mem_append_right _ (List.mem_singleton_self last)
      have hthreads := @history_concat config reports last (hmeans last hmem) (h last hmem)
      constructor
      · intro front report rest heq
        rcases concat_eq_append_cons_iff.mp heq with ⟨rfl, rfl, -⟩ | ⟨rest', -, hrest⟩
        · rw [deliver_of_supported (hmeans report hmem) (h report hmem)]
        · exact hfront.returns front report rest' hrest
      · rw [hthreads]
        exact nodup_update last.event hfront.nodup
      · rw [hthreads, toFinset_update (h last hmem).fits hfront.nodup, hfront.tracks, tracked,
          tracked, run_concat]

/-- An event with its flag. -/
def threadEvent (name flag : String) (all : Bool) (id : Int) : Json :=
  .object [(literal "body", .object
      [(literal flag, .boolean all), (literal "threadId", .integer id)]),
    (literal "event", .string (literal name)), (literal "seq", .integer 9),
    (literal "type", .string (literal "event"))]

/-- All threads stop, of which there is one, another is made that stops, and the first
goes on. -/
def stopsAndContinue : List Report :=
  [⟨⟨stoppedAndAnswer, stoppedAll⟩, some true, .stoppedAll [1]⟩,
    ⟨⟨waiting [] [], threadEvent "stopped" "allThreadsStopped" false 2⟩, some false, .stopped 2⟩,
    ⟨⟨waiting [] [], threadEvent "continued" "allThreadsContinued" false 1⟩, some false,
      .continued 1⟩]

theorem ordered_event {name : String} {seq : Int} {body : List (Bytes × Json)}
    (hsorted : SortedKeys body) (hbody : ∀ member ∈ body, Ordered member.2) :
    Ordered (.object [(literal "body", .object body), (literal "event", .string (literal name)),
      (literal "seq", .integer seq), (literal "type", .string (literal "event"))]) := by
  have hmembers : SortedKeys [(literal "body", Json.object body),
      (literal "event", .string (literal name)), (literal "seq", .integer seq),
      (literal "type", .string (literal "event"))] := by
    rw [SortedKeys]
    simp only [List.map_cons, List.map_nil]
    decide
  simp only [ordered_object_iff, List.forall_mem_cons]
  exact ⟨hmembers, ⟨hsorted, hbody⟩, .string _, .integer _, .string _, by simp⟩

theorem carries_threadEvent {name flag : String} {all : Bool} {id : Int}
    (hflag : keyBefore (literal flag) (literal "threadId") = true) :
    Carries (threadEvent name flag all id) name flag (some all)
      [(literal flag, .boolean all), (literal "threadId", .integer id)] where
  ordered := ordered_event (sortedKeys_pair hflag) (by simp)
  isEvent := rfl
  isNamed := rfl
  hasBody := rfl
  hasFlag := List.lookup_cons_self

theorem carries_stoppedAll : Carries stoppedAll "stopped" "allThreadsStopped" (some true)
    [(literal "allThreadsStopped", .boolean true),
      (literal "reason", .string (literal "breakpoint"))] where
  ordered := ordered_event (sortedKeys_pair (by decide)) (by simp)
  isEvent := rfl
  isNamed := rfl
  hasBody := rfl
  hasFlag := rfl

theorem means_stopsAndContinue : ∀ report ∈ stopsAndContinue,
    Means stoppedConfig report.delivery report.flag report.event := by
  have hlists : Lists (messageOf stoppedConfig.json (textOf threadsResponse)) [1] :=
    ⟨_, rfl, .cons rfl .nil⟩
  simp only [stopsAndContinue, List.forall_mem_cons]
  exact ⟨.stoppedAll carries_stoppedAll stoppedAndAnswer_ready stoppedAndAnswer_answered hlists,
    .stopped (carries_threadEvent (by decide)) (by decide) rfl,
    .continued (carries_threadEvent (by decide)) (by decide) rfl, by simp⟩

theorem supported_stopsAndContinue : ∀ report ∈ stopsAndContinue,
    Supported stoppedConfig report := by
  simp only [stopsAndContinue, List.forall_mem_cons]
  refine ⟨?_, ?_, ?_, by simp⟩
  · exact ⟨rfl, by simp [ThreadEvent.ids, FitsInt], fun _ _ => ⟨8, _, rfl, rfl⟩, _, rfl⟩
  · exact ⟨rfl, by simp [ThreadEvent.ids, FitsInt], by rintro _ ⟨⟩, _, rfl⟩
  · exact ⟨rfl, by simp [ThreadEvent.ids, FitsInt], by rintro _ ⟨⟩, _, rfl⟩

theorem tracksThreads_stopsAndContinue : TracksThreads stoppedConfig stopsAndContinue :=
  tracksThreads_of_supported means_stopsAndContinue supported_stopsAndContinue

/-- Whatever events come. -/
def AlwaysTracks (config : Config) : Prop :=
  ∀ reports : List Report,
    (∀ report ∈ reports, Means config report.delivery report.flag report.event) →
      TracksThreads config reports

/-- A stop of one thread that leaves out the flag. -/
theorem not_alwaysTracks : ¬ AlwaysTracks stoppedConfig := by
  intro h
  have hcarries : Carries stoppedOne "stopped" "allThreadsStopped" none
      [(literal "reason", .string (literal "step")), (literal "threadId", .integer 1)] :=
    ⟨ordered_event (sortedKeys_pair (by decide)) (by simp), rfl, rfl, rfl, rfl⟩
  have hmeans : Means stoppedConfig ⟨waiting [textOf stoppedOne] [], stoppedOne⟩ none
      (.stopped 1) := .stopped hcarries (by decide) rfl
  have htracks := h [⟨⟨waiting [textOf stoppedOne] [], stoppedOne⟩, none, .stopped 1⟩]
    (by simpa using hmeans)
  exact not_returns_of_no_flag hmeans _ (htracks.returns [] _ [] rfl)

end XeusZmq.StopTracking
