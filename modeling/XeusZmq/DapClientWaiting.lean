import XeusZmq.DapClient
import XeusZmq.DapFramingCorrectness

/-!
What `wait_for_message` takes from the stream and leaves in the queue.
-/

namespace XeusZmq.DapClientWaiting

open XeusZmq.Values
open XeusZmq.JsonAccess
open XeusZmq.DapFraming
open XeusZmq.DapFramingCorrectness
open XeusZmq.Commands
open XeusZmq.DapClient

/-- What is parsed from the text, which is an object for every message of a
debugger. -/
def messageOf (json : JsonLibrary) (rawMessage : Bytes) : Json :=
  match json.parse rawMessage with
  | .ok message => message
  | .error _ => .null

/-- Calls of `handle_tcp_socket` that return one after the other. -/
inductive Batches : List StreamChunk → List (List Bytes) → List StreamChunk → Prop
  | nil (stream : List StreamChunk) : Batches stream [] stream
  | cons {stream pending rest : List StreamChunk} {batch : List Bytes}
      {batches : List (List Bytes)} (hcall : handleTcpSocket stream [] = (batch, .ok pending))
      (hbatches : Batches pending batches rest) : Batches stream (batch :: batches) rest

theorem Batches.append {stream pending rest : List StreamChunk} {front batches : List (List Bytes)}
    (h : Batches stream front pending) (h' : Batches pending batches rest) :
    Batches stream (front ++ batches) rest := by
  induction h with
  | nil stream => exact h'
  | cons hcall _ ih => exact .cons hcall (ih h')

theorem Batches.delivers {stream pending : List StreamChunk} {batches : List (List Bytes)}
    (h : Batches stream batches pending) {messages : List Bytes}
    (hstream : Delivers stream messages) :
    ∃ rest, messages = batches.flatten ++ rest ∧ Delivers pending rest ∧
      batches.length + pending.length ≤ stream.length := by
  induction h generalizing messages with
  | nil stream => exact ⟨messages, rfl, hstream, by simp⟩
  | cons hcall hbatches ih =>
      rcases handleTcpSocket_delivers hstream [] with
        ⟨-, hblocked⟩ | ⟨batch', rest, pending', -, rfl, hcall', hpending, hlength⟩
      · rw [hcall] at hblocked
        cases hblocked
      · rw [hcall, List.nil_append] at hcall'
        cases hcall'
        obtain ⟨rest', rfl, hrest, hshort⟩ := ih hpending
        refine ⟨rest', by simp, hrest, ?_⟩
        rw [List.length_cons]
        omega

section Receive

variable {s : XDapTcpClient} {batch : List Bytes} {pending : List StreamChunk} {stop : Stop}

theorem exec_receiveMessages (hcall : handleTcpSocket s.stream [] = (batch, .ok pending)) :
    exec receiveMessages s =
      (.ok ⟨⟩, { s with
        messageQueue := s.messageQueue ++ batch
        stream := pending
        actions := s.actions ++ [.received batch] }) := by
  simp [receiveMessages, receive, leaveStream, exec_bind, hcall]

theorem exec_receiveMessages_stop (hcall : handleTcpSocket s.stream [] = (batch, .error stop)) :
    exec receiveMessages s =
      (.error (.reading stop), { s with
        messageQueue := s.messageQueue ++ batch
        actions := s.actions ++ [.received batch] }) := by
  simp [receiveMessages, receive, leaveStream, exec_bind, hcall]

theorem exec_receiveStopped (hcall : handleTcpSocket s.stream [] = (batch, .ok pending)) :
    exec receiveStopped s =
      (.ok ⟨⟩, { s with
        stoppedQueue := s.stoppedQueue ++ batch
        stream := pending
        actions := s.actions ++ [.received batch] }) := by
  simp [receiveStopped, receive, leaveStream, exec_bind, hcall]

theorem exec_receiveStopped_stop (hcall : handleTcpSocket s.stream [] = (batch, .error stop)) :
    exec receiveStopped s =
      (.error (.reading stop), { s with
        stoppedQueue := s.stoppedQueue ++ batch
        actions := s.actions ++ [.received batch] }) := by
  simp [receiveStopped, receive, leaveStream, exec_bind, hcall]

end Receive

theorem exec_throwing_eq_ok {α : Type} {x : Result α} {a : α} {s s' : XDapTcpClient} :
    exec (throwing x) s = (.ok a, s') ↔ x = .ok a ∧ s' = s := by
  cases x with
  | ok b => simp only [exec_throwing_ok, Prod.mk.injEq, Except.ok.injEq, eq_comm (a := s)]
  | error f => simp

section Condition

variable {json : JsonLibrary} {condition : MessageCondition} {test : Json → Bool}

/-- The condition can be evaluated on the message. -/
def Testable (json : JsonLibrary) (condition : MessageCondition) (test : Json → Bool)
    (rawMessage : Bytes) : Prop :=
  json.parse rawMessage = .ok (messageOf json rawMessage) ∧
    condition (messageOf json rawMessage) = .ok (test (messageOf json rawMessage))

def holds (condition : MessageCondition) (message : Json) : Bool :=
  match condition message with
  | .ok meets => meets
  | .error _ => false

theorem testable_holds {rawMessage : Bytes} {message : Json} {meets : Bool}
    (hparse : json.parse rawMessage = .ok message) (hmeets : condition message = .ok meets) :
    Testable json condition (holds condition) rawMessage := by
  have hmessage : messageOf json rawMessage = message := by rw [messageOf, hparse]
  rw [Testable, hmessage, hparse, hmeets, holds, hmeets]
  exact ⟨rfl, rfl⟩

/-- The last message of the batch that meets the condition. -/
def lastMatch (json : JsonLibrary) (test : Json → Bool) (queue : List Bytes)
    (found : Option Json) : Option Json :=
  queue.foldl (fun found rawMessage =>
    if test (messageOf json rawMessage) then some (messageOf json rawMessage) else found) found

def rejected (json : JsonLibrary) (test : Json → Bool) (queue : List Bytes) : List Bytes :=
  queue.filter fun rawMessage => !test (messageOf json rawMessage)

theorem findMessage_eq_none {queue : List Bytes}
    (hqueue : ∀ rawMessage ∈ queue, Testable json condition test rawMessage)
    (hnone : ∀ rawMessage ∈ queue, test (messageOf json rawMessage) = false) :
    findMessage json condition queue = .ok none := by
  induction queue with
  | nil => rfl
  | cons rawMessage queue ih =>
      obtain ⟨hparse, hcondition⟩ := hqueue rawMessage List.mem_cons_self
      have hfalse := hnone rawMessage List.mem_cons_self
      have hrest := ih (fun other hother => hqueue other (List.mem_cons_of_mem _ hother))
        fun other hother => hnone other (List.mem_cons_of_mem _ hother)
      simp [findMessage, hparse, hcondition, hfalse, hrest]

theorem exec_sortStopped {queue : List Bytes}
    (hqueue : ∀ rawMessage ∈ queue, Testable json condition test rawMessage)
    (found : Option Json) (s : XDapTcpClient) (hs : s.stoppedQueue = queue) :
    exec (sortStopped json condition queue found) s =
      (.ok (lastMatch json test queue found), { s with
        messageQueue := s.messageQueue ++ rejected json test queue
        stoppedQueue := [] }) := by
  induction queue generalizing found s with
  | nil =>
      cases s
      cases hs
      simp [sortStopped, lastMatch, rejected]
  | cons rawMessage queue ih =>
      obtain ⟨hparse, hcondition⟩ := hqueue rawMessage List.mem_cons_self
      have hrest : ∀ other ∈ queue, Testable json condition test other :=
        fun other hother => hqueue other (List.mem_cons_of_mem _ hother)
      cases htest : test (messageOf json rawMessage) with
      | true =>
          rw [htest] at hcondition
          simp only [sortStopped, exec_bind, hparse, liftJson_ok, exec_throwing_ok, hcondition,
            if_true, exec_pure, exec_modify]
          rw [ih hrest _ _ rfl]
          simp [lastMatch, rejected, htest]
      | false =>
          rw [htest] at hcondition
          simp only [sortStopped, exec_bind, hparse, liftJson_ok, exec_throwing_ok, hcondition,
            Bool.false_eq_true, if_false, exec_pure, exec_modify]
          rw [ih hrest _ _ rfl]
          simp [lastMatch, rejected, htest]

theorem testable_of_sortStopped {queue : List Bytes} {found found' : Option Json}
    {s s' : XDapTcpClient}
    (h : exec (sortStopped json condition queue found) s = (.ok found', s')) :
    ∀ rawMessage ∈ queue, Testable json condition (holds condition) rawMessage := by
  induction queue generalizing found s with
  | nil => exact fun _ hmem => absurd hmem List.not_mem_nil
  | cons rawMessage queue ih =>
      obtain ⟨message, s₁, hmessage, htested⟩ := exec_bind_eq_ok.mp h
      obtain ⟨hparse, rfl⟩ := exec_throwing_eq_ok.mp hmessage
      obtain ⟨meets, s₂, hcondition, hsorted⟩ := exec_bind_eq_ok.mp htested
      obtain ⟨hmeets, rfl⟩ := exec_throwing_eq_ok.mp hcondition
      obtain ⟨next, s₃, hnext⟩ : ∃ next s₃,
          exec (sortStopped json condition queue next) s₃ = (.ok found', s') := by
        cases meets with
        | true => exact ⟨_, _, hsorted⟩
        | false => exact ⟨_, _, hsorted⟩
      intro other hother
      rcases List.mem_cons.mp hother with rfl | hother
      · exact testable_holds (liftJson_eq_ok.mp hparse) hmeets
      · exact ih hnext other hother

theorem exec_sortStopped_eq_ok {found found' : Option Json} {s s' : XDapTcpClient}
    (h : exec (sortStopped json condition s.stoppedQueue found) s = (.ok found', s')) :
    found' = lastMatch json (holds condition) s.stoppedQueue found ∧ s' = { s with
      messageQueue := s.messageQueue ++ rejected json (holds condition) s.stoppedQueue
      stoppedQueue := [] } := by
  rw [exec_sortStopped (testable_of_sortStopped h) found s rfl] at h
  obtain ⟨hfound, hs⟩ := Prod.mk.inj h
  exact ⟨(Except.ok.inj hfound).symm, hs.symm⟩

theorem testable_of_findMessage {queue : List Bytes}
    (h : findMessage json condition queue = .ok none) :
    ∀ rawMessage ∈ queue, Testable json condition (holds condition) rawMessage ∧
      holds condition (messageOf json rawMessage) = false := by
  induction queue with
  | nil => exact fun _ hmem => absurd hmem List.not_mem_nil
  | cons rawMessage queue ih =>
      obtain ⟨message, hparse, h⟩ := bind_eq_ok.mp h
      obtain ⟨meets, hmeets, h⟩ := bind_eq_ok.mp h
      cases meets with
      | true => cases h
      | false =>
          obtain ⟨found, hfound, h⟩ := bind_eq_ok.mp h
          obtain rfl : found = none := by
            cases found with
            | none => rfl
            | some found => cases h
          intro other hother
          rcases List.mem_cons.mp hother with rfl | hother
          · have htestable := testable_holds (liftJson_eq_ok.mp hparse) hmeets
            refine ⟨htestable, ?_⟩
            have hmessage : messageOf json other = message := by
              rw [messageOf, liftJson_eq_ok.mp hparse]
            rw [hmessage, holds, hmeets]
          · exact ih hfound other hother

theorem exec_awaitMessage_last {s : XDapTcpClient} {last : List Bytes}
    {pending : List StreamChunk} {message : Json}
    (hcall : handleTcpSocket s.stream [] = (last, .ok pending)) (hs : s.stoppedQueue = [])
    (hlast : ∀ rawMessage ∈ last, Testable json condition test rawMessage)
    (hfound : lastMatch json test last none = some message) (fuel : Nat) :
    exec (awaitMessage json condition (fuel + 1)) s =
      (.ok message, { s with
        messageQueue := s.messageQueue ++ rejected json test last
        stoppedQueue := []
        stream := pending
        actions := s.actions ++ [.received last] }) := by
  rw [awaitMessage, exec_bind_of_ok (exec_receiveStopped hcall)]
  simp only [exec_bind, exec_get, hs, List.nil_append]
  rw [exec_sortStopped hlast none _ rfl, hfound]
  simp

theorem exec_awaitMessage_batch {s : XDapTcpClient} {batch : List Bytes}
    {pending : List StreamChunk} (hcall : handleTcpSocket s.stream [] = (batch, .ok pending))
    (hs : s.stoppedQueue = [])
    (hbatch : ∀ rawMessage ∈ batch, Testable json condition test rawMessage)
    (hnone : lastMatch json test batch none = none) (fuel : Nat) :
    exec (awaitMessage json condition (fuel + 1)) s =
      exec (awaitMessage json condition fuel) { s with
        messageQueue := s.messageQueue ++ rejected json test batch
        stoppedQueue := []
        stream := pending
        actions := s.actions ++ [.received batch] } := by
  rw [awaitMessage, exec_bind_of_ok (exec_receiveStopped hcall)]
  simp only [exec_bind, exec_get, hs, List.nil_append]
  rw [exec_sortStopped hbatch none _ rfl, hnone]

theorem lastMatch_of_none {queue : List Bytes}
    (hnone : ∀ rawMessage ∈ queue, test (messageOf json rawMessage) = false)
    (found : Option Json) : lastMatch json test queue found = found := by
  induction queue generalizing found with
  | nil => rfl
  | cons rawMessage queue ih =>
      have hfalse := hnone rawMessage List.mem_cons_self
      rw [lastMatch, List.foldl_cons, hfalse]
      exact ih (fun other hother => hnone other (List.mem_cons_of_mem _ hother)) found

theorem eq_false_of_lastMatch {queue : List Bytes} {found : Option Json}
    (h : lastMatch json test queue found = none) :
    found = none ∧ ∀ rawMessage ∈ queue, test (messageOf json rawMessage) = false := by
  induction queue generalizing found with
  | nil => exact ⟨h, fun _ hmem => absurd hmem List.not_mem_nil⟩
  | cons rawMessage queue ih =>
      obtain ⟨hfound, hqueue⟩ := ih h
      dsimp only at hfound
      split at hfound
      · cases hfound
      · next htest =>
          refine ⟨hfound, ?_⟩
          intro other hother
          rcases List.mem_cons.mp hother with rfl | hother
          · exact Bool.eq_false_iff.mpr htest
          · exact hqueue other hother

theorem lastMatch_of_single {before after : List Bytes} {answer : Bytes}
    (hanswer : test (messageOf json answer) = true)
    (hafter : ∀ rawMessage ∈ after, test (messageOf json rawMessage) = false)
    (found : Option Json) :
    lastMatch json test (before ++ answer :: after) found = some (messageOf json answer) := by
  rw [lastMatch, List.foldl_append, List.foldl_cons, hanswer]
  exact lastMatch_of_none hafter _

theorem rejected_of_none {queue : List Bytes}
    (hnone : ∀ rawMessage ∈ queue, test (messageOf json rawMessage) = false) :
    rejected json test queue = queue := by
  apply List.filter_eq_self.mpr
  intro rawMessage hmem
  simp [hnone rawMessage hmem]

theorem rejected_append (front rest : List Bytes) :
    rejected json test (front ++ rest) = rejected json test front ++ rejected json test rest :=
  List.filter_append _ _

theorem rejected_of_single {before after : List Bytes} {answer : Bytes}
    (hnone : ∀ rawMessage ∈ before ++ after, test (messageOf json rawMessage) = false)
    (hanswer : test (messageOf json answer) = true) :
    rejected json test (before ++ answer :: after) = before ++ after := by
  have hskip : rejected json test (answer :: after) = rejected json test after :=
    List.filter_cons_of_neg (by simp [hanswer])
  rw [rejected_append, hskip, ← rejected_append, rejected_of_none hnone]

/-- Batches without a match, and one with a match. -/
theorem exec_awaitMessage {batches : List (List Bytes)} {last : List Bytes}
    {pending : List StreamChunk} {message : Json} {fuel : Nat} {s : XDapTcpClient}
    (hstream : Batches s.stream (batches ++ [last]) pending) (hs : s.stoppedQueue = [])
    (hmessages : ∀ rawMessage ∈ batches.flatten ++ last, Testable json condition test rawMessage)
    (hnone : ∀ rawMessage ∈ batches.flatten, test (messageOf json rawMessage) = false)
    (hfound : lastMatch json test last none = some message) (hfuel : batches.length < fuel) :
    exec (awaitMessage json condition fuel) s =
      (.ok message, { s with
        messageQueue := s.messageQueue ++ (batches.flatten ++ rejected json test last)
        stoppedQueue := []
        stream := pending
        actions := s.actions ++ (batches ++ [last]).map .received }) := by
  induction batches generalizing s fuel with
  | nil =>
      obtain ⟨fuel, rfl⟩ := Nat.exists_eq_succ_of_ne_zero (Nat.ne_of_gt hfuel)
      cases hstream with
      | cons hcall hrest =>
          cases hrest
          rw [exec_awaitMessage_last hcall hs (by simpa using hmessages) hfound]
          simp
  | cons batch batches ih =>
      obtain ⟨fuel, rfl⟩ := Nat.exists_eq_succ_of_ne_zero (Nat.ne_of_gt (Nat.lt_trans
        (Nat.zero_lt_succ _) hfuel))
      cases hstream with
      | cons hcall hrest =>
          have hbatch : ∀ rawMessage ∈ batch, test (messageOf json rawMessage) = false :=
            fun rawMessage hmem => hnone rawMessage (by simp [hmem])
          rw [exec_awaitMessage_batch hcall hs
            (fun rawMessage hmem => hmessages rawMessage (by simp [hmem]))
            (lastMatch_of_none hbatch none)]
          rw [ih hrest rfl (fun rawMessage hmem => hmessages rawMessage (by
              simp only [List.flatten_cons, List.append_assoc, List.mem_append] at hmem ⊢
              exact .inr hmem))
            (fun rawMessage hmem => hnone rawMessage (by
              simp only [List.flatten_cons, List.mem_append]
              exact .inr hmem))
            (Nat.lt_of_succ_lt_succ hfuel)]
          simp [rejected_of_none hbatch]

/-! What a wait that is over has done. -/

theorem findMessage_eq_some {queue left : List Bytes} {message : Json}
    (h : findMessage json condition queue = .ok (some (message, left))) :
    ∃ before rawMessage after, queue = before ++ rawMessage :: after ∧ left = before ++ after ∧
      (∀ other ∈ before, holds condition (messageOf json other) = false) ∧
      messageOf json rawMessage = message ∧ holds condition message = true := by
  induction queue generalizing left with
  | nil => cases h
  | cons rawMessage queue ih =>
      obtain ⟨front, hparse, h⟩ := bind_eq_ok.mp h
      obtain ⟨meets, hmeets, h⟩ := bind_eq_ok.mp h
      have hfront : messageOf json rawMessage = front := by
        rw [messageOf, liftJson_eq_ok.mp hparse]
      cases meets with
      | true =>
          cases h
          exact ⟨[], rawMessage, queue, rfl, rfl, by simp, hfront, by rw [holds, hmeets]⟩
      | false =>
          obtain ⟨found, hfound, h⟩ := bind_eq_ok.mp h
          cases found with
          | none => cases h
          | some found =>
              cases h
              obtain ⟨before, other, after, rfl, hleft, hbefore, hmessage, hholds⟩ := ih hfound
              refine ⟨rawMessage :: before, other, after, rfl, by rw [hleft]; rfl, ?_, hmessage,
                hholds⟩
              intro earlier hearlier
              rcases List.mem_cons.mp hearlier with rfl | hearlier
              · rw [hfront, holds, hmeets]
              · exact hbefore earlier hearlier

theorem lastMatch_append (front rest : List Bytes) (found : Option Json) :
    lastMatch json test (front ++ rest) found =
      lastMatch json test rest (lastMatch json test front found) :=
  List.foldl_append

theorem lastMatch_eq_some {queue : List Bytes} {message : Json}
    (h : lastMatch json test queue none = some message) :
    ∃ rawMessage ∈ queue, messageOf json rawMessage = message ∧ test message = true := by
  induction queue using List.reverseRecOn with
  | nil => cases h
  | append_singleton queue rawMessage ih =>
      rw [lastMatch_append, lastMatch, List.foldl_cons, List.foldl_nil] at h
      split at h
      · next htest =>
          cases h
          exact ⟨rawMessage, by simp, rfl, htest⟩
      · obtain ⟨other, hother, hmessage, htest⟩ := ih h
        exact ⟨other, by simp [hother], hmessage, htest⟩

/-- Batches have been read up to the first that holds a match, the last of whose matches
is the message. -/
def Awaited (json : JsonLibrary) (condition : MessageCondition) (s : XDapTcpClient)
    (message : Json) (s' : XDapTcpClient) : Prop :=
  ∃ (batches : List (List Bytes)) (last : List Bytes) (pending : List StreamChunk),
    Batches s.stream (batches ++ [last]) pending ∧
    (∀ rawMessage ∈ batches.flatten, holds condition (messageOf json rawMessage) = false) ∧
    lastMatch json (holds condition) last none = some message ∧
    s' = { s with
      messageQueue := s.messageQueue ++ (batches.flatten ++ rejected json (holds condition) last)
      stoppedQueue := []
      stream := pending
      actions := s.actions ++ (batches ++ [last]).map .received }

/-- A wait that reads ends with the first batch that holds a match. -/
theorem awaitMessage_batches {fuel : Nat} {s s' : XDapTcpClient} {message : Json}
    (h : exec (awaitMessage json condition fuel) s = (.ok message, s'))
    (hs : s.stoppedQueue = []) : Awaited json condition s message s' := by
  induction fuel generalizing s with
  | zero => cases h
  | succ fuel ih =>
      rcases hcall : handleTcpSocket s.stream [] with ⟨batch, result⟩
      rw [awaitMessage] at h
      cases result with
      | error stop =>
          rw [exec_bind_of_error (exec_receiveStopped_stop hcall)] at h
          cases h
      | ok pending =>
          rw [exec_bind_of_ok (exec_receiveStopped hcall), exec_bind_of_ok (exec_get _)] at h
          obtain ⟨found, sorted, hsort, hrest⟩ := exec_bind_eq_ok.mp h
          obtain ⟨hfound, rfl⟩ := exec_sortStopped_eq_ok hsort
          simp only [hs, List.nil_append] at hfound hrest
          cases found with
          | some message' =>
              cases hrest
              exact ⟨[], batch, pending, .cons hcall (.nil _), by simp, hfound.symm, by simp⟩
          | none =>
              obtain ⟨-, hbatch⟩ := eq_false_of_lastMatch hfound.symm
              obtain ⟨batches, last, pending', hbatches, hnone, hlast, rfl⟩ := ih hrest rfl
              refine ⟨batch :: batches, last, pending', .cons hcall hbatches, ?_, hlast, ?_⟩
              · intro rawMessage hmem
                rcases List.mem_append.mp hmem with hmem | hmem
                · exact hbatch rawMessage hmem
                · exact hnone rawMessage hmem
              · simp [rejected_of_none hbatch]

/-- The message waited for is the first match in the queue, or it is the last match in
the batch that ends the wait. -/
theorem waitForMessage_batches {s s' : XDapTcpClient} {message : Json}
    (h : exec (waitForMessage json condition) s = (.ok message, s')) (hs : s.stoppedQueue = []) :
    (∃ before rawMessage after, s.messageQueue = before ++ rawMessage :: after ∧
        (∀ other ∈ before, holds condition (messageOf json other) = false) ∧
        messageOf json rawMessage = message ∧ holds condition message = true ∧
        s' = { s with messageQueue := before ++ after }) ∨
      (∀ rawMessage ∈ s.messageQueue, holds condition (messageOf json rawMessage) = false) ∧
        Awaited json condition s message s' := by
  rw [waitForMessage, exec_bind_of_ok (exec_get s)] at h
  obtain ⟨found, s₁, hfind, hrest⟩ := exec_bind_eq_ok.mp h
  obtain ⟨hfind, rfl⟩ := exec_throwing_eq_ok.mp hfind
  cases found with
  | some found =>
      obtain ⟨message', left⟩ := found
      obtain ⟨before, rawMessage, after, hqueue, rfl, hbefore, hmessage, hholds⟩ :=
        findMessage_eq_some hfind
      cases hrest
      exact .inl ⟨before, rawMessage, after, hqueue, hbefore, hmessage, hholds, rfl⟩
  | none =>
      right
      exact ⟨fun rawMessage hmem => (testable_of_findMessage hfind rawMessage hmem).2,
        awaitMessage_batches hrest hs⟩

theorem waitForMessage_eq_ok {s s' : XDapTcpClient} {message : Json}
    (h : exec (waitForMessage json condition) s = (.ok message, s')) (hs : s.stoppedQueue = []) :
    (∃ before rawMessage after, s.messageQueue = before ++ rawMessage :: after ∧
        messageOf json rawMessage = message ∧ holds condition message = true ∧
        s' = { s with messageQueue := before ++ after }) ∨
      (∀ rawMessage ∈ s.messageQueue, holds condition (messageOf json rawMessage) = false) ∧
        ∃ (batches : List (List Bytes)) (pending : List StreamChunk),
          lastMatch json (holds condition) batches.flatten none = some message ∧
          s' = { s with
            messageQueue := s.messageQueue ++ rejected json (holds condition) batches.flatten
            stoppedQueue := []
            stream := pending
            actions := s.actions ++ batches.map .received } := by
  rcases waitForMessage_batches h hs with
    ⟨before, rawMessage, after, hqueue, -, hmessage, hholds, rfl⟩ |
    ⟨hqueue, batches, last, pending, -, hnone, hlast, rfl⟩
  · exact .inl ⟨before, rawMessage, after, hqueue, hmessage, hholds, rfl⟩
  · refine .inr ⟨hqueue, batches ++ [last], pending, ?_, ?_⟩
    · rw [List.flatten_append, List.flatten_singleton, lastMatch_append, lastMatch_of_none hnone,
        hlast]
    · rw [List.flatten_append, List.flatten_singleton, rejected_append, rejected_of_none hnone]

theorem holds_of_waitForMessage {s s' : XDapTcpClient} {message : Json}
    (h : exec (waitForMessage json condition) s = (.ok message, s')) (hs : s.stoppedQueue = []) :
    holds condition message = true := by
  rcases waitForMessage_eq_ok h hs with
    ⟨_, _, _, -, -, hholds, -⟩ | ⟨-, _, _, hlast, -⟩
  · exact hholds
  · obtain ⟨_, -, -, hholds⟩ := lastMatch_eq_some hlast
    exact hholds

end Condition

end XeusZmq.DapClientWaiting
