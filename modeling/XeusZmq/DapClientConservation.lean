import XeusZmq.DapClientReplies

/-!
Which message `wait_for_message` takes, and which it leaves. It loses messages exactly
when the batch that ends the wait holds several matches.
-/

namespace XeusZmq.DapClientConservation

open XeusZmq.Values
open XeusZmq.DapFraming
open XeusZmq.Commands
open XeusZmq.DapClient
open XeusZmq.DapClientWaiting
open XeusZmq.DapClientActions
open XeusZmq.DapClientReplies (frontendThreads sentBy threadsConfig)
open XeusZmq.DapClientQueue (stoppedAll threadsResponse waiting)
open XeusZmq.TabledJson

/-- The first match among what the queue held and what has been read is taken out, and
the queue is left with all the rest, in order. -/
def Conserves (json : JsonLibrary) (condition : MessageCondition) (s s' : XDapTcpClient)
    (message : Json) : Prop :=
  ∃ read before rawMessage after,
    receivedMessages s'.actions = receivedMessages s.actions ++ read ∧
    s.messageQueue ++ read = before ++ rawMessage :: after ∧
    (∀ other ∈ before, holds condition (messageOf json other) = false) ∧
    messageOf json rawMessage = message ∧ holds condition message = true ∧
    s'.messageQueue = before ++ after ∧ s'.stoppedQueue = []

def matching (json : JsonLibrary) (condition : MessageCondition) (queue : List Bytes) :
    List Bytes :=
  queue.filter fun rawMessage => holds condition (messageOf json rawMessage)

/-- There is a match in the queue, or just one in the first batch with a match. -/
def MatchesOnce (json : JsonLibrary) (condition : MessageCondition) (s : XDapTcpClient) : Prop :=
  matching json condition s.messageQueue ≠ [] ∨
    ∀ batches last pending, Batches s.stream (batches ++ [last]) pending →
      (∀ batch ∈ batches, matching json condition batch = []) →
        matching json condition last ≠ [] → (matching json condition last).length = 1

section Conserves

variable {json : JsonLibrary} {condition : MessageCondition} {s s' : XDapTcpClient} {message : Json}

theorem matching_eq_nil_iff {queue : List Bytes} :
    matching json condition queue = [] ↔
      ∀ rawMessage ∈ queue, holds condition (messageOf json rawMessage) = false := by
  simp [matching]

theorem length_rejected (queue : List Bytes) :
    (rejected json (holds condition) queue).length +
      (matching json condition queue).length = queue.length := by
  rw [Nat.add_comm]
  exact (List.length_eq_length_filter_add _).symm

theorem matching_ne_nil_of_lastMatch {last : List Bytes}
    (h : lastMatch json (holds condition) last none = some message) :
    matching json condition last ≠ [] := by
  obtain ⟨rawMessage, hmem, rfl, hholds⟩ := lastMatch_eq_some h
  exact List.ne_nil_of_mem (List.mem_filter.mpr ⟨hmem, hholds⟩)

/-- Where the one match of a batch is. -/
theorem eq_append_of_matching {last : List Bytes} (h : (matching json condition last).length = 1) :
    ∃ before rawMessage after, last = before ++ rawMessage :: after ∧
      (∀ other ∈ before ++ after, holds condition (messageOf json other) = false) ∧
      holds condition (messageOf json rawMessage) = true := by
  obtain ⟨rawMessage, hsingle⟩ := List.length_eq_one_iff.mp h
  obtain ⟨before, after, rfl, hbefore, hholds, hafter⟩ := List.filter_eq_cons_iff.mp hsingle
  refine ⟨before, rawMessage, after, rfl, ?_, hholds⟩
  intro other hother
  rcases List.mem_append.mp hother with hother | hother
  · exact Bool.eq_false_iff.mpr (hbefore other hother)
  · exact Bool.eq_false_iff.mpr (List.filter_eq_nil_iff.mp hafter other hother)

/-- The batches up to the first with a match are those that the stream delivers. -/
theorem eq_of_batches {stream pending pending' : List StreamChunk}
    {batches batches' : List (List Bytes)} {last last' : List Bytes}
    (h : Batches stream (batches ++ [last]) pending)
    (h' : Batches stream (batches' ++ [last']) pending')
    (hnone : ∀ batch ∈ batches, matching json condition batch = [])
    (hnone' : ∀ batch ∈ batches', matching json condition batch = [])
    (hlast : matching json condition last ≠ []) (hlast' : matching json condition last' ≠ []) :
    batches = batches' ∧ last = last' := by
  induction batches generalizing stream batches' with
  | nil =>
      cases h with
      | cons hcall _ =>
          cases batches' with
          | nil =>
              cases h' with
              | cons hcall' _ => exact ⟨rfl, (Prod.mk.inj (hcall.symm.trans hcall')).1⟩
          | cons batch' batches' =>
              cases h' with
              | cons hcall' _ =>
                  obtain rfl := (Prod.mk.inj (hcall.symm.trans hcall')).1
                  exact absurd (hnone' last List.mem_cons_self) hlast
  | cons batch batches ih =>
      cases h with
      | cons hcall hrest =>
          cases batches' with
          | nil =>
              cases h' with
              | cons hcall' _ =>
                  obtain rfl := (Prod.mk.inj (hcall.symm.trans hcall')).1
                  exact absurd (hnone batch List.mem_cons_self) hlast'
          | cons batch' batches' =>
              cases h' with
              | cons hcall' hrest' =>
                  obtain ⟨rfl, hpending⟩ := Prod.mk.inj (hcall.symm.trans hcall')
                  obtain rfl := Except.ok.inj hpending
                  obtain ⟨rfl, rfl⟩ := ih hrest hrest'
                    (fun other hother => hnone other (List.mem_cons_of_mem _ hother))
                    fun other hother => hnone' other (List.mem_cons_of_mem _ hother)
                  exact ⟨rfl, rfl⟩

/-- What a wait leaves has lost as many messages as the last batch has matches. -/
theorem conserves_iff (hs : s.stoppedQueue = [])
    (hwait : exec (waitForMessage json condition) s = (.ok message, s')) :
    Conserves json condition s s' message ↔ MatchesOnce json condition s := by
  rcases waitForMessage_batches hwait hs with
    ⟨before, rawMessage, after, hqueue, hbefore, hmessage, hholds, rfl⟩ |
    ⟨hqueue, batches, last, pending, hbatches, hnone, hlast, rfl⟩
  · have hconserves :
        Conserves json condition s { s with messageQueue := before ++ after } message :=
      ⟨[], before, rawMessage, after, by simp, by simp [hqueue], hbefore, hmessage, hholds, rfl,
        hs⟩
    have hmatch : matching json condition s.messageQueue ≠ [] := by
      rw [hqueue]
      exact List.ne_nil_of_mem (List.mem_filter.mpr ⟨by simp, hmessage ▸ hholds⟩)
    exact iff_of_true hconserves (.inl hmatch)
  · have hbatch : ∀ batch ∈ batches, matching json condition batch = [] := fun batch hmem =>
      matching_eq_nil_iff.mpr fun rawMessage hraw =>
        hnone rawMessage (List.mem_flatten_of_mem hmem hraw)
    constructor
    · rintro ⟨read, before, rawMessage, after, hread, hsplit, -, -, -, hleft, -⟩
      right
      intro batches' last' pending' hbatches' hnone' hlast'
      obtain ⟨-, rfl⟩ := eq_of_batches hbatches hbatches' hbatch hnone'
        (matching_ne_nil_of_lastMatch hlast) hlast'
      -- One message less than have been there, and all matches of the batch are gone.
      obtain rfl : read = batches.flatten ++ last := by
        rw [receivedMessages_append, receivedMessages_received, List.flatten_append,
          List.flatten_singleton] at hread
        exact (List.append_cancel_left hread).symm
      have hbefore := congrArg List.length hsplit
      have hafter := congrArg List.length hleft
      have hlost := @length_rejected json condition last
      simp only [List.length_append, List.length_cons] at hbefore hafter
      omega
    · rintro (hmatch | honce)
      · exact absurd (matching_eq_nil_iff.mpr hqueue) hmatch
      · obtain ⟨before, rawMessage, after, rfl, hothers, hholds⟩ := eq_append_of_matching
          (honce batches last pending hbatches hbatch (matching_ne_nil_of_lastMatch hlast))
        have hafter : ∀ other ∈ after, holds condition (messageOf json other) = false :=
          fun other hother => hothers other (List.mem_append_right _ hother)
        rw [lastMatch_of_single hholds hafter] at hlast
        obtain rfl := Option.some.inj hlast
        refine ⟨batches.flatten ++ (before ++ rawMessage :: after),
          s.messageQueue ++ (batches.flatten ++ before), rawMessage, after, ?_, by simp, ?_, rfl,
          hholds, ?_, rfl⟩
        · rw [receivedMessages_append, receivedMessages_received, List.flatten_append,
            List.flatten_singleton]
        · intro other hother
          simp only [List.mem_append] at hother
          rcases hother with hother | hother | hother
          · exact hqueue other hother
          · exact hnone other hother
          · exact hothers other (List.mem_append_left _ hother)
        · rw [rejected_of_single hothers hholds]
          simp only [List.append_assoc]

end Conserves

/-- A wait loses nothing, whatever the queue and the batches. -/
def AlwaysConserves (json : JsonLibrary) (condition : MessageCondition) : Prop :=
  ∀ s s' message, s.stoppedQueue = [] →
    exec (waitForMessage json condition) s = (.ok message, s') →
      Conserves json condition s s' message

/-- An event behind the response, in one chunk. -/
def answerAndStop : XDapTcpClient :=
  waiting [] [⟨[0, 1, 2, 3, 4], (sentBy threadsResponse).content ++ (sentBy stoppedAll).content⟩]

/-- Two responses to threads requests, in one chunk. -/
def twoAnswers : XDapTcpClient :=
  waiting []
    [⟨[0, 1, 2, 3, 4], (sentBy frontendThreads).content ++ (sentBy threadsResponse).content⟩]

set_option maxRecDepth 20000 in
theorem conserves_answerAndStop : ∃ s',
    exec (waitForMessage threadsConfig.json isThreads) answerAndStop = (.ok threadsResponse, s') ∧
      Conserves threadsConfig.json isThreads answerAndStop s' threadsResponse := by
  refine ⟨_, rfl, (conserves_iff rfl rfl).mpr (.inr ?_)⟩
  have hread :
      Batches answerAndStop.stream ([] ++ [[textOf threadsResponse, textOf stoppedAll]]) [] :=
    .cons rfl (.nil _)
  intro batches last pending hbatches hnone hlast
  obtain ⟨-, rfl⟩ := eq_of_batches hread hbatches (by simp) hnone (List.cons_ne_nil _ _) hlast
  rfl

set_option maxRecDepth 20000 in
theorem not_alwaysConserves : ¬ AlwaysConserves threadsConfig.json isThreads := by
  intro h
  obtain ⟨s', hwait, hread, hleft⟩ : ∃ s',
      exec (waitForMessage threadsConfig.json isThreads) twoAnswers = (.ok threadsResponse, s') ∧
        receivedMessages s'.actions = [textOf frontendThreads, textOf threadsResponse] ∧
        s'.messageQueue = [] := ⟨_, rfl, rfl, rfl⟩
  obtain ⟨read, before, rawMessage, after, hreceived, hsplit, -, -, -, hrest, -⟩ :=
    h twoAnswers s' threadsResponse rfl hwait
  rw [hread] at hreceived
  obtain rfl : _ = read := hreceived
  have hbefore := congrArg List.length hsplit
  rw [hleft] at hrest
  obtain ⟨rfl, rfl⟩ := List.append_eq_nil_iff.mp hrest.symm
  cases hbefore

end XeusZmq.DapClientConservation
