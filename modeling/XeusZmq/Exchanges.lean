import XeusZmq.Runs

/-!
Requests and responses over one stream. Responses answer the requests in the order in
which these have been sent; other messages answer none.
-/

namespace XeusZmq.Exchanges

open XeusZmq.Runs

inductive Exchange (ρ μ : Type*)
  | sent (request : ρ)
  | received (message : μ)

/-- The requests that have been answered, each with its response, and those that have
not. -/
structure Account (ρ μ : Type*) where
  matched : List (ρ × μ)
  outstanding : List ρ

section Exchanges

variable {ρ μ : Type*}

def requests (log : List (Exchange ρ μ)) : List ρ :=
  log.filterMap fun exchange =>
    match exchange with
    | .sent request => some request
    | .received _ => none

namespace Account

def init : Account ρ μ := ⟨[], []⟩

def answer (self : Account ρ μ) (message : μ) : Account ρ μ :=
  match self.outstanding with
  | [] => self
  | request :: rest => ⟨self.matched ++ [(request, message)], rest⟩

def step (isResponse : μ → Bool) (self : Account ρ μ) : Exchange ρ μ → Account ρ μ
  | .sent request => { self with outstanding := self.outstanding ++ [request] }
  | .received message => if isResponse message then self.answer message else self

/-- The answered requests of one kind. -/
def matchedBy (self : Account ρ μ) (mine : ρ → Bool) : List (ρ × μ) :=
  self.matched.filter fun pair => mine pair.1

def responsesTo (self : Account ρ μ) (mine : ρ → Bool) : List μ :=
  (self.matchedBy mine).map Prod.snd

def requestsBy (self : Account ρ μ) (mine : ρ → Bool) : List ρ :=
  (self.matchedBy mine).map Prod.fst ++ self.outstanding.filter mine

end Account

/-- A response answers the request that has been outstanding longest. -/
def AnswersFirst (isResponse : μ → Bool) (answers : ρ → μ → Prop) (account : Account ρ μ) :
    Exchange ρ μ → Prop
  | .sent _ => True
  | .received message => isResponse message = true →
      ∃ request rest, account.outstanding = request :: rest ∧ answers request message

variable (isResponse : μ → Bool) (answers : ρ → μ → Prop)

def account (log : List (Exchange ρ μ)) : Account ρ μ :=
  run (Account.step isResponse) .init log

def InOrder (log : List (Exchange ρ μ)) : Prop :=
  Guarded (Account.step isResponse) (AnswersFirst isResponse answers) .init log

variable {isResponse answers}

theorem account_append (log more : List (Exchange ρ μ)) :
    account isResponse (log ++ more) =
      run (Account.step isResponse) (account isResponse log) more :=
  run_append _ _ log more

theorem account_sent (log : List (Exchange ρ μ)) (request : ρ) :
    account isResponse (log ++ [.sent request]) =
      ⟨(account isResponse log).matched, (account isResponse log).outstanding ++ [request]⟩ :=
  account_append log _

theorem InOrder.front {log more : List (Exchange ρ μ)}
    (h : InOrder isResponse answers (log ++ more)) : InOrder isResponse answers log :=
  Guarded.front h

/-- What is still to come is in order too. -/
theorem InOrder.rest {log more : List (Exchange ρ μ)}
    (h : InOrder isResponse answers (log ++ more)) :
    Guarded (Account.step isResponse) (AnswersFirst isResponse answers)
      (account isResponse log) more := by
  rintro before event after rfl
  rw [← account_append]
  exact h (log ++ before) event after (by simp)

theorem Account.requestsBy_step (self : Account ρ μ) (mine : ρ → Bool)
    (exchange : Exchange ρ μ) :
    (self.step isResponse exchange).requestsBy mine =
      self.requestsBy mine ++ (requests [exchange]).filter mine := by
  cases exchange with
  | sent request => simp [requestsBy, matchedBy, step, requests]
  | received message =>
      simp only [step, requests, List.filterMap_cons, List.filterMap_nil, List.filter_nil,
        List.append_nil]
      split
      · cases houtstanding : self.outstanding with
        | nil => simp [answer, houtstanding]
        | cons request rest =>
            cases hmine : mine request with
            | true => simp [requestsBy, matchedBy, answer, houtstanding, hmine]
            | false => simp [requestsBy, matchedBy, answer, houtstanding, hmine]
      · rfl

theorem requestsBy_account (isResponse : μ → Bool) (mine : ρ → Bool) (log : List (Exchange ρ μ)) :
    (account isResponse log).requestsBy mine = (requests log).filter mine := by
  induction log using List.reverseRecOn with
  | nil => rfl
  | append_singleton log exchange ih =>
      rw [account_append, run_cons, run_nil, Account.requestsBy_step, ih, requests, requests,
        requests, List.filterMap_append, List.filter_append]

theorem answers_of_mem_matched {log : List (Exchange ρ μ)} (h : InOrder isResponse answers log)
    {pair : ρ × μ} (hpair : pair ∈ (account isResponse log).matched) :
    answers pair.1 pair.2 := by
  induction log using List.reverseRecOn with
  | nil => cases hpair
  | append_singleton log exchange ih =>
      rw [account_append, run_cons, run_nil] at hpair
      cases exchange with
      | sent request => exact ih h.front hpair
      | received message =>
          have hlast : AnswersFirst isResponse answers (account isResponse log)
            (.received message) := Guarded.last h
          rw [Account.step] at hpair
          split at hpair
          · next hresponse =>
              obtain ⟨request, rest, houtstanding, hanswers⟩ := hlast hresponse
              rw [Account.answer, houtstanding] at hpair
              rcases List.mem_append.mp hpair with hpair | hpair
              · exact ih h.front hpair
              · rw [List.mem_singleton.mp hpair]
                exact hanswers
          · exact ih h.front hpair

/-- The responses to the requests of one kind, by number. -/
theorem answers_of_getElem? {log : List (Exchange ρ μ)} (h : InOrder isResponse answers log)
    {mine : ρ → Bool} {i : Nat} {message : μ}
    (hmessage : ((account isResponse log).responsesTo mine)[i]? = some message) :
    ∃ request, ((requests log).filter mine)[i]? = some request ∧ answers request message := by
  rw [Account.responsesTo, List.getElem?_map, Option.map_eq_some_iff] at hmessage
  obtain ⟨pair, hpair, rfl⟩ := hmessage
  refine ⟨pair.1, ?_, answers_of_mem_matched h
    (List.mem_filter.mp (List.mem_of_getElem? hpair)).1⟩
  obtain ⟨hlength, -⟩ := List.getElem?_eq_some_iff.mp hpair
  rw [← requestsBy_account isResponse, Account.requestsBy,
    List.getElem?_append_left (by simpa using hlength), List.getElem?_map, hpair]
  rfl

theorem exists_answers_of_mem {log : List (Exchange ρ μ)} (h : InOrder isResponse answers log)
    {mine : ρ → Bool} {front rest : List μ} {message : μ}
    (hsplit : (account isResponse log).responsesTo mine = front ++ rest)
    (hmessage : message ∈ rest) :
    ∃ request ∈ ((requests log).filter mine).drop front.length, answers request message := by
  obtain ⟨i, hi⟩ := List.mem_iff_getElem?.mp hmessage
  have hget : ((account isResponse log).responsesTo mine)[front.length + i]? = some message := by
    rw [hsplit, List.getElem?_append_right (Nat.le_add_right _ _), Nat.add_sub_cancel_left, hi]
  obtain ⟨request, hrequest, hanswers⟩ := answers_of_getElem? h hget
  refine ⟨request, List.mem_iff_getElem?.mpr ⟨i, ?_⟩, hanswers⟩
  rw [List.getElem?_drop, hrequest]

theorem mem_drop_of_outstanding {log : List (Exchange ρ μ)} {mine : ρ → Bool}
    {front rest : List μ} (hsplit : (account isResponse log).responsesTo mine = front ++ rest)
    {request : ρ} (hrequest : request ∈ (account isResponse log).outstanding)
    (hmine : mine request = true) :
    request ∈ ((requests log).filter mine).drop front.length := by
  have hlength : front.length ≤ ((account isResponse log).matchedBy mine).length := by
    have hresponses := congrArg List.length hsplit
    rw [Account.responsesTo, List.length_map, List.length_append] at hresponses
    omega
  rw [← requestsBy_account isResponse, Account.requestsBy,
    List.drop_append_of_le_length (by simpa using hlength)]
  exact List.mem_append_right _ (List.mem_filter.mpr ⟨hrequest, hmine⟩)

theorem length_responsesTo_le (isResponse : μ → Bool) (mine : ρ → Bool)
    (log : List (Exchange ρ μ)) :
    ((account isResponse log).responsesTo mine).length ≤ ((requests log).filter mine).length := by
  rw [← requestsBy_account isResponse, Account.requestsBy, Account.responsesTo,
    List.length_append, List.length_map, List.length_map]
  exact Nat.le_add_right _ _

theorem Account.matched_step (isResponse : μ → Bool) (self : Account ρ μ)
    (exchange : Exchange ρ μ) : self.matched <+: (self.step isResponse exchange).matched := by
  cases exchange with
  | sent request => exact List.prefix_rfl
  | received message =>
      rw [step]
      split
      · rw [answer]
        split
        · exact List.prefix_rfl
        · exact List.prefix_append _ _
      · exact List.prefix_rfl

theorem responsesTo_append (mine : ρ → Bool) (log more : List (Exchange ρ μ)) :
    (account isResponse log).responsesTo mine <+:
      (account isResponse (log ++ more)).responsesTo mine := by
  rw [account_append]
  generalize account isResponse log = self
  induction more generalizing self with
  | nil => exact List.prefix_rfl
  | cons exchange more ih =>
      have hstep := ((self.matched_step isResponse exchange).filter
        fun pair => mine pair.1).map Prod.snd
      exact hstep.trans (ih _)

/-! What messages that are received do to an account, if those that answer requests of
one kind can be told. -/

section Received

variable {mine : ρ → Bool} {test : μ → Bool}

/-- The responses to requests of the kind are those that pass the test. -/
def Tells (isResponse : μ → Bool) (answers : ρ → μ → Prop) (mine : ρ → Bool) (test : μ → Bool)
    (outstanding : List ρ) : Prop :=
  ∀ request ∈ outstanding, ∀ message, isResponse message = true → answers request message →
    test message = mine request

theorem run_received {self : Account ρ μ} {messages : List μ}
    (h : Guarded (Account.step isResponse) (AnswersFirst isResponse answers) self
      (messages.map .received)) (htells : Tells isResponse answers mine test self.outstanding) :
    (run (Account.step isResponse) self (messages.map .received)).responsesTo mine =
        self.responsesTo mine ++
          messages.filter (fun message => isResponse message && test message) ∧
      (run (Account.step isResponse) self (messages.map .received)).outstanding <:+
        self.outstanding ∧
      ((run (Account.step isResponse) self (messages.map .received)).outstanding.filter
          mine).length +
        (messages.filter fun message => isResponse message && test message).length =
          (self.outstanding.filter mine).length := by
  induction messages generalizing self with
  | nil => simp
  | cons message messages ih =>
      obtain ⟨hfirst, hrest⟩ := guarded_cons.mp h
      rw [List.map_cons, run_cons]
      cases hresponse : isResponse message with
      | false =>
          have hsame : self.step isResponse (.received message) = self := by
            simp [Account.step, hresponse]
          rw [hsame] at hrest ⊢
          simpa [hresponse] using ih hrest htells
      | true =>
          obtain ⟨request, rest, houtstanding, hanswers⟩ := hfirst hresponse
          have hstep : self.step isResponse (.received message) =
              ⟨self.matched ++ [(request, message)], rest⟩ := by
            simp [Account.step, Account.answer, hresponse, houtstanding]
          have htest := htells request (by simp [houtstanding]) message hresponse hanswers
          rw [hstep] at hrest ⊢
          obtain ⟨hresponses, hsuffix, hcount⟩ := ih hrest fun other hother =>
            htells other (by simp [houtstanding, hother])
          refine ⟨?_, houtstanding ▸ hsuffix.trans (List.suffix_cons request rest), ?_⟩
          · rw [hresponses]
            cases hmine : mine request with
            | true => simp [Account.responsesTo, Account.matchedBy, hmine, hresponse, htest]
            | false => simp [Account.responsesTo, Account.matchedBy, hmine, hresponse, htest]
          · rw [houtstanding]
            cases hmine : mine request with
            | true =>
                simp only [List.filter_cons, hresponse, htest, hmine, Bool.and_true, if_true,
                  List.length_cons]
                exact congrArg Nat.succ hcount
            | false =>
                simpa [List.filter_cons, hresponse, htest, hmine] using hcount

/-- A request that none of the messages answers stays the last one. -/
theorem run_received_last {self : Account ρ μ} {messages : List μ} {front : List ρ} {request : ρ}
    (h : Guarded (Account.step isResponse) (AnswersFirst isResponse answers) self
      (messages.map .received)) (hlast : self.outstanding = front ++ [request])
    (hnone : ∀ message ∈ messages, ¬ answers request message) :
    ∃ front', (run (Account.step isResponse) self (messages.map .received)).outstanding =
      front' ++ [request] := by
  induction messages generalizing self front with
  | nil => exact ⟨front, hlast⟩
  | cons message messages ih =>
      obtain ⟨hfirst, hrest⟩ := guarded_cons.mp h
      have hlater : ∀ other ∈ messages, ¬ answers request other := fun other hother =>
        hnone other (List.mem_cons_of_mem _ hother)
      rw [List.map_cons, run_cons]
      cases hresponse : isResponse message with
      | false =>
          have hsame : self.step isResponse (.received message) = self := by
            simp [Account.step, hresponse]
          rw [hsame] at hrest ⊢
          exact ih hrest hlast hlater
      | true =>
          obtain ⟨first, rest, houtstanding, hanswers⟩ := hfirst hresponse
          rw [hlast] at houtstanding
          cases front with
          | nil =>
              obtain rfl := (List.cons.inj houtstanding).1
              exact absurd hanswers (hnone message List.mem_cons_self)
          | cons other front =>
              obtain ⟨rfl, rfl⟩ := List.cons.inj houtstanding
              have hstep : self.step isResponse (.received message) =
                  ⟨self.matched ++ [(other, message)], front ++ [request]⟩ := by
                simp [Account.step, Account.answer, hresponse, hlast]
              rw [hstep] at hrest ⊢
              exact ih hrest rfl hlater

end Received

end Exchanges

end XeusZmq.Exchanges
