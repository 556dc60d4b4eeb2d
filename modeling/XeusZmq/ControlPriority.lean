import XeusZmq.PolledLoop
import XeusZmq.ServedClients

/-!
The order in which the default server takes requests from its two sockets, and what a
request to stop does to it.
-/

namespace XeusZmq.ControlPriority

open XeusZmq.Values
open XeusZmq.Serializer
open XeusZmq.ServerLoops
open XeusZmq.FifoPort
open XeusZmq.PolledLoop
open XeusZmq.Runs (run_cons run_append run_nil)
open XeusZmq.DefaultDispatch (NoZmqError)
open XeusZmq.WireRoundTrip
open XeusZmq.RemoteCalls (Session)
open XeusZmq.ServedClients (emptyObjectSession emptyObjects)

variable {decode : Multipart → Result XMessage}

/-! How long a control request waits. -/

/-- The steps of the server thread in which `zmq::poll` does not fail. -/
def passes (events : List LoopEvent) : Nat :=
  events.countP fun event =>
    match event with
    | .goOn none => true
    | _ => false

def interrupted (events : List LoopEvent) : Nat :=
  events.countP fun event =>
    match event with
    | .goOn (some _) => true
    | _ => false

/-- The loop has neither been left nor asked to stop. -/
structure Serving (s : PollingServer) : Prop where
  requestStop : s.requestStop = false
  left : s.point ≠ .left
  failed : ∀ f, s.point ≠ .failed f

/-- The loop is not asked to stop, no listener throws, and `zmq::poll` fails with `EINTR` or
`ETERM` at most. -/
structure Undisturbed (events : List LoopEvent) : Prop where
  stop : .stop ∉ events
  throws : ∀ f, .throws f ∉ events
  poll : ∀ pollError, .goOn pollError ∈ events → ¬ Fatal pollError

theorem Undisturbed.tail {event : LoopEvent} {events : List LoopEvent}
    (h : Undisturbed (event :: events)) : Undisturbed events where
  stop hmem := h.stop (List.mem_cons_of_mem event hmem)
  throws f hmem := h.throws f (List.mem_cons_of_mem event hmem)
  poll pollError hmem := h.poll pollError (List.mem_cons_of_mem event hmem)

/-- The loop is about to read the first message of the shell. -/
def readsShell : LoopPoint → Bool
  | .polled false _ => true
  | .reading .shell => true
  | _ => false

/-- The shell requests that are passed on whatever arrives. -/
def shellAhead : LoopPoint → Nat
  | .polled false _ => 1
  | .reading .shell => 1
  | .notifying .shell _ => 1
  | _ => 0

/-- The steps until the control requests ahead have been passed on. -/
def owed (ahead : Nat) : LoopPoint → Nat
  | .checking => 6 * ahead
  | .polling => 6 * ahead - 1
  | .polled true _ => 6 * ahead - 2
  | .reading .control => 6 * ahead - 3
  | .notifying _ _ => 6 * ahead + 2
  | .listening => 6 * ahead + 1
  | .reading .shell => 6 * ahead + 3
  | .polled false _ => 6 * ahead + 4
  | .left => 0
  | .failed _ => 0

theorem owed_le (ahead : Nat) (point : LoopPoint) : owed ahead point ≤ 6 * ahead + 4 := by
  unfold owed
  split <;> omega

/-- What is left of the control requests ahead. -/
def remaining (ahead : List Multipart) : LoopEvent → LoopPoint → List Multipart
  | .goOn _, .reading .control => ahead.tail
  | _, _ => ahead

/-- What the control listener will have been given once those ahead are passed on. -/
def due (decode : Multipart → Result XMessage) (ahead : List Multipart) (s : PollingServer) :
    List XMessage :=
  on .control (s.calls ++ s.point.handed) ++ ahead.filterMap (decoded decode)

def Awaited (ahead : List Multipart) (s : PollingServer) : Prop :=
  ahead ≠ [] ∨ ∃ msg, s.point = .notifying .control msg

/-- A step passes on what is due and nothing of the shell that is not ahead. -/
structure Followed (decode : Multipart → Result XMessage) (ahead ahead' : List Multipart)
    (s s' : PollingServer) : Prop where
  controller : ahead' <+: s'.controller
  due : due decode ahead' s' = due decode ahead s
  since : ∃ since, s'.calls = s.calls ++ since ∧
    (on .shell since).length + shellAhead s'.point ≤ shellAhead s.point

variable {ahead : List Multipart} {s : PollingServer}

theorem due_of_not_awaited (h : ¬ Awaited ahead s) : due decode ahead s = on .control s.calls := by
  rw [Awaited, not_or, not_not] at h
  obtain ⟨rfl, hpoint⟩ := h
  rw [due, List.filterMap_nil, List.append_nil, on_append]
  cases hs : s.point with
  | notifying channel msg =>
      cases channel with
      | control => exact absurd ⟨msg, hs⟩ hpoint
      | shell =>
          rw [LoopPoint.handed, on_cons_of_ne (by decide), on_nil, List.append_nil]
  | _ => exact List.append_nil _

theorem followed_point (hahead : ahead <+: s.controller) {point : LoopPoint}
    (hhanded : point.handed = s.point.handed) (hshell : shellAhead point ≤ shellAhead s.point) :
    Followed decode ahead ahead s { s with point } where
  controller := hahead
  due := by rw [due, due, hhanded]
  since := ⟨[], (List.append_nil _).symm, by simpa using hshell⟩

theorem shellAhead_poll (hcontroller : s.controller ≠ []) (pollError : Option Nat) :
    shellAhead (s.poll pollError) = 0 := by
  cases pollError with
  | some num =>
      rw [PollingServer.poll, catchZmqError]
      split_ifs <;> rfl
  | none =>
      have hsome : s.controller.isEmpty = false := by simpa using hcontroller
      simp [PollingServer.poll, hsome, shellAhead]

theorem shellAhead_afterRead (channel : Channel) (wireMsg : Multipart) :
    shellAhead (afterRead decode channel wireMsg) ≤ shellAhead (.reading channel) := by
  cases hdecode : decode wireMsg <;> cases channel <;> simp [afterRead, hdecode, shellAhead]

theorem read_followed (hzmq : NoZmqError decode) (hahead : ahead <+: s.controller)
    (hawaited : ahead ≠ []) {channel : Channel} (hpoint : s.point = .reading channel)
    (pollError : Option Nat) :
    Followed decode ahead (remaining ahead (.goOn pollError) s.point) s
      (s.read decode channel) := by
  obtain ⟨late, hlate⟩ := hahead
  rw [read_eq hzmq, hpoint]
  cases channel with
  | control =>
      obtain ⟨wireMsg, ahead, rfl⟩ := List.exists_cons_of_ne_nil hawaited
      have hpending : s.pending .control = wireMsg :: (ahead ++ late) := hlate.symm
      rw [hpending]
      refine ⟨⟨late, rfl⟩, ?_, [], (List.append_nil _).symm, ?_⟩
      · have hhanded := @handed_afterRead decode .control wireMsg
        simp only [due, remaining, hhanded, hpoint, PollingServer.setPending]
        cases hdecode : decoded decode wireMsg <;> simp [hdecode, LoopPoint.handed]
      · rw [hpoint]
        exact (Nat.zero_add _).trans_le (shellAhead_afterRead .control wireMsg)
  | shell =>
      cases hpending : s.pending .shell with
      | nil =>
          refine ⟨⟨late, hlate⟩, rfl, [], (List.append_nil _).symm, ?_⟩
          exact Nat.le_of_eq (Nat.zero_add _)
      | cons wireMsg rest =>
          refine ⟨⟨late, hlate⟩, ?_, [], (List.append_nil _).symm, ?_⟩
          · have hhanded := @handed_afterRead decode .shell wireMsg
            simp only [due, remaining, hhanded, hpoint, PollingServer.setPending]
            cases hdecode : decoded decode wireMsg <;> simp [LoopPoint.handed, on]
          · rw [hpoint]
            exact (Nat.zero_add _).trans_le (shellAhead_afterRead .shell wireMsg)

theorem goOn_followed (hzmq : NoZmqError decode) (hahead : ahead <+: s.controller)
    (hawaited : Awaited ahead s) (pollError : Option Nat) :
    Followed decode ahead (remaining ahead (.goOn pollError) s.point) s
      (s.goOn decode pollError) := by
  have hwaits (hpoint : ∀ msg, s.point ≠ .notifying .control msg) : ahead ≠ [] :=
    hawaited.resolve_right fun ⟨msg, hmsg⟩ => hpoint msg hmsg
  rw [PollingServer.goOn]
  cases hpoint : s.point with
  | checking =>
      refine followed_point hahead ?_ ?_ <;> rw [hpoint] <;> split_ifs <;> rfl
  | polling =>
      have hcontroller : s.controller ≠ [] := fun hnil =>
        hwaits (by simp [hpoint]) (List.prefix_nil.mp (hnil ▸ hahead))
      refine followed_point hahead ?_ ?_
      · rw [hpoint]
        exact handed_poll s pollError
      · rw [shellAhead_poll hcontroller]
        exact Nat.zero_le _
  | polled controller shell =>
      refine followed_point hahead ?_ ?_
      · rw [hpoint]
        exact handed_chosen s controller shell
      · rw [hpoint, PollingServer.chosen]
        cases controller with
        | true => exact Nat.le_refl _
        | false => split_ifs <;> simp [shellAhead]
  | reading channel =>
      have hread := read_followed hzmq hahead (hwaits (by simp [hpoint])) hpoint pollError
      rwa [hpoint] at hread
  | notifying channel msg =>
      refine ⟨hahead, ?_, [(channel, msg)], rfl, ?_⟩
      · simp [due, remaining, hpoint, LoopPoint.handed]
      · rw [hpoint]
        cases channel <;> exact Nat.le_refl _
  | listening => exact followed_point hahead (by rw [hpoint]; rfl) (Nat.zero_le _)
  | left => exact followed_point hahead (by rw [hpoint]) (by rw [hpoint])
  | failed f => exact followed_point hahead (by rw [hpoint]) (by rw [hpoint])

theorem step_followed (hzmq : NoZmqError decode) (hahead : ahead <+: s.controller)
    (hawaited : Awaited ahead s) (event : LoopEvent) :
    Followed decode ahead (remaining ahead event s.point) s (s.step decode event) := by
  cases event with
  | arrive channel wireMsg =>
      refine ⟨?_, ?_, [], ?_, ?_⟩
      · cases channel with
        | control => exact hahead.trans (List.prefix_append _ _)
        | shell => exact hahead
      · cases channel <;> rfl
      · cases channel <;> exact (List.append_nil _).symm
      · cases channel <;> exact Nat.le_of_eq (Nat.zero_add _)
  | stop => exact ⟨hahead, rfl, [], (List.append_nil _).symm, Nat.le_of_eq (Nat.zero_add _)⟩
  | goOn pollError => exact goOn_followed hzmq hahead hawaited pollError
  | throws f =>
      rw [PollingServer.step, PollingServer.throws]
      cases hpoint : s.point with
      | listening => exact followed_point hahead (by rw [hpoint]; rfl) (Nat.zero_le _)
      | _ => exact ⟨hahead, rfl, [], (List.append_nil _).symm, Nat.le_of_eq (Nat.zero_add _)⟩

theorem on_mono {front calls : List Call} (h : front <+: calls) (channel : Channel) :
    on channel front <+: on channel calls := by
  obtain ⟨rest, rfl⟩ := h
  rw [on_append]
  exact List.prefix_append _ _

/-- Once the requests ahead are passed on they stay so. -/
theorem due_prefix_run (h : ¬ Awaited ahead s) (events : List LoopEvent) :
    due decode ahead s <+: on .control (Runs.run (PollingServer.step decode) s events).calls := by
  rw [due_of_not_awaited h]
  exact on_mono (calls_run s events) .control

/-- The induction is on the events, as long as the requests ahead are awaited. -/
theorem run_overtaken (hzmq : NoZmqError decode) (hahead : ahead <+: s.controller)
    (events : List LoopEvent) :
    due decode ahead s <+: on .control (Runs.run (PollingServer.step decode) s events).calls ∨
      ∃ since, (Runs.run (PollingServer.step decode) s events).calls = s.calls ++ since ∧
        (on .shell since).length ≤ shellAhead s.point := by
  induction events generalizing s ahead with
  | nil => exact Or.inr ⟨[], (List.append_nil _).symm, Nat.zero_le _⟩
  | cons event events ih =>
      by_cases hawaited : Awaited ahead s
      · have hstep := step_followed hzmq hahead hawaited event
        obtain ⟨since, hsince, hlength⟩ := hstep.since
        rw [run_cons, ← hstep.due]
        rcases ih hstep.controller with hpassed | ⟨later, hlater, hlengthLater⟩
        · exact Or.inl hpassed
        · refine Or.inr ⟨since ++ later, ?_, ?_⟩
          · rw [hlater, hsince, List.append_assoc]
          · rw [on_append, List.length_append]
            omega
      · exact Or.inl (due_prefix_run hawaited _)

/-- What the loop reads next from the two sockets decodes. -/
structure Readable (decode : Multipart → Result XMessage) (ahead : List Multipart)
    (s : PollingServer) : Prop where
  control : ∀ wireMsg ∈ ahead, ∃ msg, decode wireMsg = .ok msg
  shell : readsShell s.point = true →
    ∀ wireMsg, s.shell.head? = some wireMsg → ∃ msg, decode wireMsg = .ok msg

theorem Readable.arrive (h : Readable decode ahead s) (hfound : Found s) (channel : Channel)
    (wireMsg : Multipart) : Readable decode ahead (s.arrive channel wireMsg) := by
  refine ⟨h.control, fun hreads first hfirst => ?_⟩
  rw [PollingServer.arrive, point_setPending] at hreads
  refine h.shell hreads first ?_
  have hnonempty : s.shell ≠ [] := by
    unfold readsShell at hreads
    split at hreads
    · next shell hpoint =>
        obtain ⟨-, hshell, hany⟩ := hfound.polled false shell hpoint
        exact hshell hany
    · next hpoint => exact hfound.reading .shell hpoint
    · cases hreads
  cases channel with
  | control => exact hfirst
  | shell =>
      have happend : (s.shell ++ [wireMsg]).head? = some first := hfirst
      rwa [List.head?_append_of_ne_nil _ hnonempty] at happend

theorem poll_of_control (hcontroller : s.controller ≠ []) :
    s.poll none = .polled true (!s.shell.isEmpty) := by
  have hsome : s.controller.isEmpty = false := by simpa using hcontroller
  simp [PollingServer.poll, hsome]

theorem poll_interrupted {num : Nat} (hnum : ¬ Fatal (some num)) :
    s.poll (some num) = .checking := by
  have hcaught : ¬ (num ≠ eintr ∧ num ≠ eterm) := fun h => hnum ⟨num, rfl, h⟩
  rw [PollingServer.poll, catchZmqError, if_neg hcaught]
  rfl

/-- A step brings the loop nearer to the requests ahead, if the poll is not interrupted. -/
structure Nearer (decode : Multipart → Result XMessage) (ahead ahead' : List Multipart)
    (pollError : Option Nat) (s s' : PollingServer) : Prop where
  serving : Serving s'
  readable : Readable decode ahead' s'
  owed : owed ahead'.length s'.point + 1 ≤
    owed ahead.length s.point + if pollError.isSome then 2 else 0

/-- The steps that are left are enough for what is still owed. -/
theorem passes_left {ahead' : List Multipart} {s' : PollingServer} {pollError : Option Nat}
    {events : List LoopEvent} (h : Nearer decode ahead ahead' pollError s s')
    (hpasses : owed ahead.length s.point + interrupted (.goOn pollError :: events) ≤
      passes (.goOn pollError :: events)) :
    owed ahead'.length s'.point + interrupted events ≤ passes events := by
  have howed := h.owed
  cases pollError with
  | none =>
      simp only [passes, interrupted, List.countP_cons, Option.isSome_none,
        Bool.false_eq_true, if_false, if_true] at hpasses howed ⊢
      omega
  | some num =>
      simp only [passes, interrupted, List.countP_cons, Option.isSome_some,
        Bool.false_eq_true, if_false, if_true] at hpasses howed ⊢
      omega

theorem nearer_point (hserving : Serving s) (hreadable : Readable decode ahead s)
    {point : LoopPoint} {pollError : Option Nat} (hleft : point ≠ .left)
    (hfailed : ∀ f, point ≠ .failed f)
    (hreads : readsShell point = true → readsShell s.point = true)
    (howed : owed ahead.length point + 1 ≤
      owed ahead.length s.point + if pollError.isSome then 2 else 0) :
    Nearer decode ahead ahead pollError s { s with point } where
  serving := ⟨hserving.requestStop, hleft, hfailed⟩
  readable := ⟨hreadable.control, fun hpoint => hreadable.shell (hreads hpoint)⟩
  owed := howed

theorem read_nearer (hzmq : NoZmqError decode) (hserving : Serving s) (hfound : Found s)
    (hreadable : Readable decode ahead s) (hahead : ahead <+: s.controller) (hawaited : ahead ≠ [])
    {channel : Channel} (hpoint : s.point = .reading channel) (pollError : Option Nat) :
    Nearer decode ahead (remaining ahead (.goOn pollError) s.point) pollError s
      (s.read decode channel) := by
  obtain ⟨late, hlate⟩ := hahead
  rw [read_eq hzmq, hpoint]
  cases channel with
  | control =>
      obtain ⟨wireMsg, ahead, rfl⟩ := List.exists_cons_of_ne_nil hawaited
      obtain ⟨msg, hmsg⟩ := hreadable.control wireMsg List.mem_cons_self
      have hpending : s.pending .control = wireMsg :: (ahead ++ late) := hlate.symm
      rw [hpending]
      simp only [afterRead, hmsg]
      refine ⟨⟨hserving.requestStop, by simp, by simp⟩,
        ⟨fun other hmem => ?_, by simp [readsShell]⟩, ?_⟩
      · exact hreadable.control other (List.mem_cons_of_mem wireMsg hmem)
      · rw [hpoint]
        simp only [owed, remaining, List.tail_cons, List.length_cons]
        omega
  | shell =>
      obtain ⟨wireMsg, rest, hpending⟩ :=
        List.exists_cons_of_ne_nil (hfound.reading .shell hpoint)
      obtain ⟨msg, hmsg⟩ := hreadable.shell (by rw [hpoint]; rfl) wireMsg
        ((congrArg List.head? hpending).trans rfl)
      rw [hpending]
      simp only [afterRead, hmsg]
      refine ⟨⟨hserving.requestStop, by simp, by simp⟩,
        ⟨hreadable.control, by simp [readsShell]⟩, ?_⟩
      rw [hpoint]
      simp only [owed, remaining]
      omega

theorem poll_nearer (hserving : Serving s) (hreadable : Readable decode ahead s)
    (hahead : ahead <+: s.controller) (hawaited : ahead ≠ []) (hpoint : s.point = .polling)
    {pollError : Option Nat} (hpoll : ¬ Fatal pollError) :
    Nearer decode ahead ahead pollError s { s with point := s.poll pollError } := by
  have hsome : 0 < ahead.length := List.length_pos_iff.mpr hawaited
  have hcontroller : s.controller ≠ [] := fun hnil =>
    hawaited (List.prefix_nil.mp (hnil ▸ hahead))
  cases pollError with
  | some num =>
      rw [poll_interrupted hpoll]
      refine nearer_point hserving hreadable (by simp) (by simp) (by simp [readsShell]) ?_
      rw [hpoint]
      simp only [owed, Option.isSome_some, if_true]
      omega
  | none =>
      rw [poll_of_control hcontroller]
      refine nearer_point hserving hreadable (by simp) (by simp) (by simp [readsShell]) ?_
      rw [hpoint]
      simp only [owed]
      omega

theorem chosen_nearer (hserving : Serving s) (hreadable : Readable decode ahead s)
    (hawaited : ahead ≠ []) {controller shell : Bool} (hpoint : s.point = .polled controller shell)
    (hany : (controller || shell) = true) (pollError : Option Nat) :
    Nearer decode ahead ahead pollError s { s with point := s.chosen controller shell } := by
  have hsome : 0 < ahead.length := List.length_pos_iff.mpr hawaited
  cases controller with
  | true =>
      refine nearer_point hserving hreadable (by rintro ⟨⟩) (by rintro _ ⟨⟩) (by rintro ⟨⟩) ?_
      rw [hpoint]
      simp only [PollingServer.chosen, if_true, owed]
      omega
  | false =>
      obtain rfl : shell = true := hany
      have hshell : s.chosen false true = .reading .shell := by
        simp [PollingServer.chosen, hserving.requestStop]
      rw [hshell]
      refine nearer_point hserving hreadable (by simp) (by simp) (fun _ => by rw [hpoint]; rfl) ?_
      rw [hpoint]
      simp only [owed]
      omega

theorem goOn_nearer (hzmq : NoZmqError decode) (hserving : Serving s) (hfound : Found s)
    (hreadable : Readable decode ahead s) (hahead : ahead <+: s.controller)
    (hawaited : Awaited ahead s) {pollError : Option Nat} (hpoll : ¬ Fatal pollError) :
    Nearer decode ahead (remaining ahead (.goOn pollError) s.point) pollError s
      (s.goOn decode pollError) := by
  have hwaits (hpoint : ∀ msg, s.point ≠ .notifying .control msg) : ahead ≠ [] :=
    hawaited.resolve_right fun ⟨msg, hmsg⟩ => hpoint msg hmsg
  rw [PollingServer.goOn]
  cases hpoint : s.point with
  | checking =>
      have hsome := List.length_pos_iff.mpr (hwaits (by simp [hpoint]))
      have hon : (if s.requestStop = true then LoopPoint.left else .polling) = .polling :=
        if_neg (by rw [hserving.requestStop]; exact Bool.false_ne_true)
      simp only [hon]
      refine nearer_point hserving hreadable (by simp) (by simp) (by simp [readsShell]) ?_
      rw [hpoint]
      simp only [owed]
      omega
  | polling =>
      exact poll_nearer hserving hreadable hahead (hwaits (by simp [hpoint])) hpoint hpoll
  | polled controller shell =>
      have hany := (hfound.polled controller shell hpoint).2.2
      exact chosen_nearer hserving hreadable (hwaits (by simp [hpoint])) hpoint hany pollError
  | reading channel =>
      have hread := read_nearer hzmq hserving hfound hreadable hahead
        (hwaits (by simp [hpoint])) hpoint pollError
      rwa [hpoint] at hread
  | notifying channel msg =>
      refine ⟨⟨hserving.requestStop, by simp, by simp⟩,
        ⟨hreadable.control, by simp [readsShell]⟩, ?_⟩
      rw [hpoint]
      simp only [owed, remaining]
      omega
  | listening =>
      refine nearer_point hserving hreadable (by simp) (by simp) (by simp [readsShell]) ?_
      rw [hpoint]
      simp only [owed]
      omega
  | left => exact absurd hpoint hserving.left
  | failed f => exact absurd hpoint (hserving.failed f)

theorem owed_pos (h : Awaited ahead s) (hserving : Serving s) : 0 < owed ahead.length s.point := by
  rcases h with hnonempty | ⟨msg, hmsg⟩
  · have hsome := List.length_pos_iff.mpr hnonempty
    unfold owed
    split <;> first | omega | skip
    · exact absurd ‹_› hserving.left
    · exact absurd ‹_› (hserving.failed _)
  · rw [hmsg]
    exact Nat.succ_pos _

/-- The induction is on the events. As long as there are requests ahead the loop reads no
others, so that nothing is asked of what arrives later. -/
theorem run_control (hzmq : NoZmqError decode) (hserving : Serving s) (hfound : Found s)
    (hreadable : Readable decode ahead s) (hahead : ahead <+: s.controller)
    {events : List LoopEvent} (hevents : Undisturbed events)
    (hpasses : owed ahead.length s.point + interrupted events ≤ passes events) :
    due decode ahead s <+: on .control (Runs.run (PollingServer.step decode) s events).calls := by
  induction events generalizing s ahead with
  | nil =>
      by_cases hawaited : Awaited ahead s
      · have hpositive := owed_pos hawaited hserving
        have hzero : owed ahead.length s.point ≤ 0 := hpasses
        omega
      · exact due_prefix_run hawaited _
  | cons event events ih =>
      by_cases hawaited : Awaited ahead s
      · have hstep := step_followed hzmq hahead hawaited event
        have hfound' := found_step hzmq hfound event
        have hahead' := hstep.controller
        rw [run_cons, ← hstep.due]
        cases event with
        | stop => exact absurd List.mem_cons_self hevents.stop
        | throws f => exact absurd List.mem_cons_self (hevents.throws f)
        | arrive channel wireMsg =>
            refine ih ⟨?_, ?_, ?_⟩ hfound' (hreadable.arrive hfound channel wireMsg) hahead'
              hevents.tail ?_
            · exact (requestStop_setPending s channel _).trans hserving.requestStop
            · exact (point_setPending s channel _).symm ▸ hserving.left
            · exact (point_setPending s channel _).symm ▸ hserving.failed
            · simpa [PollingServer.step, PollingServer.arrive, remaining, passes, interrupted]
                using hpasses
        | goOn pollError =>
            have hnearer := goOn_nearer hzmq hserving hfound hreadable hahead hawaited
              (hevents.poll pollError List.mem_cons_self)
            exact ih hnearer.serving hfound' hnearer.readable hahead' hevents.tail
              (passes_left hnearer hpasses)
      · exact due_prefix_run hawaited _

/-- The control request that arrives behind `before` has been passed on, behind those that
had arrived before it. -/
def PassedOn (session : Session) (before : List LoopEvent) (wireMsg : Multipart)
    (after : List LoopEvent) : Prop :=
  (on .control (arrivals before) ++ [wireMsg]).filterMap (decoded session.decode) <+:
    on .control (run session.decode (before ++ .arrive .control wireMsg :: after)).calls

/-- The loop serves, the requests that it reads before it has passed the new one on can be
decoded, and it goes on for long enough undisturbed. -/
structure Unhindered (session : Session) (before : List LoopEvent) (wireMsg : Multipart)
    (after : List LoopEvent) : Prop where
  serving : Serving (run session.decode before)
  readable : Readable session.decode ((run session.decode before).controller ++ [wireMsg])
    (run session.decode before)
  undisturbed : Undisturbed after
  passes : 6 * ((run session.decode before).controller.length + 1) + 4 + interrupted after ≤
    passes after

theorem run_arrive (session : Session) (before : List LoopEvent) (wireMsg : Multipart)
    (after : List LoopEvent) :
    run session.decode (before ++ .arrive .control wireMsg :: after) =
      Runs.run (PollingServer.step session.decode)
        ((run session.decode before).arrive .control wireMsg) after :=
  run_append _ _ _ _

/-- What is due then is what has arrived by then. -/
theorem due_arrive (session : Session) (before : List LoopEvent) (wireMsg : Multipart) :
    due session.decode ((run session.decode before).controller ++ [wireMsg])
        ((run session.decode before).arrive .control wireMsg) =
      (on .control (arrivals before) ++ [wireMsg]).filterMap (decoded session.decode) := by
  have hrelay := (run_relay session.noZmqError before .control).output_append
  change on .control ((run session.decode before).calls ++ _) ++
    (run session.decode before).controller.filterMap _ = _ at hrelay
  rw [List.filterMap_append, ← hrelay, List.append_assoc, ← List.filterMap_append]
  rfl

/-- A control request waits for those before it only. However many requests arrive on the
two sockets, it is passed to the listener within six steps of the loop for each of the
control requests ahead of it and for itself and four more, each poll that is interrupted
costing one. Until then one shell request is passed on at most, and only if the loop has
polled before the control request arrived and found no other. -/
theorem control_first (session : Session) (before : List LoopEvent) (wireMsg : Multipart)
    (after : List LoopEvent) :
    (Unhindered session before wireMsg after → PassedOn session before wireMsg after) ∧
      (PassedOn session before wireMsg after ∨
        ∃ since, (run session.decode (before ++ .arrive .control wireMsg :: after)).calls =
            (run session.decode before).calls ++ since ∧
          (on .shell since).length ≤ shellAhead (run session.decode before).point) := by
  have hzmq := session.noZmqError
  have hfound := found_run hzmq before
  rw [PassedOn, ← due_arrive, run_arrive]
  constructor
  · intro h
    refine run_control (s := (run session.decode before).arrive .control wireMsg) hzmq
      ⟨h.serving.requestStop, h.serving.left, h.serving.failed⟩
      (found_arrive hfound .control wireMsg) (h.readable.arrive hfound .control wireMsg)
      List.prefix_rfl h.undisturbed ?_
    have hbound := owed_le ((run session.decode before).controller ++ [wireMsg]).length
      ((run session.decode before).arrive .control wireMsg).point
    have hpasses := h.passes
    rw [List.length_append, List.length_singleton] at hbound ⊢
    omega
  · exact run_overtaken hzmq List.prefix_rfl after

def emptyRequest : Multipart :=
  [delimiter, [], literal "{}", literal "{}", literal "{}", literal "{}"]

theorem decode_emptyRequest :
    emptyObjectSession.decode emptyRequest = .ok ⟨[], emptyObjects⟩ := rfl

/-- Two control requests overtake the shell request that has arrived before them. -/
theorem control_first_overtakes :
    let before : List LoopEvent := [.arrive .shell emptyRequest, .arrive .control emptyRequest]
    let after := List.replicate 16 (.goOn none)
    PassedOn emptyObjectSession before emptyRequest after ∧
      on .control (run emptyObjectSession.decode
        (before ++ .arrive .control emptyRequest :: after)).calls =
          [⟨[], emptyObjects⟩, ⟨[], emptyObjects⟩] := by
  intro before after
  refine ⟨(control_first emptyObjectSession before emptyRequest after).1
    ⟨⟨rfl, by rintro ⟨⟩, by rintro _ ⟨⟩⟩, ⟨?_, by rintro ⟨⟩⟩,
      ⟨by simp [after], by simp [after], ?_⟩, by decide⟩, rfl⟩
  · intro other hmem
    change other ∈ [emptyRequest, emptyRequest] at hmem
    simp only [List.mem_cons, List.not_mem_nil, or_false, or_self] at hmem
    rw [hmem]
    exact ⟨_, decode_emptyRequest⟩
  · intro pollError hmem
    obtain ⟨-, hgoOn⟩ := List.mem_replicate.mp hmem
    obtain rfl := LoopEvent.goOn.inj hgoOn
    rintro ⟨num, hnum, -⟩
    cases hnum

/-! What a request to stop lets through. -/

/-- The channel of a message that the loop has been about to read, or has read. -/
def letsThrough : LoopPoint → Channel → Bool
  | .polling, .control => true
  | .polled controller _, .control => controller
  | .reading channel, other => channel = other
  | .notifying channel _, other => channel = other
  | _, _ => false

/-- A step passes on nothing, or a message that the loop was about to pass on. -/
inductive Let (s s' : PollingServer) : Prop
  | nothing (hcalls : s'.calls = s.calls)
      (hpoint : ∀ channel, letsThrough s'.point channel = true →
        letsThrough s.point channel = true)
  | message (channel : Channel) (msg : XMessage) (hcalls : s'.calls = s.calls ++ [(channel, msg)])
      (hbefore : letsThrough s.point channel = true)
      (hafter : ∀ other, letsThrough s'.point other = false)

theorem goOn_stopped (hzmq : NoZmqError decode) (hstop : s.requestStop = true)
    (pollError : Option Nat) : Let s (s.goOn decode pollError) := by
  rw [PollingServer.goOn]
  cases hpoint : s.point with
  | checking => exact .nothing rfl (by simp [hstop, letsThrough])
  | polling =>
      refine .nothing rfl fun channel => ?_
      rw [hpoint]
      cases channel with
      | control => exact fun _ => rfl
      | shell =>
          cases pollError with
          | none =>
              simp only [PollingServer.poll]
              split_ifs <;> simp [letsThrough]
          | some num =>
              simp only [PollingServer.poll, catchZmqError]
              split_ifs <;> simp [letsThrough, LoopPoint.returned]
  | polled controller shell =>
      refine .nothing rfl fun channel => ?_
      rw [hpoint]
      cases controller <;> cases channel <;> simp [PollingServer.chosen, hstop, letsThrough]
  | reading channel =>
      dsimp only
      rw [read_eq hzmq]
      cases hpending : s.pending channel with
      | nil => exact .nothing rfl fun _ => id
      | cons wireMsg rest =>
          refine .nothing (calls_setPending s channel rest) fun other => ?_
          rw [hpoint]
          cases hdecode : decode wireMsg <;> simp [afterRead, hdecode, letsThrough]
  | notifying channel msg =>
      refine .message channel msg rfl ?_ fun other => rfl
      rw [hpoint]
      simp [letsThrough]
  | listening => exact .nothing rfl (by simp [letsThrough])
  | left => exact .nothing rfl fun _ => id
  | failed f => exact .nothing rfl fun _ => id

theorem step_stopped (hzmq : NoZmqError decode) (hstop : s.requestStop = true)
    (event : LoopEvent) :
    Let s (s.step decode event) ∧ (s.step decode event).requestStop = true := by
  cases event with
  | arrive channel wireMsg =>
      refine ⟨.nothing (calls_setPending s channel _) fun other => ?_,
        (requestStop_setPending s channel _).trans hstop⟩
      rw [PollingServer.step, PollingServer.arrive, point_setPending]
      exact id
  | stop => exact ⟨.nothing rfl fun _ => id, rfl⟩
  | goOn pollError =>
      refine ⟨goOn_stopped hzmq hstop pollError, ?_⟩
      rw [PollingServer.step, PollingServer.goOn]
      cases s.point with
      | reading channel =>
          dsimp only
          rw [read_eq hzmq]
          cases s.pending channel with
          | nil => exact hstop
          | cons wireMsg rest => exact (requestStop_setPending s channel rest).trans hstop
      | _ => exact hstop
  | throws f =>
      rw [PollingServer.step, PollingServer.throws]
      cases hpoint : s.point with
      | listening => exact ⟨.nothing rfl (by simp [letsThrough]), hstop⟩
      | _ => exact ⟨.nothing rfl fun _ => id, hstop⟩

theorem run_stopped (hzmq : NoZmqError decode) (hstop : s.requestStop = true)
    (events : List LoopEvent) :
    ∃ rest, (Runs.run (PollingServer.step decode) s events).calls = s.calls ++ rest ∧
      rest.length ≤ 1 ∧ ∀ call ∈ rest, letsThrough s.point call.1 = true := by
  induction events generalizing s with
  | nil => exact ⟨[], (List.append_nil _).symm, Nat.zero_le _, by simp⟩
  | cons event events ih =>
      obtain ⟨hstep, hstop'⟩ := step_stopped hzmq hstop event
      obtain ⟨rest, hcalls, hlength, hrest⟩ := ih hstop'
      rw [run_cons, hcalls]
      cases hstep with
      | nothing hsame hpoint =>
          exact ⟨rest, by rw [hsame], hlength, fun call hmem => hpoint _ (hrest call hmem)⟩
      | message channel msg hmore hbefore hafter =>
          have hnone : rest = [] := by
            rw [List.eq_nil_iff_forall_not_mem]
            intro call hmem
            exact absurd ((hafter call.1).symm.trans (hrest call hmem)) Bool.false_ne_true
          refine ⟨[(channel, msg)], by rw [hmore, hnone, List.append_nil], Nat.le_refl _, ?_⟩
          intro call hmem
          rw [List.mem_singleton.mp hmem]
          exact hbefore

/-- Behind a request to stop one message is passed on at most, whatever waits or arrives,
and none if the loop is at its test or in a listener. It is one of the channel that the loop
has chosen to read from before, or one of the control channel if the loop is at the poll or
has found one there. -/
theorem stop_ends_dispatch (session : Session) (before after : List LoopEvent) :
    ∃ rest, (run session.decode (before ++ .stop :: after)).calls =
        (run session.decode before).calls ++ rest ∧
      rest.length ≤ 1 ∧
      ∀ call ∈ rest, letsThrough (run session.decode before).point call.1 = true := by
  have hrun : run session.decode (before ++ .stop :: after) =
      Runs.run (PollingServer.step session.decode)
        { run session.decode before with requestStop := true } after := run_append _ _ _ _
  rw [hrun]
  exact run_stopped session.noZmqError rfl after

end XeusZmq.ControlPriority
