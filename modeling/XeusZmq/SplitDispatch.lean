import XeusZmq.ServerLoops
import XeusZmq.FifoPort
import XeusZmq.Runs

/-!
What the loops of the two runners of the split server make of the messages that
arrive, well formed or not.
-/

namespace XeusZmq.SplitDispatch

open XeusZmq.Values
open XeusZmq.ServerLoops
open XeusZmq.FifoPort
open XeusZmq.Runs

variable {decode : Multipart → Result XMessage} {internalListener : Bytes → Bytes}

def arrival : SplitEvent → Option (Channel × Multipart)
  | .arrive channel wireMsg => some (channel, wireMsg)
  | _ => none

def ports (s : SplitServer) : Ports Channel Multipart XMessage :=
  ⟨s.pending, s.calls⟩

theorem pending_setPending (s : SplitServer) (channel : Channel) (wireMsgs : List Multipart) :
    (s.setPending channel wireMsgs).pending = Function.update s.pending channel wireMsgs := by
  funext other
  cases channel <;> cases other <;> rfl

def Harmful (decode : Multipart → Result XMessage) (wireMsg : Multipart) : Prop :=
  ∃ u, decode wireMsg = .error (.undefined u)

theorem deserialize_eq_error {wireMsg : Multipart} {f : Failure}
    (h : SplitServer.deserialize decode wireMsg = .error f) : Harmful decode wireMsg := by
  unfold SplitServer.deserialize catchStdException at h
  split at h
  · exact absurd h nofun
  · exact absurd h nofun
  · rename_i u hdecode
    exact ⟨u, hdecode⟩

theorem deserialize_eq_ok {wireMsg : Multipart} {msg : Option XMessage}
    (h : SplitServer.deserialize decode wireMsg = .ok msg) : decoded decode wireMsg = msg := by
  unfold SplitServer.deserialize catchStdException at h
  split at h
  · rename_i msg' hdecode
    rw [decoded_of_ok hdecode]
    exact Except.ok.inj h
  · rename_i e hdecode
    rw [decoded_of_error hdecode]
    exact Except.ok.inj h
  · exact absurd h nofun

/-- The calls that a message read on the channel leads to. -/
def callsFor (decode : Multipart → Result XMessage) (channel : Channel) (wireMsg : Multipart) :
    List (Channel × XMessage) :=
  (decoded decode wireMsg).toList.map (channel, ·)

/-- What one step of the control thread can do. -/
inductive ControlPassed (decode : Multipart → Result XMessage) (s : SplitServer) :
    SplitServer → Prop
  | idle (status : LoopStatus)
      (hfailed : ∀ f, status = .failed f → s.controlStatus = .failed f)
      (hleft : status = .left → s.controlStatus = .left ∨ s.requestStop = true)
      (hempty : s.controlStatus = .polling → s.control = []) :
      ControlPassed decode s { s with controlStatus := status }
  | read (wireMsg : Multipart) (rest : List Multipart) (hcontrol : s.control = wireMsg :: rest) :
      ControlPassed decode s
        { s with
          control := rest
          calls := s.calls ++ callsFor decode .control wireMsg
          controlStatus := .checking }
  | failed (wireMsg : Multipart) (rest : List Multipart) (f : Failure)
      (hcontrol : s.control = wireMsg :: rest) (hharmful : Harmful decode wireMsg) :
      ControlPassed decode s { s with control := rest, controlStatus := .failed f }

theorem controlPass_passed (decode : Multipart → Result XMessage) (s : SplitServer) :
    ControlPassed decode s (s.controlPass decode) := by
  have hidle (hempty : s.controlStatus = .polling → s.control = []) : ControlPassed decode s s :=
    .idle s.controlStatus (fun _ => id) Or.inl hempty
  unfold SplitServer.controlPass
  split
  · rename_i hstatus
    refine .idle _ (fun f hf => ?_) (fun hleft => ?_) (fun hpolling => ?_)
    · split_ifs at hf
    · split_ifs at hleft with hstop
      exact Or.inr hstop
    · exact absurd (hstatus.symm.trans hpolling) nofun
  · rename_i hcontrol
    exact hidle fun _ => hcontrol
  · rename_i wireMsg rest hstatus hcontrol
    cases hdeserialize : SplitServer.deserialize decode wireMsg with
    | error f => exact .failed wireMsg rest f hcontrol (deserialize_eq_error hdeserialize)
    | ok msg =>
        have hread : ControlPassed decode s _ := .read wireMsg rest hcontrol
        rw [callsFor, deserialize_eq_ok hdeserialize] at hread
        cases msg with
        | none => simpa using hread
        | some msg => exact hread
  · rename_i hstatus
    exact hidle fun hpolling => absurd (hstatus.symm.trans hpolling) nofun
  · rename_i hstatus
    exact hidle fun hpolling => absurd (hstatus.symm.trans hpolling) nofun

/-- What one step of the shell thread can do. -/
inductive ShellPassed (decode : Multipart → Result XMessage) (pollError : Option Nat)
    (s : SplitServer) : SplitServer → Prop
  | idle (status : LoopStatus)
      (hfailed : ∀ f, status = .failed f → s.shellStatus = .failed f ∨ Fatal pollError)
      (hleft : status = .left → s.shellStatus = .left)
      (hloop : status = .checking → s.shellStatus = .checking)
      (hempty : s.shellStatus = .polling → pollError = none → s.shell = []) :
      ShellPassed decode pollError s { s with shellStatus := status }
  | read (wireMsg : Multipart) (rest : List Multipart) (hshell : s.shell = wireMsg :: rest) :
      ShellPassed decode pollError s
        { s with shell := rest, calls := s.calls ++ callsFor decode .shell wireMsg }
  | failed (wireMsg : Multipart) (rest : List Multipart) (f : Failure)
      (hshell : s.shell = wireMsg :: rest) (hharmful : Harmful decode wireMsg) :
      ShellPassed decode pollError s { s with shell := rest, shellStatus := .failed f }
  | replied (val reply : Bytes) (rest : List Bytes) (hshell : s.shell = [])
      (hcontroller : s.shellController = val :: rest) :
      ShellPassed decode pollError s
        { s with shellController := rest, replies := s.replies ++ [reply] }
  | left (rest : List Bytes) (hshell : s.shell = [])
      (hcontroller : s.shellController = literal "stop" :: rest) :
      ShellPassed decode pollError s
        { s with
          shellController := rest
          replies := s.replies ++ [literal "stop"]
          shellStatus := .left }

theorem readShell_passed {s : SplitServer} {pollError : Option Nat} {wireMsg : Multipart}
    {rest : List Multipart} (hshell : s.shell = wireMsg :: rest) :
    ShellPassed decode pollError s (s.readShell decode) := by
  unfold SplitServer.readShell
  rw [hshell]
  simp only
  cases hdeserialize : SplitServer.deserialize decode wireMsg with
  | error f => exact .failed wireMsg rest f hshell (deserialize_eq_error hdeserialize)
  | ok msg =>
      have hread : ShellPassed decode pollError s _ := .read wireMsg rest hshell
      rw [callsFor, deserialize_eq_ok hdeserialize] at hread
      cases msg with
      | none => simpa using hread
      | some msg => exact hread

theorem readController_passed {s : SplitServer} {pollError : Option Nat} {val : Bytes}
    {rest : List Bytes} (hshell : s.shell = []) (hcontroller : s.shellController = val :: rest) :
    ShellPassed decode pollError s (s.readController internalListener) := by
  unfold SplitServer.readController
  rw [hcontroller]
  simp only
  split_ifs with hstop
  · subst hstop
    exact .left rest hshell hcontroller
  · exact .replied val (internalListener val) rest hshell hcontroller

theorem shellPass_passed (decode : Multipart → Result XMessage)
    (internalListener : Bytes → Bytes) (pollError : Option Nat) (s : SplitServer) :
    ShellPassed decode pollError s (s.shellPass decode internalListener pollError) := by
  have hidle (hempty : s.shellStatus = .polling → pollError = none → s.shell = []) :
      ShellPassed decode pollError s s :=
    .idle s.shellStatus (fun _ => Or.inl) id id hempty
  unfold SplitServer.shellPass SplitServer.pollShellChannels
  split
  · rcases pollError with _ | num
    · cases hshell : s.shell with
      | cons wireMsg rest => exact readShell_passed hshell
      | nil =>
          cases hcontroller : s.shellController with
          | nil => exact hidle fun _ _ => hshell
          | cons val rest => exact readController_passed hshell hcontroller
    · by_cases hnum : num ≠ eintr ∧ num ≠ eterm
      · simp only [catchZmqError, if_pos hnum]
        exact .idle _ (fun f _ => Or.inr ⟨num, rfl, hnum⟩) nofun nofun nofun
      · simp only [catchZmqError, if_neg hnum]
        exact hidle nofun
  · rename_i hstatus
    exact hidle fun hpolling => absurd hpolling hstatus

/-! Runs. -/

theorem read_ports (s : SplitServer) (channel : Channel) {wireMsg : Multipart}
    {rest : List Multipart} (hpending : s.pending channel = wireMsg :: rest) :
    Ports.Step (decoded decode) (ports s) none
      ⟨(s.setPending channel rest).pending, s.calls ++ callsFor decode channel wireMsg⟩ := by
  rw [pending_setPending]
  exact .take channel wireMsg rest hpending

theorem failed_ports (s : SplitServer) (channel : Channel) {wireMsg : Multipart}
    {rest : List Multipart} (hpending : s.pending channel = wireMsg :: rest)
    (hharmful : Harmful decode wireMsg) :
    Ports.Step (decoded decode) (ports s) none ⟨(s.setPending channel rest).pending, s.calls⟩ := by
  obtain ⟨u, hu⟩ := hharmful
  have hread : Ports.Step (decoded decode) (ports s) none _ := read_ports s channel hpending
  rw [callsFor, decoded_of_error hu] at hread
  simpa using hread

theorem step_ports (s : SplitServer) (event : SplitEvent) :
    Ports.Step (decoded decode) (ports s) (arrival event)
      (ports (s.step decode internalListener event)) := by
  cases event with
  | arrive channel wireMsg =>
      have hports : ports (s.step decode internalListener (.arrive channel wireMsg)) =
          ⟨Function.update s.pending channel (s.pending channel ++ [wireMsg]), s.calls⟩ := by
        rw [SplitServer.step, SplitServer.arrive, ports, pending_setPending]
        cases channel <;> rfl
      rw [hports]
      exact .arrive channel wireMsg
  | request message => exact .idle
  | stop => exact .idle
  | controlPass =>
      have hpassed := controlPass_passed decode s
      rw [SplitServer.step]
      generalize s.controlPass decode = s' at hpassed
      cases hpassed with
      | idle => exact .idle
      | read wireMsg rest hcontrol => exact read_ports s .control hcontrol
      | failed wireMsg rest f hcontrol hharmful =>
          exact failed_ports s .control hcontrol hharmful
  | shellPass pollError =>
      have hpassed :=
        shellPass_passed decode internalListener pollError s
      rw [SplitServer.step]
      generalize s.shellPass decode internalListener pollError = s' at hpassed
      cases hpassed with
      | idle => exact .idle
      | read wireMsg rest hshell => exact read_ports s .shell hshell
      | failed wireMsg rest f hshell hharmful =>
          exact failed_ports s .shell hshell hharmful
      | replied => exact .idle
      | left => exact .idle

def run (decode : Multipart → Result XMessage) (internalListener : Bytes → Bytes) :
    List SplitEvent → SplitServer :=
  Runs.run (SplitServer.step decode internalListener) .initial

def arrivals (events : List SplitEvent) : List (Channel × Multipart) :=
  events.filterMap arrival

theorem arrivals_concat (events : List SplitEvent) (event : SplitEvent) :
    arrivals (events ++ [event]) = arrivals events ++ (arrival event).toList :=
  filterMap_concat arrival events event

theorem run_relay (decode : Multipart → Result XMessage)
    (internalListener : Bytes → Bytes) (events : List SplitEvent) :
    (ports (run decode internalListener events)).Relay (decoded decode) (arrivals events) := by
  apply run_induction (P := fun events s => (ports s).Relay (decoded decode) (arrivals events))
  · intro channel
    cases channel <;> exact .initial
  · intro events event ih
    rw [arrivals_concat]
    exact (step_ports _ event).relay ih

structure Justified (decode : Multipart → Result XMessage) (events : List SplitEvent)
    (s : SplitServer) : Prop where
  requestStop : s.requestStop = true → .stop ∈ events
  controlLeft : s.controlStatus = .left → .stop ∈ events
  requests : ∀ message ∈ s.shellController, .request message ∈ events
  shellLeft : s.shellStatus = .left → .request (literal "stop") ∈ events
  shellLoop : s.shellStatus ≠ .checking
  failed : ∀ channel f, s.status channel = .failed f →
    (∃ wireMsg ∈ on channel (arrivals events), Harmful decode wireMsg) ∨
      ∃ pollError, .shellPass pollError ∈ events ∧ Fatal pollError

theorem mem_arrivals_append {channel : Channel} {wireMsg : Multipart} {events : List SplitEvent}
    (events' : List SplitEvent) (h : wireMsg ∈ on channel (arrivals events)) :
    wireMsg ∈ on channel (arrivals (events ++ events')) := by
  rw [arrivals, List.filterMap_append, on_append]
  exact List.mem_append_left _ h

theorem Justified.append {events : List SplitEvent} {s : SplitServer}
    (h : Justified decode events s) (events' : List SplitEvent) :
    Justified decode (events ++ events') s where
  requestStop hstop := List.mem_append_left _ (h.requestStop hstop)
  controlLeft hleft := List.mem_append_left _ (h.controlLeft hleft)
  requests message hmem := List.mem_append_left _ (h.requests message hmem)
  shellLeft hleft := List.mem_append_left _ (h.shellLeft hleft)
  shellLoop := h.shellLoop
  failed channel f hf := by
    rcases h.failed channel f hf with ⟨wireMsg, hmem, hharmful⟩ | ⟨pollError, hmem, hfatal⟩
    · exact Or.inl ⟨wireMsg, mem_arrivals_append events' hmem, hharmful⟩
    · exact Or.inr ⟨pollError, List.mem_append_left _ hmem, hfatal⟩

/-- Only the flag, the statuses and the requests still to be read matter. -/
theorem Justified.congr {events : List SplitEvent} {s s' : SplitServer}
    (h : Justified decode events s) (hstop : s'.requestStop = s.requestStop)
    (hcontrol : s'.controlStatus = s.controlStatus) (hshell : s'.shellStatus = s.shellStatus)
    (hrequests : ∀ message ∈ s'.shellController, .request message ∈ events) :
    Justified decode events s' where
  requestStop hrequest := h.requestStop (hstop ▸ hrequest)
  controlLeft hleft := h.controlLeft (hcontrol ▸ hleft)
  requests := hrequests
  shellLeft hleft := h.shellLeft (hshell ▸ hleft)
  shellLoop := hshell ▸ h.shellLoop
  failed channel f hf := by
    have hstatus : s'.status channel = s.status channel := by
      cases channel
      · exact hshell
      · exact hcontrol
    exact h.failed channel f (hstatus ▸ hf)

theorem justified_controlPassed {events : List SplitEvent} {s s' : SplitServer}
    (hrelay : (ports s).Relay (decoded decode) (arrivals events))
    (h : Justified decode events s) (hpassed : ControlPassed decode s s') :
    Justified decode (events ++ [.controlPass]) s' := by
  have hsame := h.append [.controlPass]
  cases hpassed with
  | idle status hfailed hleft hempty =>
      refine ⟨hsame.requestStop, fun hs => ?_, hsame.requests, hsame.shellLeft, hsame.shellLoop, ?_⟩
      · exact (hleft hs).elim hsame.controlLeft hsame.requestStop
      · rintro (_ | _) f hf
        · exact hsame.failed .shell f hf
        · exact hsame.failed .control f (hfailed f hf)
  | read wireMsg rest hcontrol =>
      refine ⟨hsame.requestStop, nofun, hsame.requests, hsame.shellLeft, hsame.shellLoop, ?_⟩
      rintro (_ | _) f hf
      · exact hsame.failed .shell f hf
      · exact absurd hf nofun
  | failed wireMsg rest f hcontrol hharmful =>
      refine ⟨hsame.requestStop, nofun, hsame.requests, hsame.shellLeft, hsame.shellLoop, ?_⟩
      rintro (_ | _) f' hf'
      · exact hsame.failed .shell f' hf'
      · refine Or.inl ⟨wireMsg, mem_arrivals_append _ ?_, hharmful⟩
        apply (hrelay .control).mem_arrived
        show wireMsg ∈ s.control
        rw [hcontrol]
        exact List.mem_cons_self

theorem justified_shellPassed {events : List SplitEvent} {pollError : Option Nat}
    {s s' : SplitServer} (hrelay : (ports s).Relay (decoded decode) (arrivals events))
    (h : Justified decode events s) (hpassed : ShellPassed decode pollError s s') :
    Justified decode (events ++ [.shellPass pollError]) s' := by
  have hsame := h.append [.shellPass pollError]
  have hrest {val : Bytes} {rest : List Bytes} (hcontroller : s.shellController = val :: rest) :
      ∀ message ∈ rest, .request message ∈ events ++ [.shellPass pollError] := fun message hmem =>
    hsame.requests message (hcontroller ▸ List.mem_cons_of_mem val hmem)
  cases hpassed with
  | idle status hfailed hleft hloop hempty =>
      refine ⟨hsame.requestStop, hsame.controlLeft, hsame.requests,
        fun hs => hsame.shellLeft (hleft hs), fun hs => hsame.shellLoop (hloop hs), ?_⟩
      rintro (_ | _) f hf
      · rcases hfailed f hf with hf | hfatal
        · exact hsame.failed .shell f hf
        · exact Or.inr ⟨pollError, List.mem_concat_self, hfatal⟩
      · exact hsame.failed .control f hf
  | read wireMsg rest hshell => exact hsame.congr rfl rfl rfl hsame.requests
  | failed wireMsg rest f hshell hharmful =>
      refine ⟨hsame.requestStop, hsame.controlLeft, hsame.requests, nofun, nofun, ?_⟩
      rintro (_ | _) f' hf'
      · refine Or.inl ⟨wireMsg, mem_arrivals_append _ ?_, hharmful⟩
        apply (hrelay .shell).mem_arrived
        show wireMsg ∈ s.shell
        rw [hshell]
        exact List.mem_cons_self
      · exact hsame.failed .control f' hf'
  | replied val reply rest hshell hcontroller =>
      exact hsame.congr rfl rfl rfl (hrest hcontroller)
  | left rest hshell hcontroller =>
      refine ⟨hsame.requestStop, hsame.controlLeft, hrest hcontroller, fun _ => ?_, nofun, ?_⟩
      · exact hsame.requests _ (hcontroller ▸ List.mem_cons_self)
      · rintro (_ | _) f hf
        · exact absurd hf nofun
        · exact hsame.failed .control f hf

theorem run_justified (decode : Multipart → Result XMessage)
    (internalListener : Bytes → Bytes) (events : List SplitEvent) :
    Justified decode events (run decode internalListener events) := by
  apply run_induction (P := Justified decode)
  · refine ⟨nofun, nofun, ?_, nofun, nofun, ?_⟩
    · exact fun message hmem => absurd hmem List.not_mem_nil
    · rintro (_ | _) f hf <;> exact absurd hf nofun
  · intro events event ih
    have hlast : event ∈ events ++ [event] :=
      List.mem_concat_self
    have hsame := ih.append [event]
    cases event with
    | arrive channel wireMsg =>
        cases channel <;> exact hsame.congr rfl rfl rfl hsame.requests
    | request message =>
        refine hsame.congr rfl rfl rfl ?_
        intro message' hmem
        rcases List.mem_append.mp hmem with hmem | hmem
        · exact hsame.requests message' hmem
        · rwa [List.mem_singleton.mp hmem]
    | stop =>
        exact ⟨fun _ => hlast, fun _ => hlast, hsame.requests, hsame.shellLeft, hsame.shellLoop,
          fun channel f hf => hsame.failed channel f (by cases channel <;> exact hf)⟩
    | controlPass =>
        exact justified_controlPassed (run_relay decode internalListener events) ih
          (controlPass_passed decode _)
    | shellPass pollError =>
        exact justified_shellPassed (run_relay decode internalListener events) ih
          (shellPass_passed decode internalListener pollError _)

structure ControlRunning (decode : Multipart → Result XMessage) (s : SplitServer) : Prop where
  status : s.controlStatus = .checking ∨ s.controlStatus = .polling
  requestStop : s.requestStop = false
  harmless : ∀ wireMsg ∈ s.control, ¬ Harmful decode wireMsg

def controlWork (s : SplitServer) : Nat :=
  2 * s.control.length + if s.controlStatus = .checking then 1 else 0

theorem controlPass_progress {s : SplitServer} (h : ControlRunning decode s)
    (hwaits : s.control ≠ []) :
    ControlRunning decode (s.controlPass decode) ∧
      controlWork (s.controlPass decode) < controlWork s := by
  rcases h.status with hstatus | hstatus
  · have hpass : s.controlPass decode = { s with controlStatus := .polling } := by
      simp [SplitServer.controlPass, hstatus, h.requestStop]
    rw [hpass]
    exact ⟨⟨Or.inr rfl, h.requestStop, h.harmless⟩, by simp [controlWork, hstatus]⟩
  · have hpassed := controlPass_passed decode s
    generalize s.controlPass decode = s' at hpassed
    cases hpassed with
    | idle status hfailed hleft hempty => exact absurd (hempty hstatus) hwaits
    | read wireMsg rest hcontrol =>
        refine ⟨⟨Or.inl rfl, h.requestStop, fun wireMsg' hmem => ?_⟩, ?_⟩
        · exact h.harmless wireMsg' (hcontrol ▸ List.mem_cons_of_mem wireMsg hmem)
        · simp only [controlWork, hcontrol, List.length_cons, if_true]
          omega
    | failed wireMsg rest f hcontrol hharmful =>
        exact absurd hharmful (h.harmless wireMsg (hcontrol ▸ List.mem_cons_self))

theorem controlPass_shell (decode : Multipart → Result XMessage) (s : SplitServer) :
    (s.controlPass decode).shell = s.shell ∧
      (s.controlPass decode).shellStatus = s.shellStatus := by
  have hpassed := controlPass_passed decode s
  generalize s.controlPass decode = s' at hpassed
  cases hpassed <;> exact ⟨rfl, rfl⟩

theorem control_drains (internalListener : Bytes → Bytes) {s : SplitServer}
    (h : ControlRunning decode s) :
    ∃ n s', Runs.run (SplitServer.step decode internalListener) s
        (List.replicate n .controlPass) = s' ∧
      s'.control = [] ∧ s'.shell = s.shell ∧ s'.shellStatus = s.shellStatus := by
  have hprogress (t : SplitServer)
      (ht : ControlRunning decode t ∧ t.shell = s.shell ∧ t.shellStatus = s.shellStatus)
      (hwaits : t.control ≠ []) :
      (ControlRunning decode (t.controlPass decode) ∧
        (t.controlPass decode).shell = s.shell ∧
        (t.controlPass decode).shellStatus = s.shellStatus) ∧
      controlWork (t.controlPass decode) < controlWork t := by
    obtain ⟨hrunning, hshell, hstatus⟩ := ht
    obtain ⟨hnext, hless⟩ := controlPass_progress hrunning hwaits
    obtain ⟨hshell', hstatus'⟩ := controlPass_shell decode t
    exact ⟨⟨hnext, hshell'.trans hshell, hstatus'.trans hstatus⟩, hless⟩
  obtain ⟨n, ⟨-, hshell, hstatus⟩, hempty⟩ :=
    run_replicate_reaches (SplitServer.step decode internalListener) .controlPass
      (fun t => ControlRunning decode t ∧ t.shell = s.shell ∧ t.shellStatus = s.shellStatus)
      (fun t => t.control = []) controlWork hprogress ⟨h, rfl, rfl⟩
  exact ⟨n, _, rfl, hempty, hshell, hstatus⟩

structure ShellRunning (decode : Multipart → Result XMessage) (s : SplitServer) : Prop where
  status : s.shellStatus = .polling
  harmless : ∀ wireMsg ∈ s.shell, ¬ Harmful decode wireMsg

theorem shellPass_progress (internalListener : Bytes → Bytes) {s : SplitServer}
    (h : ShellRunning decode s) (hwaits : s.shell ≠ []) :
    ShellRunning decode (s.shellPass decode internalListener none) ∧
      (s.shellPass decode internalListener none).shell.length < s.shell.length := by
  have hpassed := shellPass_passed decode internalListener none s
  generalize s.shellPass decode internalListener none = s' at hpassed
  cases hpassed with
  | idle status hfailed hleft hloop hempty => exact absurd (hempty h.status rfl) hwaits
  | read wireMsg rest hshell =>
      refine ⟨⟨h.status, fun wireMsg' hmem => ?_⟩, ?_⟩
      · exact h.harmless wireMsg' (hshell ▸ List.mem_cons_of_mem wireMsg hmem)
      · simp [hshell]
  | failed wireMsg rest f hshell hharmful =>
      exact absurd hharmful (h.harmless wireMsg (hshell ▸ List.mem_cons_self))
  | replied val reply rest hshell hcontroller => exact absurd hshell hwaits
  | left rest hshell hcontroller => exact absurd hshell hwaits

theorem shellPass_control (internalListener : Bytes → Bytes) (pollError : Option Nat)
    (s : SplitServer) : (s.shellPass decode internalListener pollError).control = s.control := by
  have hpassed := shellPass_passed decode internalListener pollError s
  generalize s.shellPass decode internalListener pollError = s' at hpassed
  cases hpassed <;> rfl

theorem shell_drains (internalListener : Bytes → Bytes) {s : SplitServer}
    (h : ShellRunning decode s) :
    ∃ n s', Runs.run (SplitServer.step decode internalListener) s
        (List.replicate n (.shellPass none)) = s' ∧
      s'.shell = [] ∧ s'.control = s.control := by
  have hprogress (t : SplitServer) (ht : ShellRunning decode t ∧ t.control = s.control)
      (hwaits : t.shell ≠ []) :
      (ShellRunning decode (t.shellPass decode internalListener none) ∧
        (t.shellPass decode internalListener none).control = s.control) ∧
      (t.shellPass decode internalListener none).shell.length < t.shell.length := by
    obtain ⟨hnext, hless⟩ := shellPass_progress internalListener ht.1 hwaits
    exact ⟨⟨hnext, (shellPass_control internalListener none t).trans ht.2⟩, hless⟩
  obtain ⟨n, ⟨-, hcontrol⟩, hempty⟩ :=
    run_replicate_reaches (SplitServer.step decode internalListener) (.shellPass none)
      (fun t => ShellRunning decode t ∧ t.control = s.control) (fun t => t.shell = [])
      (fun t => t.shell.length) hprogress ⟨h, rfl⟩
  exact ⟨n, _, rfl, hempty, hcontrol⟩

/-- The two loops pass every well-formed message on, once and in order, and run
until they are asked to stop. -/
structure Serves (decode : Multipart → Result XMessage) (internalListener : Bytes → Bytes)
    (events : List SplitEvent) : Prop where
  dispatches :
    (ports (run decode internalListener events)).Relay (decoded decode) (arrivals events)
  neverFails : ∀ channel f, (run decode internalListener events).status channel ≠ .failed f
  controlLeaves : (run decode internalListener events).controlStatus = .left → .stop ∈ events
  shellLeaves : (run decode internalListener events).shellStatus = .left →
    .request (literal "stop") ∈ events
  reaches : .stop ∉ events → .request (literal "stop") ∉ events → ∃ m n, ∀ channel,
    (run decode internalListener (events ++ List.replicate m .controlPass ++
      List.replicate n (.shellPass none))).pending channel = []

theorem serves {events : List SplitEvent}
    (hpoll : ∀ pollError, .shellPass pollError ∈ events → ¬ Fatal pollError)
    (hharmless : ∀ channel, ∀ wireMsg ∈ on channel (arrivals events), ¬ Harmful decode wireMsg) :
    Serves decode internalListener events := by
  have hjustified := run_justified decode internalListener events
  have hrelay := run_relay decode internalListener events
  have hfailed : ∀ channel f,
      (run decode internalListener events).status channel ≠ .failed f := by
    intro channel f hf
    rcases hjustified.failed channel f hf with ⟨wireMsg, hmem, hharmful⟩ |
      ⟨pollError, hmem, hfatal⟩
    · exact hharmless channel wireMsg hmem hharmful
    · exact hpoll pollError hmem hfatal
  refine ⟨hrelay, hfailed, hjustified.controlLeft, hjustified.shellLeft, fun hstop hshellStop => ?_⟩
  have hpending : ∀ channel, ∀ wireMsg ∈ (run decode internalListener events).pending channel,
      ¬ Harmful decode wireMsg := fun channel wireMsg hmem =>
    hharmless channel wireMsg ((hrelay channel).mem_arrived hmem)
  have hcontrolStatus : (run decode internalListener events).controlStatus = .checking ∨
      (run decode internalListener events).controlStatus = .polling := by
    cases hstatus : (run decode internalListener events).controlStatus with
    | checking => exact Or.inl rfl
    | polling => exact Or.inr rfl
    | left => exact absurd (hjustified.controlLeft hstatus) hstop
    | failed f => exact absurd hstatus (hfailed .control f)
  have hshellStatus : (run decode internalListener events).shellStatus = .polling := by
    cases hstatus : (run decode internalListener events).shellStatus with
    | checking => exact absurd hstatus hjustified.shellLoop
    | polling => rfl
    | left => exact absurd (hjustified.shellLeft hstatus) hshellStop
    | failed f => exact absurd hstatus (hfailed .shell f)
  have hrequest : (run decode internalListener events).requestStop = false := by
    rw [← Bool.not_eq_true]
    exact fun hrequest => hstop (hjustified.requestStop hrequest)
  obtain ⟨m, s₁, hrun₁, hcontrol₁, hshell₁, hstatus₁⟩ :=
    control_drains internalListener ⟨hcontrolStatus, hrequest, hpending .control⟩
  have hharmless₁ : ∀ wireMsg ∈ s₁.shell, ¬ Harmful decode wireMsg := by
    rw [hshell₁]
    exact hpending .shell
  obtain ⟨n, s₂, hrun₂, hshell₂, hcontrol₂⟩ :=
    shell_drains internalListener ⟨hstatus₁.trans hshellStatus, hharmless₁⟩
  refine ⟨m, n, fun channel => ?_⟩
  rw [run, Runs.run_append, Runs.run_append]
  show (Runs.run _ (Runs.run _ (run decode internalListener events) _) _).pending channel = []
  rw [hrun₁, hrun₂]
  cases channel
  · exact hshell₂
  · exact hcontrol₂.trans hcontrol₁

end XeusZmq.SplitDispatch
