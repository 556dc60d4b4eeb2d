import XeusZmq.WireRoundTrip
import XeusZmq.DefaultDispatch
import XeusZmq.SplitDispatch

/-!
Malformed messages and the two families of servers. The split server survives
every exception of the decoder; `poll_channels` of the default server catches
those of ZeroMQ only.
-/

namespace XeusZmq.MalformedMessages

open XeusZmq.Values
open XeusZmq.Authentication
open XeusZmq.Serializer
open XeusZmq.WireRoundTrip
open XeusZmq.ServerLoops
open XeusZmq.FifoPort

/-- In every run in which no more than `inputs` arrives and `zmq::poll` is not
broken, both servers serve, and they dispatch the same messages. -/
structure MalformedNeverStop (decode : Multipart → Result XMessage)
    (internalListener : Bytes → Bytes) (inputs : Channel → List Multipart) : Prop where
  default : ∀ events,
    (∀ channel, on channel (DefaultDispatch.arrivals events) <+: inputs channel) →
    (∀ pollError, .pass pollError ∈ events → ¬ Fatal pollError) →
    DefaultDispatch.Serves decode events
  split : ∀ events,
    (∀ channel, on channel (SplitDispatch.arrivals events) <+: inputs channel) →
    (∀ pollError, .shellPass pollError ∈ events → ¬ Fatal pollError) →
    SplitDispatch.Serves decode internalListener events
  sameDispatches : ∀ events events',
    (∀ channel, on channel (DefaultDispatch.arrivals events) = inputs channel) →
    (∀ channel, on channel (SplitDispatch.arrivals events') = inputs channel) →
    (∀ channel, (DefaultDispatch.run decode events).pending channel = []) →
    (∀ channel, (SplitDispatch.run decode internalListener events').pending channel = []) →
    ∀ channel, on channel (DefaultDispatch.run decode events).calls =
      on channel (SplitDispatch.run decode internalListener events').calls

def arriving (inputs : Channel → List Multipart) : List DefaultEvent :=
  (inputs .control).map (.arrive .control) ++ (inputs .shell).map (.arrive .shell)

theorem on_arrive (channel channel' : Channel) (wireMsgs : List Multipart) :
    on channel (DefaultDispatch.arrivals (wireMsgs.map (.arrive channel'))) =
      if channel' = channel then wireMsgs else [] := by
  induction wireMsgs with
  | nil => simp [DefaultDispatch.arrivals]
  | cons wireMsg wireMsgs ih =>
      show on channel ((channel', wireMsg) ::
        DefaultDispatch.arrivals (wireMsgs.map (.arrive channel'))) = _
      by_cases hchannel : channel' = channel
      · subst hchannel
        rw [on_cons_self, ih]
        simp
      · rw [on_cons_of_ne hchannel, ih]
        simp [hchannel]

theorem on_arriving (inputs : Channel → List Multipart) (channel : Channel) :
    on channel (DefaultDispatch.arrivals (arriving inputs)) = inputs channel := by
  rw [arriving, DefaultDispatch.arrivals, List.filterMap_append, on_append]
  show on channel (DefaultDispatch.arrivals _) ++ on channel (DefaultDispatch.arrivals _) = _
  rw [on_arrive, on_arrive]
  cases channel <;> simp

theorem on_arrivals_pass (channel : Channel) (events : List DefaultEvent) (n : Nat) :
    on channel (DefaultDispatch.arrivals (events ++ List.replicate n (.pass none))) =
      on channel (DefaultDispatch.arrivals events) := by
  have hnone : (List.replicate n (DefaultEvent.pass none)).filterMap DefaultDispatch.arrival =
      [] := by
    simp [List.filterMap_replicate, DefaultDispatch.arrival]
  rw [DefaultDispatch.arrivals, List.filterMap_append, hnone, List.append_nil]
  rfl

theorem decode_of_serves {decode : Multipart → Result XMessage}
    (hzmq : DefaultDispatch.NoZmqError decode)
    {inputs : Channel → List Multipart}
    (hserves : ∀ events,
      (∀ channel, on channel (DefaultDispatch.arrivals events) <+: inputs channel) →
      (∀ pollError, .pass pollError ∈ events → ¬ Fatal pollError) →
      DefaultDispatch.Serves decode events)
    (channel : Channel) (wireMsg : Multipart) (hmem : wireMsg ∈ inputs channel) :
    ∃ msg, decode wireMsg = .ok msg := by
  have hrun (n : Nat) :
      DefaultDispatch.Serves decode (arriving inputs ++ List.replicate n (.pass none)) := by
    apply hserves
    · intro channel
      rw [on_arrivals_pass, on_arriving]
    · rintro pollError hpass ⟨num, rfl, -⟩
      rcases List.mem_append.mp hpass with hpass | hpass
      · simp [arriving] at hpass
      · simpa using (List.mem_replicate.mp hpass).2
  have hnoStop : DefaultEvent.stop ∉ arriving inputs := by
    simp [arriving]
  obtain ⟨n, hn⟩ := (by simpa using hrun 0 : DefaultDispatch.Serves _ _).reaches hnoStop
  have haccounted := DefaultDispatch.run_accounted hzmq _ (hrun n).neverFails channel
  have hrelay := (hrun n).dispatches channel
  simp only [DefaultDispatch.ports, hn, on_arrivals_pass, on_arriving] at haccounted hrelay
  have hlength : ((inputs channel).filterMap (decoded decode)).length =
      (inputs channel).length := by
    rw [← hrelay.output_eq]
    simpa using haccounted
  have hsome := List.filterMap_length_eq_length.mp hlength wireMsg hmem
  cases hdecode : decode wireMsg with
  | ok msg => exact ⟨msg, rfl⟩
  | error f =>
      rw [decoded_of_error hdecode] at hsome
      exact absurd hsome Bool.false_ne_true

/-- Malformed messages never stop the servers exactly as long as there are
none: the first one read ends the loop of the default server. -/
theorem malformedNeverStop_iff (ssl : OpenSsl) (hexString : Bytes → Bytes)
    (scheme key : Bytes) (auth : XAuthentication)
    (hauth : makeXAuthentication ssl hexString scheme key = .ok auth) (json : JsonLibrary)
    (internalListener : Bytes → Bytes) (inputs : Channel → List Multipart) :
    MalformedNeverStop (deserialize json auth) internalListener inputs ↔
      ∀ channel, ∀ wireMsg ∈ inputs channel, ∃ msg, deserialize json auth wireMsg = .ok msg := by
  have hzmq : DefaultDispatch.NoZmqError (deserialize json auth) :=
    deserialize_ne_zmqError json (makeXAuthentication_verify_ne_exception hauth)
  constructor
  · intro h
    exact decode_of_serves hzmq h.default
  · intro hok
    refine ⟨?_, ?_, ?_⟩
    · intro events hwithin hpoll
      apply DefaultDispatch.serves hzmq hpoll
      intro channel wireMsg hmem
      exact hok channel wireMsg ((hwithin channel).subset hmem)
    · intro events hwithin hpoll
      apply SplitDispatch.serves hpoll
      rintro channel wireMsg hmem ⟨u, hu⟩
      obtain ⟨msg, hmsg⟩ := hok channel wireMsg ((hwithin channel).subset hmem)
      exact absurd (hmsg.symm.trans hu) nofun
    · intro events events' harrived harrived' hpending hpending' channel
      have hrelay := DefaultDispatch.run_relay hzmq events channel
      have hrelay' :=
        SplitDispatch.run_relay (deserialize json auth) internalListener events' channel
      simp only [DefaultDispatch.ports, hpending, harrived] at hrelay
      simp only [SplitDispatch.ports, hpending', harrived'] at hrelay'
      exact hrelay.output_eq.trans hrelay'.output_eq.symm

/-- Two requests on the shell and one on the control channel. -/
theorem malformedNeverStop_emptyObjects :
    let frames : Multipart := [literal "{}", literal "{}", literal "{}", literal "{}"]
    let signature := sha256Authentication.sign (literal "{}") (literal "{}") (literal "{}")
      (literal "{}")
    let request : Multipart := literal "client" :: delimiter :: signature :: frames
    MalformedNeverStop (deserialize emptyObjectLibrary sha256Authentication) id
      fun
      | .shell => [request, request]
      | .control => [request] := by
  intro frames signature request
  apply (malformedNeverStop_iff sha256OpenSsl lowerHex (literal "hmac-sha256") (literal "key")
    sha256Authentication rfl emptyObjectLibrary id _).mpr
  have hrequest : ∃ msg,
      deserialize emptyObjectLibrary sha256Authentication request = .ok msg := ⟨_, rfl⟩
  rintro (_ | _) wireMsg hmem
  · obtain rfl : wireMsg = request := by simpa using hmem
    exact hrequest
  · obtain rfl : wireMsg = request := by simpa using hmem
    exact hrequest

theorem not_malformedNeverStop :
    ¬ MalformedNeverStop (deserialize emptyObjectLibrary sha256Authentication) id
      fun
      | .shell => [[literal "hello"]]
      | .control => [] := by
  intro h
  have hserves := h.default [.arrive .shell [literal "hello"], .pass none, .pass none]
    (by rintro (_ | _) <;> exact List.prefix_refl _)
    (by rintro pollError hpass ⟨num, rfl, -⟩; simp at hpass)
  exact hserves.neverFails _ rfl

end XeusZmq.MalformedMessages
