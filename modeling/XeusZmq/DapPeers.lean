import XeusZmq.DapFramingCorrectness
import XeusZmq.TabledJson

/-!
The stream socket in server mode, on which any peer may connect and send. The reader
drops the identities of the chunks, so that it hears every peer.
-/

namespace XeusZmq.DapPeers

open XeusZmq.Values
open XeusZmq.Search
open XeusZmq.DecimalText
open XeusZmq.DapFraming
open XeusZmq.DapFramingCorrectness
open XeusZmq.DapClient

/-- The messages that calls of `handle_tcp_socket` put into the queue, one call after the
other until one does not return. -/
def handleTcpCalls : Nat → List StreamChunk → List Bytes
  | 0, _ => []
  | calls + 1, chunks =>
      match handleTcpSocket chunks [] with
      | (messages, .ok rest) => messages ++ handleTcpCalls calls rest
      | (messages, .error _) => messages

/-- Every call that returns has read a chunk. -/
def queuedMessages (chunks : List StreamChunk) : List Bytes :=
  handleTcpCalls (chunks.length + 1) chunks

def own (socketId : Bytes) (chunks : List StreamChunk) : List StreamChunk :=
  chunks.filter fun chunk => chunk.identity == socketId

def foreign (socketId : Bytes) (chunks : List StreamChunk) : List StreamChunk :=
  chunks.filter fun chunk => chunk.identity != socketId

/-- The chunks that are not notices of a connection that is made or closed. -/
def withData (chunks : List StreamChunk) : List StreamChunk :=
  chunks.filter fun chunk => chunk.content != []

/-! A call that returns has read a chunk. -/

section Progress

variable {reading reading' : Reading}

/-- The chunks that a pass leaves are the last of those that it has found, and with an
empty buffer it reads one. -/
theorem receiveMessage_chunks {received : Bool}
    (hpos : reading.headerPos = find header reading.buffer reading.hint)
    (h : receiveMessage reading = .ok (received, reading')) :
    reading'.chunks <:+ reading.chunks ∧
      (reading.headerPos = none → reading'.chunks.length < reading.chunks.length) := by
  obtain ⟨headerPos, separatorPos, msgSize, message, buffer₁, buffer₂, chunks₁, chunks₂, hheader,
    hseparator, hbody, -, -⟩ := receiveMessage_eq_ok h
  have hsuffix₂ : chunks₂ <:+ chunks₁ := (receiveUntil_eq_ok hseparator).2.2.2
  have hsuffix₃ : reading'.chunks <:+ chunks₂ := (receiveUntil_eq_ok hbody).2.2.2
  have hsuffix₁ : chunks₁ <:+ reading.chunks := by
    rw [hpos] at hheader
    exact (receiveUntil_eq_ok hheader).2.2.2
  refine ⟨(hsuffix₃.trans hsuffix₂).trans hsuffix₁, fun hnone => ?_⟩
  rw [hnone] at hheader
  cases hchunks : reading.chunks with
  | nil =>
      rw [hchunks] at hheader
      cases hheader
  | cons chunk chunks =>
      rw [hchunks, receiveUntil] at hheader
      have htail : chunks₁ <:+ chunks := (receiveUntil_eq_ok hheader).2.2.2
      have hlength := ((hsuffix₃.trans hsuffix₂).trans htail).length_le
      rw [List.length_cons]
      omega

theorem handleTcpLoop_chunks {fuel : Nat} {messages : List Bytes} {rest : List StreamChunk}
    (hpos : reading.headerPos = find header reading.buffer reading.hint)
    (h : handleTcpLoop fuel reading = (messages, .ok rest)) :
    rest <:+ reading.chunks ∧
      (reading.headerPos = none → rest.length < reading.chunks.length) := by
  induction fuel generalizing reading with
  | zero => cases h
  | succ fuel ih =>
      rw [handleTcpLoop] at h
      cases hreceive : receiveMessage reading with
      | error stop =>
          rw [hreceive] at h
          cases h
      | ok result =>
          obtain ⟨received, reading'⟩ := result
          obtain ⟨hsuffix, hless⟩ := receiveMessage_chunks hpos hreceive
          rw [hreceive] at h
          cases received with
          | true =>
              cases h
              exact ⟨hsuffix, hless⟩
          | false =>
              obtain ⟨hsuffix', -⟩ := ih (receiveMessage_hint hpos hreceive).1 h
              exact ⟨hsuffix'.trans hsuffix, fun hnone =>
                Nat.lt_of_le_of_lt hsuffix'.length_le (hless hnone)⟩

theorem handleTcpSocket_length {chunks rest : List StreamChunk} {queue messages : List Bytes}
    (h : handleTcpSocket chunks queue = (messages, .ok rest)) : rest.length < chunks.length :=
  (handleTcpLoop_chunks rfl h).2 rfl

theorem handleTcpCalls_eq {calls calls' : Nat} {chunks : List StreamChunk}
    (hcalls : chunks.length < calls) (hcalls' : chunks.length < calls') :
    handleTcpCalls calls chunks = handleTcpCalls calls' chunks := by
  induction calls generalizing calls' chunks with
  | zero => exact absurd hcalls (Nat.not_lt_zero _)
  | succ calls ih =>
      obtain ⟨calls', rfl⟩ := Nat.exists_eq_succ_of_ne_zero (Nat.ne_of_gt
        (Nat.lt_of_le_of_lt (Nat.zero_le _) hcalls'))
      simp only [handleTcpCalls]
      split
      · next messages rest hcall =>
          have hless := handleTcpSocket_length hcall
          have hrest : handleTcpCalls calls rest = handleTcpCalls calls' rest :=
            ih (by omega) (by omega)
          rw [hrest]
      · rfl

end Progress

/-! Notices change nothing. -/

section Notices

theorem contents_withData (chunks : List StreamChunk) :
    contents (withData chunks) = contents chunks := by
  induction chunks with
  | nil => rfl
  | cons chunk chunks ih =>
      rw [withData, List.filter_cons]
      split
      · rw [contents_cons, contents_cons, ← ih, withData]
      · next hnotice =>
          obtain hempty : chunk.content = [] := by simpa using hnotice
          rw [contents_cons, hempty, List.nil_append, ← ih, withData]

theorem receiveUntil_withData {α : Type} (test : Bytes → Option α) (buffer : Bytes)
    (chunks : List StreamChunk) :
    receiveUntil test (test buffer) buffer (withData chunks) =
      (receiveUntil test (test buffer) buffer chunks).map fun result =>
        (result.1, result.2.1, withData result.2.2) := by
  induction chunks generalizing buffer with
  | nil => cases test buffer <;> rfl
  | cons chunk chunks ih =>
      cases htest : test buffer with
      | some a => simp only [receiveUntil, Except.map]
      | none =>
          rw [withData, List.filter_cons]
          split
          · rw [receiveUntil, receiveUntil]
            exact ih _
          · next hnotice =>
              obtain hempty : chunk.content = [] := by simpa using hnotice
              have hsame : appendTcpMessage buffer chunk = buffer := by
                rw [appendTcpMessage, hempty, List.append_nil]
              rw [receiveUntil, hsame, ← htest]
              exact ih buffer

def dropNotices (reading : Reading) : Reading :=
  { reading with chunks := withData reading.chunks }

theorem receiveMessage_dropNotices {reading : Reading}
    (hpos : reading.headerPos = find header reading.buffer reading.hint) :
    receiveMessage (dropNotices reading) =
      (receiveMessage reading).map fun result => (result.1, dropNotices result.2) := by
  unfold receiveMessage dropNotices
  simp only [hpos, receiveUntil_withData]
  cases receiveUntil (find header · reading.hint) (find header reading.buffer reading.hint)
      reading.buffer reading.chunks with
  | error stop => rfl
  | ok result =>
      obtain ⟨headerPos, buffer₁, chunks₁⟩ := result
      simp only [Except.map, ok_bind, receiveUntil_withData]
      cases receiveUntil (find separator · (headerPos + headerLength))
          (find separator buffer₁ (headerPos + headerLength)) buffer₁ chunks₁ with
      | error stop => rfl
      | ok result =>
          obtain ⟨separatorPos, buffer₂, chunks₂⟩ := result
          simp only [ok_bind]
          cases liftStop (substr buffer₂ (headerPos + headerLength) separatorPos) with
          | error stop => rfl
          | ok number =>
              simp only [ok_bind]
              cases liftStop (stoull number) with
              | error stop => rfl
              | ok msgSize =>
                  simp only [ok_bind]
                  cases checkSize buffer₂ (separatorPos + separatorLength) with
                  | error stop => rfl
                  | ok _ =>
                      simp only [ok_bind, receiveUntil_withData]
                      cases receiveUntil (fullMessage (separatorPos + separatorLength) msgSize)
                          (fullMessage (separatorPos + separatorLength) msgSize buffer₂) buffer₂
                          chunks₂ with
                      | error stop => rfl
                      | ok result =>
                          obtain ⟨_, buffer₃, chunks₃⟩ := result
                          simp only [Except.map, ok_bind]
                          split
                          · cases liftStop (substrFrom buffer₃ (separatorPos + separatorLength)) <;>
                              rfl
                          · cases liftStop (substr buffer₃ (separatorPos + separatorLength)
                              msgSize) <;> rfl

theorem handleTcpLoop_dropNotices {fuel : Nat} {reading : Reading}
    (hpos : reading.headerPos = find header reading.buffer reading.hint) :
    handleTcpLoop fuel (dropNotices reading) =
      ((handleTcpLoop fuel reading).1, (handleTcpLoop fuel reading).2.map withData) := by
  induction fuel generalizing reading with
  | zero => rfl
  | succ fuel ih =>
      rw [handleTcpLoop, handleTcpLoop, receiveMessage_dropNotices hpos]
      cases hreceive : receiveMessage reading with
      | error stop => rfl
      | ok result =>
          obtain ⟨received, reading'⟩ := result
          cases received with
          | true => rfl
          | false => exact ih (receiveMessage_hint hpos hreceive).1

theorem handleTcpSocket_withData (chunks : List StreamChunk) (queue : List Bytes) :
    handleTcpSocket (withData chunks) queue =
      ((handleTcpSocket chunks queue).1, (handleTcpSocket chunks queue).2.map withData) := by
  have hpos : (⟨[], none, 0, queue, chunks⟩ : Reading).headerPos = find header [] 0 := rfl
  rw [handleTcpSocket, contents_withData]
  exact handleTcpLoop_dropNotices hpos

theorem handleTcpCalls_withData (calls : Nat) (chunks : List StreamChunk) :
    handleTcpCalls calls (withData chunks) = handleTcpCalls calls chunks := by
  induction calls generalizing chunks with
  | zero => rfl
  | succ calls ih =>
      rw [handleTcpCalls, handleTcpCalls, handleTcpSocket_withData]
      rcases handleTcpSocket chunks [] with ⟨messages, result⟩
      cases result with
      | error stop => rfl
      | ok rest => exact congrArg (messages ++ ·) (ih rest)

theorem queuedMessages_withData (chunks : List StreamChunk) :
    queuedMessages (withData chunks) = queuedMessages chunks := by
  have hlength : (withData chunks).length ≤ chunks.length := List.length_filter_le _ _
  rw [queuedMessages, queuedMessages, ← handleTcpCalls_withData _ chunks]
  exact handleTcpCalls_eq (Nat.lt_succ_self _) (Nat.lt_succ_of_le hlength)

end Notices

/-! The first message of a stream. -/

section First

variable {reading reading' : Reading}

theorem receiveMessage_queue {received : Bool}
    (h : receiveMessage reading = .ok (received, reading')) : reading.queue <+: reading'.queue := by
  obtain ⟨_, _, _, message, _, _, _, _, -, -, -, hqueue, -⟩ := receiveMessage_eq_ok h
  rw [hqueue]
  exact List.prefix_append _ _

theorem handleTcpLoop_queue (fuel : Nat) (reading : Reading) :
    reading.queue <+: (handleTcpLoop fuel reading).1 := by
  induction fuel generalizing reading with
  | zero => exact List.prefix_rfl
  | succ fuel ih =>
      rw [handleTcpLoop]
      cases hreceive : receiveMessage reading with
      | error stop => exact List.prefix_rfl
      | ok result =>
          obtain ⟨received, reading'⟩ := result
          cases received with
          | true => exact receiveMessage_queue hreceive
          | false => exact (receiveMessage_queue hreceive).trans (ih reading')

/-- Whatever is behind it, a frame at the beginning of the stream is the first message. -/
theorem queuedMessages_front {chunks : List StreamChunk} {body : StdString} {rest : Bytes}
    (h : contents chunks = dapFrame body.1 ++ rest) : [body.1] <+: queuedMessages chunks := by
  have hframed : Framed [] (dapFrame body.1 ++ rest) ⟨[], none, 0, [], chunks⟩ :=
    ⟨by simpa using h, rfl, rfl, Nat.le_refl _⟩
  obtain ⟨received, reading', hreceive, hqueue, -⟩ := receiveMessage_framed hframed
  have hcall : [body.1] <+: (handleTcpSocket chunks []).1 := by
    rw [handleTcpSocket, handleTcpLoop, hreceive]
    have hfirst : reading'.queue = [body.1] := hqueue
    cases received with
    | true => exact hfirst ▸ List.prefix_rfl
    | false => exact hfirst ▸ handleTcpLoop_queue _ reading'
  rw [queuedMessages, handleTcpCalls]
  split
  · next messages left hmessages =>
      rw [hmessages] at hcall
      exact hcall.trans (List.prefix_append _ _)
  · next messages stop hmessages =>
      rw [hmessages] at hcall
      exact hcall

end First

/-- What the server puts into its queues depends on the chunks of the debugger only, when
its other peers send the given chunks in two runs. -/
def OnlyDebuggerHeard (config : Config) (socketId : Bytes) (others others' : List StreamChunk) :
    Prop :=
  ∀ stream stream' chunks chunks', initTcpSocket config stream = some (socketId, chunks) →
    initTcpSocket config stream' = some (socketId, chunks') →
    foreign socketId chunks = others → foreign socketId chunks' = others' →
    own socketId chunks = own socketId chunks' → queuedMessages chunks = queuedMessages chunks'

section Peers

variable {config : Config} {socketId : Bytes} {others others' : List StreamChunk}

theorem OnlyDebuggerHeard.symm (h : OnlyDebuggerHeard config socketId others others') :
    OnlyDebuggerHeard config socketId others' others :=
  fun _ _ _ _ hinit hinit' hforeign hforeign' hown =>
    (h _ _ _ _ hinit' hinit hforeign' hforeign hown.symm).symm

/-- Without data of other peers, what has data is the debugger's. -/
theorem withData_own {chunks : List StreamChunk}
    (hforeign : ∀ chunk ∈ foreign socketId chunks, chunk.content = []) :
    withData (own socketId chunks) = withData chunks := by
  rw [withData, own, List.filter_filter, withData]
  apply List.filter_congr
  intro chunk hchunk
  cases hidentity : chunk.identity == socketId with
  | true => simp
  | false =>
      have hempty := hforeign chunk (List.mem_filter.mpr ⟨hchunk, by simp [bne, hidentity]⟩)
      simp [hempty]

theorem own_of_foreign (hothers : ∀ chunk ∈ others, chunk.identity ≠ socketId) :
    own socketId others = [] ∧ foreign socketId others = others := by
  constructor
  · apply List.filter_eq_nil_iff.mpr
    intro chunk hchunk
    simpa using hothers chunk hchunk
  · apply List.filter_eq_self.mpr
    intro chunk hchunk
    simpa using hothers chunk hchunk

/-- A message of one byte, with the chunks of the other peers in front of its body in one
run and behind it in the other. -/
theorem contents_of_onlyDebuggerHeard (hserver : config.dapTcpType = .server)
    (hothers : ∀ chunk ∈ others, chunk.identity ≠ socketId)
    (hothers' : ∀ chunk ∈ others', chunk.identity ≠ socketId)
    (h : OnlyDebuggerHeard config socketId others others') : contents others = [] := by
  by_contra hdata
  obtain ⟨byte, data, hcontents⟩ := List.exists_cons_of_ne_nil hdata
  have hinit : ∀ chunks,
      initTcpSocket config (⟨socketId, []⟩ :: chunks) = some (socketId, chunks) := by
    intro chunks
    simp only [initTcpSocket, hserver]
  let front : StreamChunk := ⟨socketId, header ++ decimal 1 ++ separator⟩
  let body (byte : UInt8) : StreamChunk := ⟨socketId, [byte]⟩
  have hone : ∀ byte : UInt8, [byte].length < 2 ^ 64 := fun _ => by
    rw [List.length_singleton]
    decide
  have hmessage : ∀ chunks byte rest, contents chunks = front.content ++ byte :: rest →
      [[byte]] <+: queuedMessages chunks := by
    intro chunks byte rest hchunks
    have hframe : contents chunks = dapFrame (⟨[byte], hone byte⟩ : StdString).1 ++ rest := by
      simpa [dapFrame, front] using hchunks
    exact queuedMessages_front hframe
  obtain ⟨hown, hforeign⟩ := own_of_foreign hothers
  obtain ⟨hown', hforeign'⟩ := own_of_foreign hothers'
  rw [own] at hown hown'
  have hqueued := h _ _ _ _ (hinit (front :: (others ++ [body (byte + 1)])))
    (hinit (front :: body (byte + 1) :: others'))
    (by simpa [foreign, front, body] using hforeign)
    (by simpa [foreign, front, body] using hforeign')
    (by simp [own, front, body, hown, hown'])
  have hbefore := hmessage (front :: (others ++ [body (byte + 1)])) byte (data ++ [byte + 1])
    (by simp [contents_cons, contents_append, hcontents, body])
  have hbehind := hmessage (front :: body (byte + 1) :: others') (byte + 1) (contents others')
    (by simp [contents_cons, body])
  rw [hqueued] at hbefore
  have hsame : [[byte]] = [[byte + 1]] :=
    (List.prefix_of_prefix_length_le hbefore hbehind (Nat.le_refl _)).eq_of_length rfl
  simp at hsame

theorem onlyDebuggerHeard_iff (hserver : config.dapTcpType = .server)
    (hothers : ∀ chunk ∈ others ++ others', chunk.identity ≠ socketId) :
    OnlyDebuggerHeard config socketId others others' ↔
      ∀ chunk ∈ others ++ others', chunk.content = [] := by
  have hfirst : ∀ chunk ∈ others, chunk.identity ≠ socketId := fun chunk hchunk =>
    hothers chunk (List.mem_append_left _ hchunk)
  have hsecond : ∀ chunk ∈ others', chunk.identity ≠ socketId := fun chunk hchunk =>
    hothers chunk (List.mem_append_right _ hchunk)
  have hsilent : ∀ chunks, contents chunks = [] → ∀ chunk ∈ chunks, chunk.content = [] := by
    intro chunks hchunks chunk hchunk
    exact List.flatten_eq_nil_iff.mp hchunks _ (List.mem_map_of_mem hchunk)
  constructor
  · intro h chunk hchunk
    rcases List.mem_append.mp hchunk with hchunk | hchunk
    · exact hsilent _ (contents_of_onlyDebuggerHeard hserver hfirst hsecond h) chunk hchunk
    · exact hsilent _ (contents_of_onlyDebuggerHeard hserver hsecond hfirst h.symm) chunk hchunk
  · rintro hnotices _ _ chunks chunks' - - rfl rfl hown
    have hdata := withData_own fun chunk hchunk => hnotices chunk (List.mem_append_left _ hchunk)
    have hdata' := withData_own fun chunk hchunk => hnotices chunk (List.mem_append_right _ hchunk)
    rw [← queuedMessages_withData chunks, ← queuedMessages_withData chunks', ← hdata, ← hdata',
      hown]

end Peers

def serverConfig : Config :=
  { TabledJson.tabledConfig [] with dapTcpType := .server }

def debuggerId : Bytes := [0, 1, 2, 3, 4]

def strangerId : Bytes := [0, 5, 6, 7, 8]

/-- A stranger connects, and closes its connection. -/
theorem onlyDebuggerHeard_notices :
    OnlyDebuggerHeard serverConfig debuggerId [⟨strangerId, []⟩, ⟨strangerId, []⟩] [] :=
  (onlyDebuggerHeard_iff rfl (by decide)).mpr (by simp)

/-- A stranger connects and sends a message of its own. -/
theorem not_onlyDebuggerHeard :
    ¬ OnlyDebuggerHeard serverConfig debuggerId
      [⟨strangerId, []⟩, ⟨strangerId, dapFrame (literal "{}")⟩] [] := by
  intro h
  have hqueued := h
    [⟨debuggerId, []⟩, ⟨strangerId, []⟩, ⟨strangerId, dapFrame (literal "{}")⟩]
    [⟨debuggerId, []⟩] _ _ rfl rfl rfl rfl rfl
  exact absurd hqueued (by decide +kernel)

end XeusZmq.DapPeers
