import XeusZmq.DebuggerSession
import XeusZmq.JsonPaths
import XeusZmq.TabledJson

/-!
What the filter of `stack_trace_request` changes in the reply of the debugger besides the
frame that it is to remove.
-/

namespace XeusZmq.StackTraceFilter

open XeusZmq.Values
open XeusZmq.JsonAccess
open XeusZmq.JsonPaths
open XeusZmq.Commands
open XeusZmq.TabledJson
open XeusZmq.Debugger
open XeusZmq.DebuggerSession

def sourcePath : List Step :=
  [.key (literal "source"), .key (literal "path")]

def isStringFrame (frame : Json) : Bool :=
  match lookupAt sourcePath frame with
  | some path => isText path (literal "<string>")
  | none => false

/-- The reply without the first frame of the source `<string>`. -/
def withoutStringFrame (reply : Json) : Json :=
  match lookupAt stackFrames reply with
  | some (.array frames) => replaceAt stackFrames (.array (frames.eraseP isStringFrame)) reply
  | _ => reply

/-- Every frame that is looked at has a path. -/
def PathsThere (frames : List Json) : Prop :=
  ∀ frame ∈ frames.takeWhile fun frame => !isStringFrame frame,
    lookupAt sourcePath frame ≠ none

/-- There is something to be read wherever the filter reads. -/
def Readable (reply : Json) : Prop :=
  match lookupAt stackFrames reply with
  | some (.array frames) => PathsThere frames
  | some frames => size frames = 0
  | none => False

/-- The loop over the frames that are left, apart from the reply that they are part of. -/
def filterFrames : List Json → Except JsonException (List Json)
  | [] => .ok []
  | frame :: frames => do
      let (path, frame) ← readAt sourcePath frame
      if isText path (literal "<string>") then return frames
      else return frame :: (← filterFrames frames)

section Loop

variable {reply whole : Json} (hwhole : lookupAt stackFrames reply = some whole)

include hwhole

theorem readAt_frame (before : List Json) (frame : Json) (after : List Json) :
    readAt (stackFrames ++ .position before.length :: sourcePath)
        (replaceAt stackFrames (.array (before ++ frame :: after)) reply) =
      (readAt sourcePath frame).map fun result =>
        (result.1, replaceAt stackFrames (.array (before ++ result.2 :: after)) reply) := by
  have hframe : (before ++ frame :: after)[before.length]? = some frame := by simp
  have hpadding : before.length + 1 - (before ++ frame :: after).length = 0 := by
    rw [List.length_append, List.length_cons]
    omega
  rw [readAt, visit_append, visit_of_lookupAt (lookupAt_replaceAt hwhole _), visit_position,
    valuesOf, ok_bind, getD_of_getElem? hframe, hpadding, List.replicate_zero, List.append_nil,
    readAt]
  cases visit (fun value => .ok (value, value)) sourcePath frame with
  | error e => rfl
  | ok result => simp [Except.map, replaceAt_replaceAt]

theorem eraseAt_frame (before : List Json) (frame : Json) (after : List Json) :
    eraseAt stackFrames before.length
        (replaceAt stackFrames (.array (before ++ frame :: after)) reply) =
      .ok (replaceAt stackFrames (.array (before ++ after)) reply) := by
  have hlength : before.length < (before ++ frame :: after).length := by simp
  have herase : (before ++ frame :: after).eraseIdx before.length = before ++ after := by
    rw [List.eraseIdx_append_of_length_le le_rfl, Nat.sub_self, List.eraseIdx_cons_zero]
  rw [eraseAt, visit_of_lookupAt (lookupAt_replaceAt hwhole _)]
  simp only [if_pos hlength, herase, Except.map, replaceAt_replaceAt]
  rfl

/-- The loop only touches the frames. -/
theorem eraseStringFrame_eq (before frames : List Json) :
    eraseStringFrame (List.range' before.length frames.length)
        (replaceAt stackFrames (.array (before ++ frames)) reply) =
      (filterFrames frames).map fun frames' =>
        replaceAt stackFrames (.array (before ++ frames')) reply := by
  induction frames generalizing before with
  | nil => rfl
  | cons frame frames ih =>
      have hread := readAt_frame hwhole before frame frames
      rw [List.length_cons, List.range'_succ, eraseStringFrame, filterFrames]
      change readAt (stackFrames ++ .position before.length :: sourcePath) _ >>= _ = _
      rw [hread]
      cases readAt sourcePath frame with
      | error e => rfl
      | ok result =>
          obtain ⟨path, frame'⟩ := result
          simp only [Except.map, ok_bind]
          by_cases htext : isText path (literal "<string>") = true
          · rw [if_pos htext, if_pos htext, eraseAt_frame hwhole]
            rfl
          · rw [if_neg htext, if_neg htext]
            have hrest := ih (before ++ [frame'])
            rw [List.length_append, List.append_assoc] at hrest
            refine hrest.trans ?_
            cases filterFrames frames with
            | error e => rfl
            | ok frames' => simp [Except.map, pure, Except.pure]

end Loop

theorem pathsThere_cons {frame : Json} {frames : List Json} :
    PathsThere (frame :: frames) ↔
      isStringFrame frame = true ∨ lookupAt sourcePath frame ≠ none ∧ PathsThere frames := by
  unfold PathsThere
  cases hstring : isStringFrame frame <;> simp [hstring]

theorem filterFrames_cons_of_not_text {frame frame' path : Json} {frames : List Json}
    (hread : readAt sourcePath frame = .ok (path, frame'))
    (htext : isText path (literal "<string>") = false) :
    filterFrames (frame :: frames) = (filterFrames frames).map (frame' :: ·) := by
  rw [filterFrames, hread, ok_bind]
  simp only [htext, Bool.false_eq_true, if_false]
  cases filterFrames frames <;> rfl

/-- A read of a path that is not there leaves a frame that is not the one before. -/
theorem filterFrames_eq_ok_iff {frames : List Json} (hordered : ∀ frame ∈ frames, Ordered frame) :
    filterFrames frames = .ok (frames.eraseP isStringFrame) ↔ PathsThere frames := by
  induction frames with
  | nil => simp [filterFrames, PathsThere]
  | cons frame frames ih =>
      have hframe : Ordered frame := hordered frame List.mem_cons_self
      have hrest := ih fun other hother => hordered other (List.mem_cons_of_mem _ hother)
      rw [pathsThere_cons]
      cases hpath : lookupAt sourcePath frame with
      | some path =>
          have hread := readAt_of_lookupAt hframe hpath
          have hstring : isStringFrame frame = isText path (literal "<string>") := by
            rw [isStringFrame, hpath]
          cases htext : isText path (literal "<string>") with
          | true =>
              rw [filterFrames, hread, ok_bind]
              simp [hstring, htext, pure, Except.pure]
          | false =>
              rw [filterFrames_cons_of_not_text hread htext, ← hrest,
                List.eraseP_cons_of_neg (by simp [hstring, htext])]
              cases filterFrames frames <;> simp [hstring, htext, Except.map]
      | none =>
          have hstring : isStringFrame frame = false := by rw [isStringFrame, hpath]
          refine iff_of_false ?_ (by simp [hstring])
          rw [List.eraseP_cons_of_neg (by simp [hstring])]
          cases hread : readAt sourcePath frame with
          | error e => simp [filterFrames, hread]
          | ok result =>
              obtain ⟨path, frame'⟩ := result
              obtain ⟨rfl, hchanged⟩ := readAt_of_missing hpath hread
              rw [filterFrames_cons_of_not_text hread rfl]
              cases filterFrames frames with
              | error e => simp [Except.map]
              | ok frames' => simp [Except.map, hchanged]

theorem filterStackTrace_of_array {reply : Json} (hordered : Ordered reply) {frames : List Json}
    (hframes : lookupAt stackFrames reply = some (.array frames)) :
    filterStackTrace reply = (filterFrames frames).map fun frames' =>
      replaceAt stackFrames (.array frames') reply := by
  have hloop := eraseStringFrame_eq hframes [] frames
  rw [List.nil_append, replaceAt_of_lookupAt hordered hframes] at hloop
  rw [filterStackTrace, readAt_of_lookupAt hordered hframes, ok_bind]
  change eraseStringFrame (List.range frames.length) reply = _
  rw [List.range_eq_range']
  exact hloop

theorem filterStackTrace_of_not_array {reply value : Json} (hordered : Ordered reply)
    (hvalue : lookupAt stackFrames reply = some value) (hnot : ∀ frames, value ≠ .array frames) :
    filterStackTrace reply = .ok reply ↔ size value = 0 := by
  rw [filterStackTrace, readAt_of_lookupAt hordered hvalue, ok_bind]
  change eraseStringFrame (List.range (size value)) reply = _ ↔ _
  cases hsize : size value with
  | zero => exact iff_of_true rfl rfl
  | succ n =>
      refine iff_of_false ?_ (Nat.succ_ne_zero n)
      have hrefused : valuesOf value = .error .typeError := by
        cases value with
        | null => cases hsize
        | array frames => exact absurd rfl (hnot frames)
        | _ => rfl
      rw [List.range_succ_eq_map, eraseStringFrame]
      change readAt (stackFrames ++ .position 0 :: sourcePath) reply >>= _ ≠ _
      rw [readAt, visit_append, visit_of_lookupAt hvalue, visit_position, hrefused]
      rintro ⟨⟩

/-- The filter does nothing but remove the frame of the source `<string>` when it reads
nothing that is missing. -/
theorem filterStackTrace_eq_ok_iff {reply : Json} (hordered : Ordered reply) :
    filterStackTrace reply = .ok (withoutStringFrame reply) ↔ Readable reply := by
  unfold withoutStringFrame Readable
  cases hframes : lookupAt stackFrames reply with
  | none =>
      refine iff_of_false ?_ not_false
      rw [filterStackTrace]
      cases hread : readAt stackFrames reply with
      | error e => simp
      | ok result =>
          obtain ⟨frames, reply'⟩ := result
          obtain ⟨rfl, hchanged⟩ := readAt_of_missing hframes hread
          rw [ok_bind]
          exact fun h => hchanged (Except.ok.inj h)
  | some value =>
      cases value with
      | array frames =>
          have hall : Ordered (.array frames) := ordered_of_lookupAt hordered hframes
          have hscan : filterFrames frames = .ok (frames.eraseP isStringFrame) ↔
              PathsThere frames := by
            cases hall with
            | array _ hframes => exact filterFrames_eq_ok_iff hframes
          rw [filterStackTrace_of_array hordered hframes]
          dsimp only
          rw [← hscan]
          cases filterFrames frames with
          | error e => simp [Except.map]
          | ok frames' =>
              simp only [Except.map, Except.ok.injEq, replaceAt_inj hframes, Json.array.injEq]
      | _ => exact filterStackTrace_of_not_array hordered hframes (by simp)

theorem ordered_of_forwarded {config : Debugger.Config} {request : Request} {reply : Json}
    (hjson : ParsesOrdered config.json)
    (hreply : DapFraming.forwardMessage config.json request.sendRecvRequest request.message =
      .ok reply) : Ordered reply := by
  obtain ⟨content, -, hanswer⟩ := bind_eq_ok.mp hreply
  obtain ⟨text, -, hparse⟩ := bind_eq_ok.mp hanswer
  exact hjson text reply (liftJson_eq_ok.mp hparse)

/-- The reply is returned with that one change when the filter reads nothing that is
missing. -/
theorem stackTraceRequest_iff (config : Debugger.Config) (hjson : ParsesOrdered config.json)
    (request : Request) (reply : Json)
    (hreply : DapFraming.forwardMessage config.json request.sendRecvRequest request.message =
      .ok reply) (s : XDebugger) :
    (exec (stackTraceRequest config request) s).1 = .ok (withoutStringFrame reply) ↔
      Readable reply := by
  have hordered := ordered_of_forwarded hjson hreply
  rw [← filterStackTrace_eq_ok_iff hordered, stackTraceRequest, exec_forwardMessage_bind, hreply,
    ok_bind, liftJson_eq_ok]

def frameOf (name path : String) : Json :=
  .object [(literal "name", .string (literal name)),
    (literal "source", .object [(literal "path", .string (literal path))])]

def stackTraceReply (frames : List Json) : Json :=
  .object [(literal "body", .object [(literal "stackFrames", .array frames)]),
    (literal "success", .boolean true)]

def framesConfig (frames : List Json) : Debugger.Config where
  json := tabledJsonLibrary [stackTraceReply frames]
  debuggerInfo := ⟨3339675911, literal "/tmp/", literal ".cpp", false, [], true⟩
  cellTemporaryFile code := literal "/tmp/" ++ code

def framesRequest (frames : List Json) : Request where
  header := .object []
  message := .object [(literal "command", .string (literal "stackTrace"))]
  start := .ok true
  sendRecvHeader := .ok (literal "ACK")
  sendRecvRequest _ := .ok (textOf (stackTraceReply frames))
  openFile _ := none

theorem framesConfig_parsesOrdered {frames : List Json} (h : ∀ frame ∈ frames, Ordered frame) :
    ParsesOrdered (framesConfig frames).json := by
  apply tabledJsonLibrary_parsesOrdered
  have hbody : SortedKeys [(literal "stackFrames", Json.array frames)] :=
    List.pairwise_singleton _ _
  have hreply : SortedKeys [(literal "body", Json.object
      [(literal "stackFrames", .array frames)]), (literal "success", .boolean true)] :=
    sortedKeys_pair (by decide)
  simpa [stackTraceReply, hbody, hreply] using h

theorem framesRequest_forwarded (frames : List Json) :
    DapFraming.forwardMessage (framesConfig frames).json (framesRequest frames).sendRecvRequest
      (framesRequest frames).message = .ok (stackTraceReply frames) := by
  change liftJson ((framesConfig frames).json.parse (textOf (stackTraceReply frames))) = _
  rw [framesConfig, parse_textOf]
  rfl

/-- The frame of the cell, and behind it one of a file. -/
def cellFrames : List Json :=
  [frameOf "main" "<string>", frameOf "helper" "helper.cpp"]

theorem ordered_frameOf (name path : String) : Ordered (frameOf name path) := by
  have hsource : SortedKeys [(literal "path", Json.string (literal path))] :=
    List.pairwise_singleton _ _
  have hframe : SortedKeys [(literal "name", Json.string (literal name)),
      (literal "source", .object [(literal "path", .string (literal path))])] :=
    sortedKeys_pair (by decide)
  simp [frameOf, hsource, hframe]

theorem stackTraceRequest_cellFrames :
    (exec (stackTraceRequest (framesConfig cellFrames) (framesRequest cellFrames)) .init).1 =
      .ok (withoutStringFrame (stackTraceReply cellFrames)) := by
  have hordered : ∀ frame ∈ cellFrames, Ordered frame := by
    simp [cellFrames, ordered_frameOf]
  refine (stackTraceRequest_iff (framesConfig cellFrames) (framesConfig_parsesOrdered hordered)
    (framesRequest cellFrames) _ (framesRequest_forwarded cellFrames) .init).mpr ?_
  change PathsThere cellFrames
  have hstring : isStringFrame (frameOf "main" "<string>") = true := by decide
  exact pathsThere_cons.mpr (.inl hstring)

/-- A frame of the debugger itself, which has no source. -/
def bareFrame : Json :=
  .object [(literal "name", .string (literal "start"))]

theorem stackTraceRequest_bareFrame :
    (exec (stackTraceRequest (framesConfig [bareFrame]) (framesRequest [bareFrame])) .init).1 ≠
      .ok (withoutStringFrame (stackTraceReply [bareFrame])) := by
  have hframe : SortedKeys [(literal "name", Json.string (literal "start"))] :=
    List.pairwise_singleton _ _
  have hordered := ordered_of_forwarded
    (framesConfig_parsesOrdered (by simp [bareFrame, hframe])) (framesRequest_forwarded [bareFrame])
  rw [stackTraceRequest, exec_forwardMessage_bind, framesRequest_forwarded, ok_bind, Ne,
    liftJson_eq_ok, filterStackTrace_eq_ok_iff hordered]
  intro h
  have hpaths : PathsThere [bareFrame] := h
  rcases pathsThere_cons.mp hpaths with hstring | ⟨hpath, -⟩
  · cases hstring
  · exact hpath rfl

end XeusZmq.StackTraceFilter
