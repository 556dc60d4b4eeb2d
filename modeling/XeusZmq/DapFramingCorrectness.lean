import XeusZmq.DapFraming

/-!
The reader of the TCP stream recovers the framed messages, however the stream
was cut into chunks.
-/

namespace XeusZmq.DapFramingCorrectness

open XeusZmq.Values
open XeusZmq.Search
open XeusZmq.DecimalText
open XeusZmq.DapFraming

@[simp] theorem contents_nil : contents [] = [] := rfl

@[simp] theorem contents_cons (chunk : StreamChunk) (chunks : List StreamChunk) :
    contents (chunk :: chunks) = chunk.content ++ contents chunks := rfl

@[simp] theorem contents_append (front chunks : List StreamChunk) :
    contents (front ++ chunks) = contents front ++ contents chunks := by
  simp [contents]

def frames (bodies : List StdString) : Bytes :=
  (bodies.map fun body => dapFrame body.1).flatten

@[simp] theorem frames_nil : frames [] = [] := rfl

@[simp] theorem frames_cons (body : StdString) (bodies : List StdString) :
    frames (body :: bodies) = dapFrame body.1 ++ frames bodies := rfl

@[simp] theorem frames_append (front bodies : List StdString) :
    frames (front ++ bodies) = frames front ++ frames bodies := by
  simp [frames]

theorem length_header : header.length = headerLength := by
  decide

theorem length_separator : separator.length = separatorLength := by
  decide

theorem length_dapFrame (content : Bytes) :
    (dapFrame content).length =
      headerLength + (decimal content.length).length + separatorLength + content.length := by
  simp only [dapFrame, List.length_append, length_header, length_separator]

theorem dapFrame_ne_nil (content : Bytes) : dapFrame content ≠ [] := by
  apply List.ne_nil_of_length_pos
  rw [length_dapFrame, headerLength]
  omega

theorem frames_eq_nil_iff {bodies : List StdString} : frames bodies = [] ↔ bodies = [] := by
  cases bodies with
  | nil => simp
  | cons body bodies => simp [dapFrame_ne_nil]

theorem length_le_length_frames (bodies : List StdString) :
    bodies.length ≤ (frames bodies).length := by
  induction bodies with
  | nil => rfl
  | cons body bodies ih =>
      rw [frames_cons, List.length_append, List.length_cons, length_dapFrame, headerLength]
      omega

/-! Substrings and numbers. -/

theorem substr_of_le {text : Bytes} {pos : Nat} (hpos : pos ≤ text.length) (count : Nat) :
    substr text pos count = .ok ((text.drop pos).take count) := by
  rw [substr, if_neg (Nat.not_lt.mpr hpos)]
  rfl

theorem substrFrom_of_le {text : Bytes} {pos : Nat} (hpos : pos ≤ text.length) :
    substrFrom text pos = .ok (text.drop pos) := by
  rw [substrFrom, if_neg (Nat.not_lt.mpr hpos)]
  rfl

theorem isSpace_of_isDigit {byte : UInt8} (h : isDigit byte = true) :
    isSpace byte = false := by
  simp only [isDigit, Bool.and_eq_true, decide_eq_true_eq, UInt8.le_iff_toNat_le] at h
  simp only [isSpace, Bool.or_eq_false_iff, beq_eq_false_iff_ne, ne_eq, Bool.and_eq_false_iff,
    decide_eq_false_iff_not, UInt8.le_iff_toNat_le]
  refine ⟨?_, Or.inr ?_⟩
  · rintro rfl
    exact absurd h.1 (by decide)
  · have hspace : (13 : UInt8).toNat = 13 := rfl
    have hdigit : (48 : UInt8).toNat = 48 := rfl
    omega

theorem splitSign_of_isDigit {byte : UInt8} (h : isDigit byte = true) (rest : Bytes) :
    splitSign (byte :: rest) = (false, byte :: rest) := by
  unfold splitSign
  split
  · rename_i heq
    obtain rfl := (List.cons.inj heq).1
    exact absurd h (by decide)
  · rename_i heq
    obtain rfl := (List.cons.inj heq).1
    exact absurd h (by decide)
  · rfl

theorem takeWhile_isDigit_append {digits tail : Bytes}
    (hdigits : ∀ byte ∈ digits, isDigit byte = true)
    (htail : ∀ byte ∈ tail.head?, isDigit byte = false) :
    (digits ++ tail).takeWhile isDigit = digits := by
  rw [List.takeWhile_append_of_pos hdigits]
  cases tail with
  | nil => simp
  | cons byte tail =>
      have hbyte : isDigit byte = false := htail byte (by simp)
      simp [hbyte]

theorem stoull_digits {digits tail : Bytes} (hnil : digits ≠ [])
    (hdigits : ∀ byte ∈ digits, isDigit byte = true)
    (htail : ∀ byte ∈ tail.head?, isDigit byte = false)
    (hvalue : digitsValue digits < 2 ^ 64) :
    stoull (digits ++ tail) = .ok (digitsValue digits) := by
  have htake := takeWhile_isDigit_append hdigits htail
  cases digits with
  | nil => exact absurd rfl hnil
  | cons first digits =>
      have hfirst : isDigit first = true := hdigits first List.mem_cons_self
      have hunspaced : ((first :: digits) ++ tail).dropWhile isSpace =
          (first :: digits) ++ tail := by
        rw [List.cons_append, List.dropWhile_cons, isSpace_of_isDigit hfirst]
        rfl
      rw [stoull, hunspaced, List.cons_append, splitSign_of_isDigit hfirst]
      simp only
      rw [← List.cons_append, htake, if_neg hnil, if_neg (Nat.not_le.mpr hvalue)]
      rfl

theorem stoull_decimal_append {n : Nat} (hn : n < 2 ^ 64) {tail : Bytes}
    (htail : ∀ byte ∈ tail.head?, isDigit byte = false) :
    stoull (decimal n ++ tail) = .ok n := by
  have hvalue := digitsValue_decimal n
  rw [stoull_digits (decimal_ne_nil n) (fun _ => isDigit_of_mem_decimal) htail (by omega),
    hvalue]

/-! The loops that wait for more of the stream. -/

theorem receiveUntil_eq_ok {α : Type} {test : Bytes → Option α} {a : α}
    {buffer buffer' : Bytes} {chunks chunks' : List StreamChunk}
    (h : receiveUntil test (test buffer) buffer chunks = .ok (a, buffer', chunks')) :
    test buffer' = some a ∧ buffer' ++ contents chunks' = buffer ++ contents chunks ∧
      buffer.length ≤ buffer'.length ∧ chunks' <:+ chunks := by
  induction chunks generalizing buffer with
  | nil =>
      cases htest : test buffer with
      | none =>
          rw [htest, receiveUntil] at h
          exact absurd h (by simp)
      | some value =>
          rw [htest, receiveUntil] at h
          obtain ⟨rfl, rfl, rfl⟩ := by simpa using h
          exact ⟨htest, rfl, Nat.le_refl _, List.suffix_refl _⟩
  | cons chunk chunks ih =>
      cases htest : test buffer with
      | none =>
          rw [htest, receiveUntil] at h
          obtain ⟨hfound, hbytes, hlength, hsuffix⟩ := ih h
          refine ⟨hfound, ?_, ?_, hsuffix.trans (List.suffix_cons _ _)⟩
          · rw [hbytes, appendTcpMessage, List.append_assoc, contents_cons]
          · rw [appendTcpMessage, List.length_append] at hlength
            omega
      | some value =>
          rw [htest, receiveUntil] at h
          obtain ⟨rfl, rfl, rfl⟩ := by simpa using h
          exact ⟨htest, rfl, Nat.le_refl _, List.suffix_refl _⟩

theorem receiveUntil_total {α : Type} {test : Bytes → Option α}
    {buffer : Bytes} {chunks : List StreamChunk}
    (h : test (buffer ++ contents chunks) ≠ none) :
    ∃ a buffer' chunks',
      receiveUntil test (test buffer) buffer chunks = .ok (a, buffer', chunks') := by
  induction chunks generalizing buffer with
  | nil =>
      rw [contents_nil, List.append_nil] at h
      obtain ⟨a, ha⟩ := Option.ne_none_iff_exists'.mp h
      exact ⟨a, buffer, [], by rw [ha, receiveUntil]⟩
  | cons chunk chunks ih =>
      cases htest : test buffer with
      | none =>
          rw [receiveUntil]
          apply ih
          rwa [appendTcpMessage, List.append_assoc, ← contents_cons]
      | some a => exact ⟨a, buffer, chunk :: chunks, by rw [receiveUntil]⟩

/-- A loop whose test, on what can be read of `whole`, asks for the first `n`
bytes of it. -/
theorem receiveUntil_threshold {α : Type} (test : Bytes → Option α) (a : α) (n : Nat)
    {whole buffer : Bytes} {chunks : List StreamChunk}
    (hbytes : buffer ++ contents chunks = whole) (hn : n ≤ whole.length)
    (htest : ∀ read, read <+: whole → buffer.length ≤ read.length →
      test read = if n ≤ read.length then some a else none) :
    ∃ buffer' chunks',
      receiveUntil test (test buffer) buffer chunks = .ok (a, buffer', chunks') ∧
      buffer' ++ contents chunks' = whole ∧ buffer.length ≤ buffer'.length ∧
      n ≤ buffer'.length ∧ chunks' <:+ chunks := by
  have hwhole : test (buffer ++ contents chunks) ≠ none := by
    rw [hbytes, htest whole (List.prefix_refl _) (by simp [← hbytes]), if_pos hn]
    exact Option.some_ne_none a
  obtain ⟨a', buffer', chunks', hreceive⟩ := receiveUntil_total hwhole
  obtain ⟨hfound, hbytes', hlength, hsuffix⟩ := receiveUntil_eq_ok hreceive
  rw [hbytes] at hbytes'
  have hread : buffer' <+: whole := hbytes' ▸ List.prefix_append _ _
  rw [htest buffer' hread hlength] at hfound
  split_ifs at hfound with henough
  obtain rfl := Option.some.inj hfound
  exact ⟨buffer', chunks', hreceive, hbytes', hlength, henough, hsuffix⟩

/-! One pass over one message. -/

theorem find_header {consumed read : Bytes} (rest : Bytes)
    (hconsumed : consumed.length ≤ read.length)
    (hread : read <+: consumed ++ (header ++ rest)) :
    find header read consumed.length =
      if consumed.length + headerLength ≤ read.length then some consumed.length else none := by
  have hheader : header = 67 :: header.tail := by decide
  rw [← length_header]
  rw [hheader] at hread ⊢
  exact find_behind consumed [] rest hconsumed List.not_mem_nil hread

theorem find_separator {consumed digits read : Bytes} (rest : Bytes)
    (hconsumed : consumed.length ≤ read.length)
    (hdigits : ∀ byte ∈ digits, isDigit byte = true)
    (hread : read <+: consumed ++ (digits ++ separator ++ rest)) :
    find separator read consumed.length =
      if consumed.length + digits.length + separatorLength ≤ read.length then
        some (consumed.length + digits.length)
      else none := by
  have hseparator : separator = 13 :: separator.tail := by decide
  have hfront : (13 : UInt8) ∉ digits := by
    intro hmem
    exact absurd (hdigits 13 hmem) (by decide)
  rw [← length_separator]
  rw [hseparator] at hread ⊢
  exact find_behind consumed digits rest hconsumed hfront hread

/-- The state between two passes: `consumed` has been read and split, and
`remaining` starts in the buffer. -/
structure Framed (consumed remaining : Bytes) (reading : Reading) : Prop where
  bytes : reading.buffer ++ contents reading.chunks = consumed ++ remaining
  hint : reading.hint = consumed.length
  headerPos : reading.headerPos = find header reading.buffer reading.hint
  read : consumed.length ≤ reading.buffer.length

section Message

variable {consumed rest : Bytes} {body : StdString} {buffer : Bytes}
  {chunks : List StreamChunk}

def numberPos (consumed : Bytes) : Nat :=
  consumed.length + headerLength

def digits (body : StdString) : Bytes :=
  decimal body.1.length

def bodyPos (consumed : Bytes) (body : StdString) : Nat :=
  numberPos consumed + (digits body).length + separatorLength

theorem length_append_dapFrame (consumed : Bytes) (body : StdString) :
    (consumed ++ dapFrame body.1).length = bodyPos consumed body + body.1.length := by
  simp only [List.length_append, length_dapFrame, bodyPos, numberPos, digits]
  omega

theorem drop_bodyPos (consumed : Bytes) (body : StdString) (rest : Bytes) :
    (consumed ++ dapFrame body.1 ++ rest).drop (bodyPos consumed body) = body.1 ++ rest := by
  have hlength : bodyPos consumed body =
      (consumed ++ header ++ digits body ++ separator).length := by
    simp only [bodyPos, numberPos, List.length_append, length_header, length_separator]
  have hsplit : consumed ++ dapFrame body.1 ++ rest =
      (consumed ++ header ++ digits body ++ separator) ++ (body.1 ++ rest) := by
    simp only [dapFrame, digits, List.append_assoc]
  rw [hsplit, hlength, List.drop_left]

theorem receiveHeader
    (hbytes : buffer ++ contents chunks = consumed ++ (dapFrame body.1 ++ rest))
    (hread : consumed.length ≤ buffer.length) :
    ∃ buffer' chunks',
      receiveUntil (find header · consumed.length) (find header buffer consumed.length)
        buffer chunks = .ok (consumed.length, buffer', chunks') ∧
      buffer' ++ contents chunks' = consumed ++ (dapFrame body.1 ++ rest) ∧
      numberPos consumed ≤ buffer'.length ∧ chunks' <:+ chunks := by
  obtain ⟨buffer', chunks', hreceive, hbytes', -, henough, hsuffix⟩ :=
    receiveUntil_threshold (find header · consumed.length) consumed.length
      (numberPos consumed) hbytes
      (by
        simp only [numberPos, List.length_append, length_dapFrame]
        omega)
      (by
        intro read hfront hlength
        apply find_header (digits body ++ separator ++ body.1 ++ rest) (hread.trans hlength)
        simpa [dapFrame, digits] using hfront)
  exact ⟨buffer', chunks', hreceive, hbytes', henough, hsuffix⟩

theorem receiveSeparator
    (hbytes : buffer ++ contents chunks = consumed ++ (dapFrame body.1 ++ rest))
    (hread : numberPos consumed ≤ buffer.length) :
    ∃ buffer' chunks',
      receiveUntil (find separator · (numberPos consumed))
        (find separator buffer (numberPos consumed)) buffer chunks =
        .ok (numberPos consumed + (digits body).length, buffer', chunks') ∧
      buffer' ++ contents chunks' = consumed ++ (dapFrame body.1 ++ rest) ∧
      bodyPos consumed body ≤ buffer'.length ∧ chunks' <:+ chunks := by
  have hnumber : numberPos consumed = (consumed ++ header).length := by
    rw [List.length_append, length_header, numberPos]
  obtain ⟨buffer', chunks', hreceive, hbytes', -, henough, hsuffix⟩ :=
    receiveUntil_threshold (find separator · (numberPos consumed))
      (numberPos consumed + (digits body).length) (bodyPos consumed body) hbytes
      (by
        have := length_append_dapFrame consumed body
        simp only [List.length_append] at this ⊢
        omega)
      (by
        intro read hfront hlength
        rw [bodyPos, hnumber]
        apply find_separator (body.1 ++ rest) (hnumber ▸ hread.trans hlength)
          (fun _ => isDigit_of_mem_decimal)
        simpa [dapFrame, digits] using hfront)
  exact ⟨buffer', chunks', hreceive, hbytes', henough, hsuffix⟩

/-- The count given to `substr` is an end position, so that the text goes on
behind the digits; `stoull` stops at the separator. -/
theorem stoull_substr
    (hbytes : buffer ++ contents chunks = consumed ++ (dapFrame body.1 ++ rest))
    (hread : bodyPos consumed body ≤ buffer.length) :
    ∃ number,
      substr buffer (numberPos consumed) (numberPos consumed + (digits body).length) =
        .ok number ∧
      stoull number = .ok body.1.length := by
  have hnumber : numberPos consumed = (consumed ++ header).length := by
    rw [List.length_append, length_header, numberPos]
  have hfront : consumed ++ header ++ digits body ++ separator <+: buffer := by
    have hwhole : consumed ++ header ++ digits body ++ separator <+:
        consumed ++ (dapFrame body.1 ++ rest) :=
      ⟨body.1 ++ rest, by simp [dapFrame, digits]⟩
    apply List.prefix_of_prefix_length_le hwhole
    · exact hbytes ▸ List.prefix_append _ _
    · simpa [bodyPos, numberPos, length_header, length_separator, Nat.add_assoc] using hread
  obtain ⟨more, rfl⟩ := hfront
  refine ⟨_, substr_of_le (by rw [bodyPos] at hread; omega) _, ?_⟩
  have hdrop : (consumed ++ header ++ digits body ++ separator ++ more).drop
      (numberPos consumed) = digits body ++ (separator ++ more) := by
    rw [hnumber, List.append_assoc, List.append_assoc, List.drop_left]
  rw [hdrop, Nat.add_comm, List.take_length_add_append]
  apply stoull_decimal_append body.2
  have hseparator : separator = 13 :: separator.tail := by decide
  rw [hseparator, numberPos, headerLength, List.cons_append, List.take_succ_cons]
  intro byte hbyte
  obtain rfl : (13 : UInt8) = byte := by simpa using hbyte
  decide

theorem receiveBody
    (hbytes : buffer ++ contents chunks = consumed ++ (dapFrame body.1 ++ rest))
    (hread : bodyPos consumed body ≤ buffer.length) :
    ∃ buffer' chunks',
      receiveUntil (fullMessage (bodyPos consumed body) body.1.length)
        (fullMessage (bodyPos consumed body) body.1.length buffer) buffer chunks =
        .ok ((), buffer', chunks') ∧
      buffer' ++ contents chunks' = consumed ++ (dapFrame body.1 ++ rest) ∧
      consumed ++ dapFrame body.1 <+: buffer' ∧ chunks' <:+ chunks := by
  obtain ⟨buffer', chunks', hreceive, hbytes', hgrown, henough, hsuffix⟩ :=
    receiveUntil_threshold (fullMessage (bodyPos consumed body) body.1.length) ()
      (consumed ++ dapFrame body.1).length hbytes
      (by
        rw [← List.append_assoc]
        exact (List.prefix_append _ rest).length_le)
      (by
        intro read _ hlength
        have := length_append_dapFrame consumed body
        unfold fullMessage
        split_ifs <;> first | rfl | omega)
  refine ⟨buffer', chunks', hreceive, hbytes', ?_, hsuffix⟩
  have hwhole : consumed ++ dapFrame body.1 <+: consumed ++ (dapFrame body.1 ++ rest) :=
    ⟨rest, List.append_assoc _ _ _⟩
  exact List.prefix_of_prefix_length_le hwhole (hbytes' ▸ List.prefix_append _ _) henough

/-- The pass appends the message, and ends either with nothing behind it in
the buffer or with the beginning of another one. -/
theorem receiveMessage_framed {reading : Reading}
    (h : Framed consumed (dapFrame body.1 ++ rest) reading) :
    ∃ received reading', receiveMessage reading = .ok (received, reading') ∧
      reading'.queue = reading.queue ++ [body.1] ∧
      reading'.chunks <:+ reading.chunks ∧
      (received = true → contents reading'.chunks = rest) ∧
      (received = false → Framed (consumed ++ dapFrame body.1) rest reading' ∧ rest ≠ []) := by
  obtain ⟨buffer₁, chunks₁, hheader, hbytes₁, hread₁, hsuffix₁⟩ :=
    receiveHeader h.bytes h.read
  obtain ⟨buffer₂, chunks₂, hseparator, hbytes₂, hread₂, hsuffix₂⟩ :=
    receiveSeparator hbytes₁ hread₁
  obtain ⟨number, hsubstr, hnumber⟩ := stoull_substr hbytes₂ hread₂
  obtain ⟨buffer₃, chunks₃, hbody, hbytes₃, ⟨more, rfl⟩, hsuffix₃⟩ :=
    receiveBody hbytes₂ hread₂
  have hsuffix : chunks₃ <:+ reading.chunks := (hsuffix₃.trans hsuffix₂).trans hsuffix₁
  have hrest : more ++ contents chunks₃ = rest := by
    rw [List.append_assoc, ← List.append_assoc consumed] at hbytes₃
    exact List.append_cancel_left hbytes₃
  have hlength : (consumed ++ dapFrame body.1 ++ more).length =
      bodyPos consumed body + body.1.length + more.length := by
    rw [List.length_append, length_append_dapFrame]
  have hbodyPos : bodyPos consumed body ≤ (consumed ++ dapFrame body.1 ++ more).length := by
    omega
  have hdrop := drop_bodyPos consumed body more
  have hnumberPos : consumed.length + headerLength = numberPos consumed := rfl
  have hposition : numberPos consumed + (digits body).length + separatorLength =
      bodyPos consumed body := rfl
  have hcheck : checkSize buffer₂ (bodyPos consumed body) = .ok () :=
    if_neg (Nat.not_lt.mpr hread₂)
  unfold receiveMessage
  rw [h.headerPos, h.hint, hheader]
  simp only [ok_bind, hnumberPos, hseparator, hsubstr, hnumber, hposition, liftStop, hcheck,
    hbody]
  split_ifs with hexact
  · have hmore : more = [] := List.length_eq_zero_iff.mp (by omega)
    subst hmore
    rw [substrFrom_of_le hbodyPos, hdrop, List.append_nil]
    refine ⟨true, _, rfl, rfl, hsuffix, fun _ => hrest, fun hfalse => ?_⟩
    exact absurd hfalse (by decide)
  · rw [substr_of_le hbodyPos, hdrop, List.take_left]
    refine ⟨false, _, rfl, rfl, hsuffix, fun htrue => absurd htrue (by decide), fun _ => ⟨?_, ?_⟩⟩
    · constructor
      · rw [← hrest, List.append_assoc]
      · exact (length_append_dapFrame consumed body).symm
      · rfl
      · exact (List.prefix_append _ more).length_le
    · rintro rfl
      have hmore : more = [] := (List.append_eq_nil_iff.mp hrest).1
      subst hmore
      apply hexact
      rw [List.length_nil] at hlength
      omega

end Message

/-! Whole calls. -/

theorem handleTcpLoop_framed {fuel : Nat} {bodies : List StdString} {consumed : Bytes}
    {reading : Reading} (hfuel : bodies.length ≤ fuel) (hbodies : bodies ≠ [])
    (h : Framed consumed (frames bodies) reading) :
    ∃ front rest chunks, front ≠ [] ∧ bodies = front ++ rest ∧
      handleTcpLoop fuel reading = (reading.queue ++ front.map Subtype.val, .ok chunks) ∧
      chunks <:+ reading.chunks ∧ contents chunks = frames rest := by
  induction bodies generalizing fuel consumed reading with
  | nil => exact absurd rfl hbodies
  | cons body bodies ih =>
      obtain ⟨fuel, rfl⟩ : ∃ fuel', fuel = fuel' + 1 :=
        Nat.exists_eq_succ_of_ne_zero (Nat.ne_of_gt (Nat.lt_of_lt_of_le (Nat.succ_pos _) hfuel))
      rw [frames_cons] at h
      obtain ⟨received, reading', hreceive, hqueue, hsuffix, hlast, hmore⟩ :=
        receiveMessage_framed h
      cases received with
      | true =>
          refine ⟨[body], bodies, reading'.chunks, List.cons_ne_nil _ _, rfl, ?_, hsuffix,
            hlast rfl⟩
          rw [handleTcpLoop, hreceive]
          simp only [hqueue, List.map_cons, List.map_nil]
      | false =>
          obtain ⟨hframed, hrest⟩ := hmore rfl
          have hfuel' : bodies.length ≤ fuel := by simpa using hfuel
          obtain ⟨front, rest, chunks, -, hsplit, hloop, hsuffix', hcontents⟩ :=
            ih hfuel' (mt frames_eq_nil_iff.mpr hrest) hframed
          refine ⟨body :: front, rest, chunks, List.cons_ne_nil _ _, by rw [hsplit]; rfl, ?_,
            hsuffix'.trans hsuffix, hcontents⟩
          rw [handleTcpLoop, hreceive]
          simp only [hloop, hqueue, List.map_cons, List.append_assoc, List.singleton_append]

theorem handleTcpSocket_frames {bodies : List StdString} {chunks : List StreamChunk}
    (hbodies : bodies ≠ []) (hstream : contents chunks = frames bodies)
    (queue : List Bytes) :
    ∃ front rest read pending, front ≠ [] ∧ bodies = front ++ rest ∧
      chunks = read ++ pending ∧
      handleTcpSocket chunks queue = (queue ++ front.map Subtype.val, .ok pending) ∧
      contents read = frames front ∧ contents pending = frames rest := by
  have hframed : Framed [] (frames bodies) ⟨[], none, 0, queue, chunks⟩ :=
    ⟨by simpa using hstream, rfl, rfl, Nat.le_refl _⟩
  have hfuel : bodies.length ≤ (contents chunks).length + 1 := by
    rw [hstream]
    exact (length_le_length_frames bodies).trans (Nat.le_succ _)
  obtain ⟨front, rest, pending, hfront, hsplit, hloop, ⟨read, hread⟩, hpending⟩ :=
    handleTcpLoop_framed hfuel hbodies hframed
  refine ⟨front, rest, read, pending, hfront, hsplit, hread.symm, hloop, ?_, hpending⟩
  simp only at hread
  rw [← hread, contents_append, hsplit, frames_append, hpending] at hstream
  exact List.append_cancel_right hstream

/-- A return of `handle_tcp_socket` after which `front` has been queued, `rest`
is still to come, and no byte has been dropped. -/
def ReturnsBetween (chunks : List StreamChunk) (queue : List Bytes)
    (front rest : List StdString) (point : ReturnPoint) : Prop :=
  point.queue = queue ++ front.map Subtype.val ∧
    ∃ read, chunks = read ++ point.chunks ∧ contents read = frames front ∧
      contents point.chunks = frames rest

theorem contents_ne_nil {chunks : List StreamChunk} (hchunks : chunks ≠ [])
    (hlast : ∀ chunk ∈ chunks.getLast?, chunk.content ≠ []) : contents chunks ≠ [] := by
  rw [← List.dropLast_append_getLast hchunks, contents_append]
  intro hnil
  apply hlast _ (List.getLast?_eq_getLast_of_ne_nil hchunks)
  simpa using (List.append_eq_nil_iff.mp hnil).2

theorem ReturnsBetween.prepend {read pending : List StreamChunk} {queue : List Bytes}
    {done front rest : List StdString} {point : ReturnPoint}
    (hread : contents read = frames done)
    (h : ReturnsBetween pending (queue ++ done.map Subtype.val) front rest point) :
    ReturnsBetween (read ++ pending) queue (done ++ front) rest point := by
  obtain ⟨hqueue, read', rfl, hread', hpending⟩ := h
  refine ⟨?_, read ++ read', (List.append_assoc _ _ _).symm, ?_, hpending⟩
  · rw [hqueue, List.map_append, List.append_assoc]
  · rw [contents_append, frames_append, hread, hread']

theorem drainTcp_frames {fuel : Nat} {bodies : List StdString} {chunks : List StreamChunk}
    (hfuel : chunks.length ≤ fuel) (hstream : contents chunks = frames bodies)
    (hlast : ∀ chunk ∈ chunks.getLast?, chunk.content ≠ []) (queue : List Bytes) :
    ∃ points, drainTcp fuel ⟨queue, chunks⟩ = .ok points ∧
      (bodies ≠ [] → points.getLast? = some ⟨queue ++ bodies.map Subtype.val, []⟩) ∧
      ∀ point ∈ points, ∃ front rest, bodies = front ++ rest ∧
        ReturnsBetween chunks queue front rest point := by
  induction fuel generalizing bodies chunks queue with
  | zero =>
      obtain rfl := List.length_eq_zero_iff.mp (Nat.le_zero.mp hfuel)
      have hbodies : bodies = [] := frames_eq_nil_iff.mp hstream.symm
      refine ⟨[], by rw [drainTcp], fun hne => absurd hbodies hne, ?_⟩
      intro point hpoint
      exact absurd hpoint List.not_mem_nil
  | succ fuel ih =>
      rcases chunks with _ | ⟨chunk, chunks⟩
      · have hbodies : bodies = [] := frames_eq_nil_iff.mp hstream.symm
        refine ⟨[], by rw [drainTcp], fun hne => absurd hbodies hne, ?_⟩
        intro point hpoint
        exact absurd hpoint List.not_mem_nil
      have hbodies : bodies ≠ [] := by
        intro hnil
        apply contents_ne_nil (List.cons_ne_nil chunk chunks) hlast
        rw [hstream, hnil, frames_nil]
      obtain ⟨front, rest, read, pending, hfront, rfl, hsplit, hcall, hread, hpending⟩ :=
        handleTcpSocket_frames hbodies hstream queue
      have hreadNil : read ≠ [] := by
        rintro rfl
        exact hfront (frames_eq_nil_iff.mp hread.symm)
      have hlength : pending.length ≤ fuel := by
        have hcount := congrArg List.length hsplit
        have hpositive := List.length_pos_iff.mpr hreadNil
        rw [List.length_append] at hcount
        omega
      have hpendingLast : ∀ chunk ∈ pending.getLast?, chunk.content ≠ [] := by
        intro last hmem
        apply hlast
        rw [hsplit, List.getLast?_append, Option.mem_def.mp hmem]
        rfl
      obtain ⟨points, hdrain, hend, hpoints⟩ :=
        ih hlength hpending hpendingLast (queue ++ front.map Subtype.val)
      refine ⟨⟨queue ++ front.map Subtype.val, pending⟩ :: points, ?_, fun _ => ?_, ?_⟩
      · rw [drainTcp, hcall]
        simp only [hdrain, Except.map]
      · rw [List.getLast?_cons]
        by_cases hrest : rest = []
        · subst hrest
          have hnil : pending = [] := by
            by_contra hne
            exact contents_ne_nil hne hpendingLast hpending
          subst hnil
          have hpoints : points = [] := by
            cases fuel <;> simpa [drainTcp] using hdrain.symm
          simp [hpoints]
        · rw [hend hrest]
          simp
      · intro point hpoint
        rw [hsplit]
        rcases List.mem_cons.mp hpoint with rfl | hpoint
        · exact ⟨front, rest, rfl, rfl, read, rfl, hread, hpending⟩
        · obtain ⟨front', rest', rfl, hreturns⟩ := hpoints point hpoint
          exact ⟨front ++ front', rest', (List.append_assoc _ _ _).symm, hreturns.prepend hread⟩

/-! Every call ends: the fuel of the model is never used up. -/

theorem liftStop_ne_exhausted {α : Type} (x : Except Exception α) :
    liftStop x ≠ .error .exhausted := by
  cases x <;> simp [liftStop]

theorem receiveUntil_ne_exhausted {α : Type} (test : Bytes → Option α) (found : Option α)
    (buffer : Bytes) (chunks : List StreamChunk) :
    receiveUntil test found buffer chunks ≠ .error .exhausted := by
  induction chunks generalizing found buffer with
  | nil => cases found <;> simp [receiveUntil]
  | cons chunk chunks ih =>
      cases found with
      | none =>
          rw [receiveUntil]
          exact ih _ _
      | some a => simp [receiveUntil]

theorem receiveMessage_ne_exhausted (reading : Reading) :
    receiveMessage reading ≠ .error .exhausted := by
  unfold receiveMessage
  refine bind_ne_error (receiveUntil_ne_exhausted _ _ _ _) fun _ => ?_
  refine bind_ne_error (receiveUntil_ne_exhausted _ _ _ _) fun _ => ?_
  refine bind_ne_error (liftStop_ne_exhausted _) fun _ => ?_
  refine bind_ne_error (liftStop_ne_exhausted _) fun _ => ?_
  refine bind_ne_error ?_ fun _ => ?_
  · unfold checkSize
    split_ifs <;> exact nofun
  refine bind_ne_error (receiveUntil_ne_exhausted _ _ _ _) fun ⟨⟨⟩, _, _⟩ => ?_
  simp only
  split_ifs
  · exact bind_ne_error (liftStop_ne_exhausted _) fun _ => nofun
  · exact bind_ne_error (liftStop_ne_exhausted _) fun _ => nofun

/-- A pass that goes through has found a header, a separator and a message of the size
between them. -/
theorem receiveMessage_eq_ok {reading reading' : Reading} {received : Bool}
    (h : receiveMessage reading = .ok (received, reading')) :
    ∃ headerPos separatorPos msgSize message buffer₁ buffer₂ chunks₁ chunks₂,
      receiveUntil (find header · reading.hint) reading.headerPos reading.buffer reading.chunks =
        .ok (headerPos, buffer₁, chunks₁) ∧
      receiveUntil (find separator · (headerPos + headerLength))
          (find separator buffer₁ (headerPos + headerLength)) buffer₁ chunks₁ =
        .ok (separatorPos, buffer₂, chunks₂) ∧
      receiveUntil (fullMessage (separatorPos + separatorLength) msgSize)
          (fullMessage (separatorPos + separatorLength) msgSize buffer₂) buffer₂ chunks₂ =
        .ok ((), reading'.buffer, reading'.chunks) ∧
      reading'.queue = reading.queue ++ [message] ∧
      (received = false → reading'.buffer.length - (separatorPos + separatorLength) ≠ msgSize ∧
        reading'.hint = separatorPos + separatorLength + msgSize ∧
        reading'.headerPos = find header reading'.buffer reading'.hint) := by
  unfold receiveMessage at h
  obtain ⟨⟨headerPos, buffer₁, chunks₁⟩, hheader, h⟩ := bind_eq_ok.mp h
  obtain ⟨⟨separatorPos, buffer₂, chunks₂⟩, hseparator, h⟩ := bind_eq_ok.mp h
  obtain ⟨number, -, h⟩ := bind_eq_ok.mp h
  obtain ⟨msgSize, -, h⟩ := bind_eq_ok.mp h
  obtain ⟨⟨⟩, -, h⟩ := bind_eq_ok.mp h
  obtain ⟨⟨⟨⟩, buffer₃, chunks₃⟩, hbody, h⟩ := bind_eq_ok.mp h
  simp only at h
  split_ifs at h with hexact
  · obtain ⟨message, -, h⟩ := bind_eq_ok.mp h
    obtain ⟨rfl, rfl⟩ := Prod.mk.inj (Except.ok.inj h)
    exact ⟨headerPos, separatorPos, msgSize, message, _, _, _, _, hheader, hseparator, hbody, rfl,
      by simp⟩
  · obtain ⟨message, -, h⟩ := bind_eq_ok.mp h
    obtain ⟨rfl, rfl⟩ := Prod.mk.inj (Except.ok.inj h)
    exact ⟨headerPos, separatorPos, msgSize, message, _, _, _, _, hheader, hseparator, hbody, rfl,
      fun _ => ⟨hexact, rfl, rfl⟩⟩

theorem receiveMessage_hint {reading reading' : Reading}
    (hpos : reading.headerPos = find header reading.buffer reading.hint)
    (h : receiveMessage reading = .ok (false, reading')) :
    reading'.headerPos = find header reading'.buffer reading'.hint ∧
      reading.hint < reading'.hint ∧ reading'.hint ≤ reading'.buffer.length ∧
      reading'.buffer ++ contents reading'.chunks =
        reading.buffer ++ contents reading.chunks := by
  obtain ⟨headerPos, separatorPos, msgSize, message, buffer₁, buffer₂, chunks₁, chunks₂, hheader,
    hseparator, hbody, -, hmore⟩ := receiveMessage_eq_ok h
  obtain ⟨hlonger, hhint, hnext⟩ := hmore rfl
  rw [hpos] at hheader
  obtain ⟨hfound₁, hbytes₁, -, -⟩ := receiveUntil_eq_ok hheader
  obtain ⟨hfound₂, hbytes₂, -, -⟩ := receiveUntil_eq_ok hseparator
  obtain ⟨hfound₃, hbytes₃, hgrown₃, -⟩ := receiveUntil_eq_ok hbody
  have hbound₁ := find_bound hfound₁
  have hbound₂ := find_bound hfound₂
  have hmsgPos : separatorPos + separatorLength ≤ buffer₂.length := by
    rw [← length_separator]
    exact hbound₂.2
  have hfull : msgSize ≤ reading'.buffer.length - (separatorPos + separatorLength) := by
    unfold fullMessage at hfound₃
    split_ifs at hfound₃ with hshort
    exact Nat.not_lt.mp hshort
  refine ⟨hnext, ?_, ?_, hbytes₃.trans (hbytes₂.trans hbytes₁)⟩
  · rw [hhint]
    simp only [headerLength, separatorLength] at hbound₁ hbound₂ ⊢
    omega
  · rw [hhint]
    omega

theorem handleTcpLoop_ne_exhausted {fuel : Nat} {reading : Reading}
    (hpos : reading.headerPos = find header reading.buffer reading.hint)
    (hhint : reading.hint ≤ reading.buffer.length)
    (hfuel : (reading.buffer ++ contents reading.chunks).length < fuel + reading.hint) :
    (handleTcpLoop fuel reading).2 ≠ .error .exhausted := by
  induction fuel generalizing reading with
  | zero =>
      rw [List.length_append] at hfuel
      omega
  | succ fuel ih =>
      rw [handleTcpLoop]
      cases hreceive : receiveMessage reading with
      | error stop =>
          intro hstop
          obtain rfl : stop = .exhausted := Except.error.inj hstop
          exact receiveMessage_ne_exhausted reading hreceive
      | ok result =>
          obtain ⟨received, reading'⟩ := result
          cases received with
          | true => exact nofun
          | false =>
              obtain ⟨hpos', hprogress, hhint', hbytes⟩ := receiveMessage_hint hpos hreceive
              apply ih hpos' hhint'
              rw [hbytes]
              omega

/-- Whatever arrives, a call returns, fails or waits for more. -/
theorem handleTcpSocket_ne_exhausted (chunks : List StreamChunk) (queue : List Bytes) :
    (handleTcpSocket chunks queue).2 ≠ .error .exhausted := by
  apply handleTcpLoop_ne_exhausted rfl (Nat.le_refl _)
  simp

/-! What the calls make of a stream of whole frames. -/

theorem receiveUntil_blocked {α : Type} {test : Bytes → Option α} {buffer : Bytes}
    (htest : test buffer = none) {chunks : List StreamChunk} (hchunks : contents chunks = []) :
    receiveUntil test none buffer chunks = .error .blocked := by
  induction chunks with
  | nil => rfl
  | cons chunk chunks ih =>
      obtain ⟨hchunk, hrest⟩ := List.append_eq_nil_iff.mp (contents_cons chunk chunks ▸ hchunks)
      rw [receiveUntil, appendTcpMessage, hchunk, List.append_nil, htest]
      exact ih hrest

/-- A call that finds nothing but empty chunks waits for more. -/
theorem handleTcpSocket_blocked {chunks : List StreamChunk} (hchunks : contents chunks = [])
    (queue : List Bytes) : handleTcpSocket chunks queue = (queue, .error .blocked) := by
  have hheader : receiveUntil (find header · 0) none [] chunks = .error .blocked :=
    receiveUntil_blocked (by decide) hchunks
  rw [handleTcpSocket, handleTcpLoop, receiveMessage]
  simp only [hheader, error_bind]

/-- The chunks carry the frames of the messages, cut in any way. -/
def Delivers (stream : List StreamChunk) (messages : List Bytes) : Prop :=
  ∃ bodies : List StdString, messages = bodies.map Subtype.val ∧ contents stream = frames bodies

/-- What a call of `handle_tcp_socket` puts into its queue: some messages, but never
part of one, unless there is none and it waits. -/
theorem handleTcpSocket_delivers {stream : List StreamChunk} {messages : List Bytes}
    (h : Delivers stream messages) (queue : List Bytes) :
    (messages = [] ∧ handleTcpSocket stream queue = (queue, .error .blocked)) ∨
      ∃ batch rest pending, batch ≠ [] ∧ messages = batch ++ rest ∧
        handleTcpSocket stream queue = (queue ++ batch, .ok pending) ∧ Delivers pending rest ∧
        pending.length < stream.length := by
  obtain ⟨bodies, rfl, hstream⟩ := h
  by_cases hbodies : bodies = []
  · subst hbodies
    exact .inl ⟨rfl, handleTcpSocket_blocked hstream queue⟩
  · right
    obtain ⟨front, rest, read, pending, hfront, rfl, rfl, hcall, hread, hpending⟩ :=
      handleTcpSocket_frames hbodies hstream queue
    refine ⟨front.map Subtype.val, rest.map Subtype.val, pending, ?_, by simp, hcall,
      ⟨rest, rfl, hpending⟩, ?_⟩
    · exact fun hnil => hfront (List.map_eq_nil_iff.mp hnil)
    · have hread : read ≠ [] := by
        rintro rfl
        exact hfront (frames_eq_nil_iff.mp hread.symm)
      have hlength := List.length_pos_iff.mpr hread
      rw [List.length_append]
      omega

/-! The reader of the control socket. -/

theorem controlBody_dapFrame (body : Bytes) : controlBody (dapFrame body) = .ok body := by
  have hseparator : separator = 13 :: separator.tail := by decide
  have hheader : (13 : UInt8) ∉ header := by decide
  have hfront : (13 : UInt8) ∉ header ++ decimal body.length := by
    intro hmem
    rcases List.mem_append.mp hmem with hmem | hmem
    · exact hheader hmem
    · exact absurd (isDigit_of_mem_decimal hmem) (by decide)
  have hbody : dapFrame body = header ++ decimal body.length ++ separator ++ body := rfl
  have hlength := length_dapFrame body
  have hfind : find separator (dapFrame body) 0 =
      some (header ++ decimal body.length).length := by
    rw [hseparator]
    refine (find_behind [] _ body (Nat.zero_le _) hfront ?_).trans ?_
    · rw [List.nil_append, ← hseparator, hbody]
    · rw [if_pos, List.length_nil, Nat.zero_add]
      rw [← hseparator, List.length_nil, List.length_append, length_header, length_separator]
      omega
  have hdrop : (header ++ decimal body.length).length + separatorLength =
      (header ++ decimal body.length ++ separator).length := by
    simp only [List.length_append, length_separator]
  rw [controlBody, hfind]
  simp only
  rw [hdrop, hbody, substrFrom_of_le (by simp), List.drop_left]

theorem handleControlSocket_dapFrame (json : JsonLibrary) (tcpId body : Bytes) :
    handleControlSocket json tcpId true (dapFrame body) =
      match liftJson (json.parse body) with
      | .error e => ⟨[], .error e⟩
      | .ok message => ⟨[tcpId, dapFrame body], isAttach message⟩ := by
  rw [handleControlSocket, if_pos rfl, controlBody_dapFrame]
  rfl

theorem sendDapRequest_of_dump {json : JsonLibrary} {message : Json} {body : Bytes}
    (h : json.dump .strict message = .ok body) (tcpId : Bytes) :
    sendDapRequest json tcpId message = .ok [tcpId, dapFrame body] := by
  rw [sendDapRequest, h]
  rfl

theorem forwardMessage_of_dump {json : JsonLibrary} {message : Json} {body : Bytes}
    (h : json.dump .strict message = .ok body) (sendRecvRequest : Bytes → Result Bytes) :
    forwardMessage json sendRecvRequest message =
      sendRecvRequest (dapFrame body) >>= fun reply => liftJson (json.parse reply) := by
  rw [forwardMessage, h]
  rfl

theorem dap_framing (bodies : List StdString) (hbodies : bodies ≠ [])
    (chunks : List StreamChunk) (hstream : contents chunks = frames bodies)
    (hlast : ∀ chunk ∈ chunks.getLast?, chunk.content ≠ []) (queue : List Bytes) :
    (∃ points, drainTcp chunks.length ⟨queue, chunks⟩ = .ok points ∧
      points.getLast? = some ⟨queue ++ bodies.map Subtype.val, []⟩ ∧
      ∀ point ∈ points, ∃ front rest, bodies = front ++ rest ∧
        ReturnsBetween chunks queue front rest point) ∧
    ∀ body ∈ bodies, ∀ json tcpId,
      (∀ message, json.dump .strict message = .ok body.1 →
        sendDapRequest json tcpId message = .ok [tcpId, dapFrame body.1] ∧
        ∀ sendRecvRequest, forwardMessage json sendRecvRequest message =
          sendRecvRequest (dapFrame body.1) >>= fun reply => liftJson (json.parse reply)) ∧
      controlBody (dapFrame body.1) = .ok body.1 ∧
        handleControlSocket json tcpId false (dapFrame body.1) =
          ⟨[tcpId, dapFrame body.1], .ok false⟩ ∧
        handleControlSocket json tcpId true (dapFrame body.1) =
          match liftJson (json.parse body.1) with
          | .error e => ⟨[], .error e⟩
          | .ok message => ⟨[tcpId, dapFrame body.1], isAttach message⟩ := by
  obtain ⟨points, hdrain, hend, hpoints⟩ :=
    drainTcp_frames (Nat.le_refl chunks.length) hstream hlast queue
  refine ⟨⟨points, hdrain, hend hbodies, hpoints⟩, fun body _ json tcpId => ⟨?_, ?_⟩⟩
  · intro message hdump
    exact ⟨sendDapRequest_of_dump hdump tcpId, forwardMessage_of_dump hdump⟩
  · refine ⟨controlBody_dapFrame body.1, rfl, ?_⟩
    exact handleControlSocket_dapFrame json tcpId body.1

/-- Two messages, the first looking like a header and cut inside it, the second
empty. -/
theorem dap_framing_lookalike : ∃ points,
    drainTcp 4 ⟨[], [⟨[], literal "Content-Le"⟩, ⟨[], []⟩,
      ⟨[], literal "ngth: 20\r\n\r\nContent-Length: \r\n\r\nC"⟩,
      ⟨[], literal "ontent-Length: 0\r\n\r\n"⟩]⟩ = .ok points ∧
    points.getLast? = some ⟨[literal "Content-Length: \r\n\r\n", []], []⟩ := by
  obtain ⟨⟨points, hdrain, hend, -⟩, -⟩ := dap_framing
    [⟨literal "Content-Length: \r\n\r\n", by decide⟩, ⟨[], by decide⟩] (by decide)
    [⟨[], literal "Content-Le"⟩, ⟨[], []⟩,
      ⟨[], literal "ngth: 20\r\n\r\nContent-Length: \r\n\r\nC"⟩,
      ⟨[], literal "ontent-Length: 0\r\n\r\n"⟩]
    (by decide) (by decide) []
  exact ⟨points, hdrain, hend⟩

end XeusZmq.DapFramingCorrectness
