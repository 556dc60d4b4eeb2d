import XeusZmq.JsonAccess

/-!
The conversions of `nl::json` cut down to objects of strings, as a library to
run the model with.
-/

namespace XeusZmq.FlatJson

open XeusZmq.Values
open XeusZmq.Utf8
open XeusZmq.JsonAccess

def escape (text : Bytes) : Bytes :=
  text.flatMap fun byte => if byte = 34 ∨ byte = 92 then [92, byte] else [byte]

def quote (text : Bytes) : Bytes :=
  34 :: (escape text ++ [34])

def dumpMember (member : Bytes × Bytes) : Bytes :=
  quote member.1 ++ 58 :: quote member.2

def dumpMembers : List (Bytes × Bytes) → Bytes
  | [] => []
  | member :: members =>
      dumpMember member ++ members.flatMap fun next => 44 :: dumpMember next

def dumpObject (members : List (Bytes × Bytes)) : Bytes :=
  123 :: (dumpMembers members ++ [125])

/-- Where a reader of one object stands. Inside a string, `named` tells that it
is the value of a member whose name has been read. -/
inductive Phase
  | start
  | opened
  | string (named : Bool)
  | escape (named : Bool)
  | colon
  | value
  | separator
  | next
  | closed
  deriving DecidableEq, Repr

structure Reader where
  phase : Phase
  name : Bytes
  text : Bytes
  members : List (Bytes × Bytes)

def Reader.init : Reader where
  phase := .start
  name := []
  text := []
  members := []

def Reader.enter (self : Reader) (phase : Phase) : Reader :=
  { self with phase, text := [] }

def Reader.leaveString (self : Reader) : Bool → Reader
  | false => { self with phase := .colon, name := self.text }
  | true =>
      { self with phase := .separator, members := self.members ++ [(self.name, self.text)] }

def Reader.read (self : Reader) (byte : UInt8) : Option Reader :=
  match self.phase with
  | .start => if byte = 123 then some (self.enter .opened) else none
  | .opened =>
      if byte = 34 then some (self.enter (.string false))
      else if byte = 125 then some (self.enter .closed)
      else none
  | .string named =>
      if byte = 34 then some (self.leaveString named)
      else if byte = 92 then some { self with phase := .escape named }
      else some { self with text := self.text ++ [byte] }
  | .escape named => some { self with phase := .string named, text := self.text ++ [byte] }
  | .colon => if byte = 58 then some (self.enter .value) else none
  | .value => if byte = 34 then some (self.enter (.string true)) else none
  | .separator =>
      if byte = 44 then some (self.enter .next)
      else if byte = 125 then some (self.enter .closed)
      else none
  | .next => if byte = 34 then some (self.enter (.string false)) else none
  | .closed => none

def Reader.readAll (self : Reader) (bytes : Bytes) : Option Reader :=
  bytes.foldlM Reader.read self

theorem Reader.readAll_append (self : Reader) (front rest : Bytes) :
    self.readAll (front ++ rest) = (self.readAll front).bind fun r => r.readAll rest := by
  simp [Reader.readAll, List.foldlM_append]

theorem Reader.readAll_cons (self : Reader) (byte : UInt8) (rest : Bytes) :
    self.readAll (byte :: rest) = (self.read byte).bind fun r => r.readAll rest := rfl

@[simp] theorem Reader.readAll_nil (self : Reader) : self.readAll [] = some self := rfl

/-- Nothing is read behind the closing brace. -/
theorem Reader.readAll_closed {self : Reader} (hclosed : self.phase = .closed)
    {rest : Bytes} (hrest : rest ≠ []) : self.readAll rest = none := by
  obtain ⟨byte, rest, rfl⟩ := List.exists_cons_of_ne_nil hrest
  simp [Reader.readAll_cons, Reader.read, hclosed]

theorem Reader.readAll_escape (text : Bytes) (self : Reader) {named : Bool}
    (hstring : self.phase = .string named) :
    self.readAll (escape text) = some { self with text := self.text ++ text } := by
  induction text generalizing self with
  | nil => simp [escape]
  | cons byte text ih =>
      have hstep : self.readAll (if byte = 34 ∨ byte = 92 then [92, byte] else [byte]) =
          some { self with text := self.text ++ [byte] } := by
        by_cases hbyte : byte = 34 ∨ byte = 92
        · simp [hbyte, Reader.readAll_cons, Reader.read, hstring]
        · rw [not_or] at hbyte
          simp [hbyte, Reader.readAll_cons, Reader.read, hstring]
      have hrest := ih { self with text := self.text ++ [byte] } hstring
      simp only [escape] at hrest
      simp only [escape, List.flatMap_cons, Reader.readAll_append, hstep,
        Option.bind_some, hrest, List.append_assoc, List.singleton_append]

/-- A member is read from where its name may start. -/
theorem Reader.readAll_dumpMember (member : Bytes × Bytes) (self : Reader)
    (hself : self.phase = .opened ∨ self.phase = .next) :
    self.readAll (dumpMember member) =
      some ⟨.separator, member.1, member.2, self.members ++ [member]⟩ := by
  have hopen : self.read 34 = some (self.enter (.string false)) := by
    rcases hself with hphase | hphase <;> simp [Reader.read, hphase]
  have hname := readAll_escape member.1 (self.enter (.string false)) rfl
  let named : Reader := ⟨.string true, member.1, [], self.members⟩
  have htext := readAll_escape member.2 named rfl
  simp only [dumpMember, quote, List.cons_append, Reader.readAll_cons, hopen,
    Option.bind_some, Reader.readAll_append, hname]
  simp only [Reader.read, Reader.enter, Reader.leaveString, if_true, Option.bind_some,
    Reader.readAll_nil, List.nil_append]
  rw [show (⟨.string true, member.1, [], self.members⟩ : Reader) = named from rfl, htext]
  rfl

theorem Reader.readAll_rest (members : List (Bytes × Bytes)) (self : Reader)
    (hself : self.phase = .separator) :
    ∃ reader, self.readAll (members.flatMap fun next => 44 :: dumpMember next) =
        some reader ∧
      reader.phase = .separator ∧ reader.members = self.members ++ members := by
  induction members generalizing self with
  | nil => exact ⟨self, rfl, hself, by simp⟩
  | cons member members ih =>
      have hcomma : self.read 44 = some (self.enter .next) := by
        simp [Reader.read, hself]
      have hmember := readAll_dumpMember member (self.enter .next) (Or.inr rfl)
      obtain ⟨reader, hread, hphase, hmembers⟩ :=
        ih ⟨.separator, member.1, member.2, self.members ++ [member]⟩ rfl
      refine ⟨reader, ?_, hphase, by simpa using hmembers⟩
      simp only [List.flatMap_cons, List.cons_append, Reader.readAll_cons, hcomma,
        Option.bind_some, Reader.readAll_append, hmember]
      exact hread

theorem Reader.readAll_dumpObject (members : List (Bytes × Bytes)) :
    ∃ reader, Reader.init.readAll (dumpObject members) = some reader ∧
      reader.phase = .closed ∧ reader.members = members := by
  let opened := Reader.init.enter .opened
  cases members with
  | nil => exact ⟨opened.enter .closed, rfl, rfl, rfl⟩
  | cons member members =>
      have hmember := readAll_dumpMember member opened (Or.inl rfl)
      obtain ⟨reader, hread, hphase, hmembers⟩ :=
        readAll_rest members ⟨.separator, member.1, member.2, [member]⟩ rfl
      refine ⟨reader.enter .closed, ?_, rfl, hmembers⟩
      have hstart : Reader.init.read 123 = some opened := rfl
      have hclose : reader.read 125 = some (reader.enter .closed) := by
        simp [Reader.read, hphase]
      simp only [dumpObject, dumpMembers, Reader.readAll_cons, hstart, Option.bind_some,
        Reader.readAll_append, hmember]
      rw [show opened.members ++ [member] = [member] from rfl, hread]
      simp [hclose]

/-- The members of an object all of whose values are strings. -/
def flatMembers (members : List (Bytes × Json)) : Option (List (Bytes × Bytes)) :=
  members.mapM fun member =>
    match member.2 with
    | .string text => some (member.1, text)
    | _ => none

/-- The repair of a string that is not UTF-8: one replacement character or none. -/
def repair : ErrorHandler → Bytes → Bytes
  | .strict, text => text
  | .replace, text => if validUtf8 text then text else [0xEF, 0xBF, 0xBD]
  | .ignore, text => if validUtf8 text then text else []

def flatJsonLibrary : JsonLibrary where
  dump errorHandler part :=
    match part with
    | .object members =>
        match flatMembers members with
        | some flat =>
            if errorHandler = .strict ∧ validJson part = false then .error .typeError
            else .ok (dumpObject (flat.map fun member =>
              (member.1, repair errorHandler member.2)))
        | none => .error .typeError
    | _ => .error .typeError
  parse text :=
    match Reader.init.readAll text with
    | some reader =>
        if reader.phase = .closed then .ok (stringObject reader.members)
        else .error .parseError
    | none => .error .parseError

theorem flatMembers_strings (members : List (Bytes × Bytes)) :
    flatMembers (members.map fun member => (member.1, .string member.2)) =
      some members := by
  induction members with
  | nil => rfl
  | cons member members ih =>
      simp only [flatMembers] at ih
      simp [flatMembers, ih]

theorem parse_dumpObject (members : List (Bytes × Bytes)) :
    flatJsonLibrary.parse (dumpObject members) = .ok (stringObject members) := by
  obtain ⟨reader, hread, hphase, rfl⟩ := Reader.readAll_dumpObject members
  simp [flatJsonLibrary, hread, hphase]

theorem dump_stringObject (errorHandler : ErrorHandler) (members : List (Bytes × Bytes)) :
    flatJsonLibrary.dump errorHandler (stringObject members) =
      if errorHandler = .strict ∧ validJson (stringObject members) = false then
        .error .typeError
      else .ok (dumpObject (members.map fun member =>
        (member.1, repair errorHandler member.2))) := by
  simp only [flatJsonLibrary, stringObject, flatMembers_strings]
  rfl

theorem flatJsonLibrary_rereadsStrings : RereadsStrings flatJsonLibrary := by
  intro errorHandler
  refine ⟨repair errorHandler, ?_, ?_⟩
  · intro text hvalid
    cases errorHandler <;> simp [repair, hvalid]
  · intro members _ hkeys
    rw [← validMembers_strings_iff hkeys]
    simp only [dump_stringObject]
    by_cases hrefused : errorHandler = .strict ∧ validJson (stringObject members) = false
    · simp [hrefused]
    · simp only [if_neg hrefused, Except.ok.injEq, exists_eq', true_iff,
        forall_eq', parse_dumpObject, and_true]
      rw [not_and_or, Bool.not_eq_false] at hrefused
      exact hrefused

end XeusZmq.FlatJson
