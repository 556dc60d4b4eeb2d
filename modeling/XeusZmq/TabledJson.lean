import XeusZmq.DapClient
import XeusZmq.DecimalText
import XeusZmq.FlatJson
import XeusZmq.JsonPaths

/-!
The conversions of `nl::json` on values without floats, as a library to run the model
with. A text is parsed when it is the dump of a value of a table.
-/

namespace XeusZmq.TabledJson

open XeusZmq.Values
open XeusZmq.DecimalText
open XeusZmq.Utf8
open XeusZmq.FlatJson
open XeusZmq.JsonPaths
open XeusZmq.Authentication
open XeusZmq.DapClient

def integerText (value : Int) : Bytes :=
  if 0 ≤ value then decimal value.natAbs else 45 :: decimal value.natAbs

mutual

def compact : Json → Option Bytes
  | .null => some (literal "null")
  | .boolean value => some (if value then literal "true" else literal "false")
  | .integer value => some (integerText value)
  | .float _ => none
  | .string text => some (quote text)
  | .array elements =>
      (compactElements elements).map fun text => 91 :: (text.drop 1 ++ [93])
  | .object members =>
      (compactMembers members).map fun text => 123 :: (text.drop 1 ++ [125])

/-- Each element behind a comma. -/
def compactElements : List Json → Option Bytes
  | [] => some []
  | element :: elements =>
      (compact element).bind fun text =>
        (compactElements elements).map fun rest => 44 :: (text ++ rest)

def compactMembers : List (Bytes × Json) → Option Bytes
  | [] => some []
  | (key, value) :: members =>
      (compact value).bind fun text =>
        (compactMembers members).map fun rest => 44 :: (quote key ++ 58 :: (text ++ rest))

end

def textOf (value : Json) : Bytes :=
  (compact value).getD []

def tabledJsonLibrary (values : List Json) : JsonLibrary where
  dump _ part :=
    match compact part with
    | some text => if validJson part then .ok text else .error .typeError
    | none => .error .typeError
  parse text :=
    match values.find? fun value => textOf value == text with
    | some value => .ok value
    | none => .error .parseError

theorem tabledJsonLibrary_parsesOrdered {values : List Json}
    (hordered : ∀ value ∈ values, Ordered value) : ParsesOrdered (tabledJsonLibrary values) := by
  intro text value hparse
  change (match values.find? fun value => textOf value == text with
    | some value => Except.ok value
    | none => Except.error JsonException.parseError) = .ok value at hparse
  cases hfind : values.find? fun value => textOf value == text with
  | none =>
      rw [hfind] at hparse
      cases hparse
  | some found =>
      rw [hfind] at hparse
      obtain rfl := Except.ok.inj hparse
      exact hordered found (List.mem_of_find?_eq_some hfind)

theorem parse_textOf (value : Json) (values : List Json) :
    (tabledJsonLibrary (value :: values)).parse (textOf value) = .ok value := by
  simp [tabledJsonLibrary]

example : textOf (.object [(literal "id", .integer (-1)), (literal "ok", .array [.null])]) =
    literal "\x7b\"id\":-1,\"ok\":[null]\x7d" := by decide +kernel

def tabledConfig (values : List Json) : Config where
  json := tabledJsonLibrary values
  auth := noXAuthentication
  dapTcpType := .client
  dapInitType := .sequential
  routingId := [0, 1, 2, 3, 4]
  header := .object [(literal "msg_type", .string (literal "debug_event"))]
  eventCallback _ := .ok ⟨⟩

end XeusZmq.TabledJson
