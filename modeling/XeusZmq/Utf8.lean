import XeusZmq.Values

/-!
Which texts are well-formed UTF-8, and which JSON values contain only such texts.
-/

namespace XeusZmq.Utf8

open XeusZmq.Values

def followers (lead : UInt8) : Option (List (UInt8 × UInt8)) :=
  if lead < 0x80 then some []
  else if lead < 0xC2 then none
  else if lead < 0xE0 then some [(0x80, 0xBF)]
  else if lead = 0xE0 then some [(0xA0, 0xBF), (0x80, 0xBF)]
  else if lead = 0xED then some [(0x80, 0x9F), (0x80, 0xBF)]
  else if lead < 0xF0 then some [(0x80, 0xBF), (0x80, 0xBF)]
  else if lead = 0xF0 then some [(0x90, 0xBF), (0x80, 0xBF), (0x80, 0xBF)]
  else if lead < 0xF4 then some [(0x80, 0xBF), (0x80, 0xBF), (0x80, 0xBF)]
  else if lead = 0xF4 then some [(0x80, 0x8F), (0x80, 0xBF), (0x80, 0xBF)]
  else none

def validFrom : List (UInt8 × UInt8) → Bytes → Bool
  | [], [] => true
  | _ :: _, [] => false
  | [], lead :: rest =>
      match followers lead with
      | some expected => validFrom expected rest
      | none => false
  | (low, high) :: expected, byte :: rest =>
      low ≤ byte && byte ≤ high && validFrom expected rest

def validUtf8 (text : Bytes) : Bool :=
  validFrom [] text

mutual

/-- Every string in the value is valid, the keys of its objects included. -/
def validJson : Json → Bool
  | .string text => validUtf8 text
  | .array elements => validElements elements
  | .object members => validMembers members
  | _ => true

def validElements : List Json → Bool
  | [] => true
  | element :: elements => validJson element && validElements elements

def validMembers : List (Bytes × Json) → Bool
  | [] => true
  | (key, value) :: members => validUtf8 key && validJson value && validMembers members

end

example : validUtf8 (literal "execute_result") = true := by decide

example : validUtf8 [0xC3, 0x28] = false := by decide

end XeusZmq.Utf8
