import Mathlib.Algebra.Group.Int.Defs
import XeusZmq.OrderedMap
import XeusZmq.Utf8

/-!
The members of JSON objects: how the code reads them, and what is known of the
text of an object of strings.
-/

namespace XeusZmq.JsonAccess

open XeusZmq.Values
open XeusZmq.Utf8

/-- The order of `std::string`: by unsigned bytes, a shorter text first. -/
def keyBefore : Bytes → Bytes → Bool
  | _, [] => false
  | [], _ :: _ => true
  | a :: as, b :: bs => a < b || (a == b && keyBefore as bs)

theorem keyBefore_asymm (a b : Bytes) (h : keyBefore a b = true) : keyBefore b a = false := by
  induction a generalizing b with
  | nil => cases b <;> rfl
  | cons x a ih =>
      cases b with
      | nil => cases h
      | cons y b =>
          simp only [keyBefore, Bool.or_eq_true, decide_eq_true_eq, Bool.and_eq_true,
            beq_iff_eq] at h
          rcases h with hlt | ⟨rfl, hrest⟩
          · have hne : (y == x) = false := beq_eq_false_iff_ne.mpr (UInt8.ne_of_lt hlt).symm
            have hnot : decide (y < x) = false := decide_eq_false (UInt8.lt_asymm hlt)
            rw [keyBefore, hne, hnot]
            rfl
          · have hnot : decide (x < x) = false := decide_eq_false (UInt8.lt_irrefl x)
            rw [keyBefore, ih b hrest, hnot, Bool.and_false]
            rfl

/-- The order in which a `std::map` holds its entries. -/
def SortedKeys {α : Type} (members : List (Bytes × α)) : Prop :=
  (members.map Prod.fst).Pairwise fun a b => keyBefore a b = true

theorem sortedKeys_pair {α : Type} {key key' : Bytes} {value value' : α}
    (h : keyBefore key key' = true) : SortedKeys [(key, value), (key', value')] :=
  List.pairwise_pair.mpr h

def ValidKeys {α : Type} (members : List (Bytes × α)) : Prop :=
  ∀ key ∈ members.map Prod.fst, validUtf8 key = true

/-- The `operator[]` of a const value, for a key that has to be there. -/
def constIndex (json : Json) (key : Bytes) : Result Json :=
  match json with
  | .object members =>
      match members.lookup key with
      | some value => .ok value
      | none => .error (.undefined .missingMember)
  | _ => .error (.exception (.json .typeError))

/-- `find`, with `none` for the end. -/
def findMember (json : Json) (key : Bytes) : Option Json :=
  match json with
  | .object members => members.lookup key
  | _ => none

/-- The comparison with a string literal. -/
def isText (json : Json) (text : Bytes) : Bool :=
  match json with
  | .string value => value == text
  | _ => false

/-- The values that an iterator over the value meets. -/
def elements : Json → List Json
  | .null => []
  | .array values => values
  | .object members => members.map Prod.snd
  | json => [json]

def size (json : Json) : Nat :=
  (elements json).length

/-- `at` with a position. -/
def valueAt (json : Json) (i : Int) : Except JsonException Json :=
  match json with
  | .array values =>
      if 0 ≤ i ∧ i < values.length then .ok (values.getD i.toNat .null)
      else .error .outOfRange
  | _ => .error .typeError

/-- What the `operator[]` of a value that is not const refers to. It turns null
into an object and inserts null under a key that is not there. -/
def index (json : Json) (key : Bytes) : Except JsonException Json :=
  match json with
  | .object members => .ok ((members.lookup key).getD .null)
  | .null => .ok .null
  | _ => .error .typeError

def getString : Json → Except JsonException Bytes
  | .string text => .ok text
  | _ => .error .typeError

def getBool : Json → Except JsonException Bool
  | .boolean value => .ok value
  | _ => .error .typeError

/-- The integer part of a double, unless it is infinite or not a number. -/
def truncate (bits : UInt64) : Option Int :=
  let exponent := bits.toNat / 2 ^ 52 % 2 ^ 11
  let mantissa := bits.toNat % 2 ^ 52 + 2 ^ 52
  let magnitude : Nat :=
    if exponent < 1023 then 0
    else if exponent < 1075 then mantissa / 2 ^ (1075 - exponent)
    else mantissa * 2 ^ (exponent - 1075)
  if exponent = 2047 then none
  else if bits.toNat < 2 ^ 63 then some (magnitude : Int)
  else some (-(magnitude : Int))

/-- The conversion of an integer to an int, which keeps its lowest 32 bits. -/
def toInt (value : Int) : Int :=
  (value + 2 ^ 31) % 2 ^ 32 - 2 ^ 31

/-- `get<int>()`. -/
def getInt : Json → Result Int
  | .integer value => .ok (toInt value)
  | .float bits =>
      match truncate bits with
      | some value =>
          if -2 ^ 31 ≤ value ∧ value < 2 ^ 31 then .ok value
          else .error (.undefined .unrepresentable)
      | none => .error (.undefined .unrepresentable)
  | .boolean value => .ok (if value then 1 else 0)
  | _ => .error (.exception (.json .typeError))

/-- The sum of two ints. -/
def checkedAdd (a b : Int) : Result Int :=
  if -2 ^ 31 ≤ a + b ∧ a + b < 2 ^ 31 then .ok (a + b)
  else .error (.undefined .unrepresentable)

theorem checkedAdd_eq_ok_iff {a b sum : Int} :
    checkedAdd a b = .ok sum ↔ sum = a + b ∧ -2 ^ 31 ≤ sum ∧ sum < 2 ^ 31 := by
  unfold checkedAdd
  split_ifs with hfits
  · rw [Except.ok.injEq]
    exact ⟨fun h => ⟨h.symm, h ▸ hfits⟩, fun h => h.1.symm⟩
  · refine iff_of_false (by simp) fun h => ?_
    exact hfits (h.1 ▸ h.2)

/-- `json[key].get<std::string>()`. -/
def stringAt (json : Json) (key : Bytes) : Except JsonException Bytes := do
  let value ← index json key
  getString value

/-- One `operator[]` on a value that is not const. -/
inductive Step
  | key (name : Bytes)
  | position (i : Nat)

/-- Goes to a place inside the value, making up what is missing on the way, and
does something there. -/
def visit {α : Type} (f : Json → Except JsonException (α × Json)) :
    List Step → Json → Except JsonException (α × Json)
  | [], json => f json
  | .key name :: path, json => do
      let members ← match json with
        | .null => pure []
        | .object members => pure members
        | _ => throw .typeError
      let (a, child) ← visit f path ((members.lookup name).getD .null)
      return (a, .object (OrderedMap.insert keyBefore name child members))
  | .position i :: path, json => do
      let values ← match json with
        | .null => pure []
        | .array values => pure values
        | _ => throw .typeError
      let values := values ++ List.replicate (i + 1 - values.length) .null
      let (a, child) ← visit f path (values.getD i .null)
      return (a, .array (values.set i child))

def readAt (path : List Step) (json : Json) : Except JsonException (Json × Json) :=
  visit (fun value => .ok (value, value)) path json

theorem readAt_key_object (key : Bytes) (members : List (Bytes × Json)) :
    readAt [.key key] (.object members) =
      .ok ((members.lookup key).getD .null,
        .object (OrderedMap.insert keyBefore key ((members.lookup key).getD .null) members)) := rfl

def assignAt (path : List Step) (value json : Json) : Except JsonException Json := do
  let ((), json) ← visit (fun _ => .ok ((), value)) path json
  return json

/-- `erase` with a position. -/
def eraseAt (path : List Step) (i : Nat) (json : Json) : Except JsonException Json := do
  let ((), json) ← visit (fun value =>
    match value with
    | .array values =>
        if i < values.length then .ok ((), .array (values.eraseIdx i))
        else .error .outOfRange
    | _ => .error .typeError) path json
  return json

/-- `erase` with a key. -/
def eraseKeyAt (path : List Step) (key : Bytes) (json : Json) :
    Except JsonException Json := do
  let ((), json) ← visit (fun value =>
    match value with
    | .object members => .ok ((), .object (OrderedMap.erase key members))
    | _ => .error .typeError) path json
  return json

def stringObject (members : List (Bytes × Bytes)) : Json :=
  .object (members.map fun member => (member.1, .string member.2))

def ValidStrings (members : List (Bytes × Bytes)) : Prop :=
  ∀ member ∈ members, validUtf8 member.2 = true

theorem validMembers_strings_iff {members : List (Bytes × Bytes)}
    (hkeys : ValidKeys members) :
    validJson (stringObject members) = true ↔ ValidStrings members := by
  induction members with
  | nil => simp [stringObject, validJson, validMembers, ValidStrings]
  | cons member members ih =>
      have hkey : validUtf8 member.1 = true := hkeys member.1 (by simp)
      have hrest := ih fun key hmem => hkeys key (List.mem_cons_of_mem _ hmem)
      simp only [stringObject, validJson, ValidStrings] at hrest
      simp only [stringObject, validJson, List.map_cons, validMembers, hkey,
        Bool.true_and, Bool.and_eq_true, hrest, ValidStrings, List.forall_mem_cons]

/-- What the two conversions make of an object of strings whose keys are valid.
It is refused by the strict handler alone, and only for a string that is not
UTF-8. Its text parses as the object in which the strings that are not UTF-8
were repaired. -/
def RereadsStrings (json : JsonLibrary) : Prop :=
  ∀ errorHandler, ∃ repair : Bytes → Bytes,
    (∀ text, validUtf8 text = true → repair text = text) ∧
    ∀ members : List (Bytes × Bytes), SortedKeys members → ValidKeys members →
      ((∃ text, json.dump errorHandler (stringObject members) = .ok text) ↔
        errorHandler ≠ .strict ∨ ValidStrings members) ∧
      ∀ text, json.dump errorHandler (stringObject members) = .ok text →
        json.parse text =
          .ok (stringObject (members.map fun member => (member.1, repair member.2)))

end XeusZmq.JsonAccess
