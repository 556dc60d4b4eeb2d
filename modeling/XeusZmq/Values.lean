import Mathlib.Algebra.Group.Nat.Defs
import Mathlib.Data.List.Basic

/-!
Values shared by the whole model: bytes and frames, the ways a C++ call can
end, and the parts of `nlohmann::json` and of the xeus message types that the
repository relies on.
-/

namespace XeusZmq.Values

abbrev Bytes := List UInt8

/-- The frames of a `zmq::multipart_t`, front first. -/
abbrev Multipart := List Bytes

/-- The bytes of a C++ string literal. -/
def literal (text : String) : Bytes :=
  text.toList.map fun c => UInt8.ofNat c.toNat

/-- The contents of a `std::string`, whose length is a `size_t`. -/
abbrev StdString := {bytes : Bytes // bytes.length < 2 ^ 64}

inductive JsonException
  | parseError
  | typeError
  | outOfRange
  deriving DecidableEq, Repr

/-- The exceptions derived from `std::exception` that the code can meet. -/
inductive Exception
  | runtimeError (what : String)
  | outOfRange
  | invalidArgument
  | json (e : JsonException)
  | zmqError (num : Nat)
  deriving DecidableEq, Repr

/-- Steps whose effect C++, cppzmq or nlohmann leaves undefined. -/
inductive Undefined
  | popEmpty
  | outOfBoundsRead
  | missingMember
  | unrepresentable
  deriving DecidableEq, Repr

/-- How a call can end without returning. Only `exception` can be caught. -/
inductive Failure
  | exception (e : Exception)
  | undefined (u : Undefined)
  deriving DecidableEq, Repr

abbrev Result := Except Failure

/-- A call that may throw, inside one that may also be undefined. -/
def lift {α : Type} : Except Exception α → Result α
  | .ok a => .ok a
  | .error e => .error (.exception e)

/-- A call of `nl::json`, likewise. -/
def liftJson {α : Type} : Except JsonException α → Result α
  | .ok a => .ok a
  | .error e => .error (.exception (.json e))

theorem lift_eq_ok {α : Type} {x : Except Exception α} {a : α} : lift x = .ok a ↔ x = .ok a := by
  cases x <;> simp [lift]

@[simp] theorem liftJson_ok {α : Type} (a : α) :
    liftJson (.ok a : Except JsonException α) = .ok a := rfl

@[simp] theorem liftJson_error {α : Type} (e : JsonException) :
    liftJson (.error e : Except JsonException α) = .error (.exception (.json e)) := rfl

theorem liftJson_eq_ok {α : Type} {x : Except JsonException α} {a : α} :
    liftJson x = .ok a ↔ x = .ok a := by
  cases x <;> simp

@[simp] theorem ok_bind {ε α β : Type} (a : α) (f : α → Except ε β) :
    (Except.ok a >>= f) = f a := rfl

@[simp] theorem error_bind {ε α β : Type} (e : ε) (f : α → Except ε β) :
    ((Except.error e : Except ε α) >>= f) = .error e := rfl

theorem bind_eq_ok {ε α β : Type} {x : Except ε α} {f : α → Except ε β} {b : β} :
    x >>= f = .ok b ↔ ∃ a, x = .ok a ∧ f a = .ok b := by
  cases x <;> simp

theorem bind_ne_error {ε α β : Type} {e : ε} {x : Except ε α} {f : α → Except ε β}
    (hx : x ≠ .error e) (hf : ∀ a, f a ≠ .error e) : x >>= f ≠ .error e := by
  cases x with
  | error e' =>
      rw [error_bind]
      exact fun h => hx (congrArg Except.error (Except.error.inj h))
  | ok a => exact hf a

/-- `multipart_t::pop`, which needs a non-empty message. -/
def pop : Multipart → Result (Bytes × Multipart)
  | [] => .error (.undefined .popEmpty)
  | frame :: rest => .ok (frame, rest)

@[simp] theorem pop_cons (frame : Bytes) (rest : Multipart) :
    pop (frame :: rest) = .ok (frame, rest) := rfl

@[simp] theorem pop_nil : pop [] = .error (.undefined .popEmpty) := rfl

/-- A value of `nl::json`. An object is a `std::map`, kept here as its
key-sorted list of members. -/
inductive Json
  | null
  | boolean (value : Bool)
  | integer (value : Int)
  | float (bits : UInt64)
  | string (text : Bytes)
  | array (elements : List Json)
  | object (members : List (Bytes × Json))

inductive ErrorHandler
  | strict
  | replace
  | ignore
  deriving DecidableEq, Repr

/-- The two conversions of `nl::json` between values and text. The repository
always dumps compactly, so only the error handler is left of its options. -/
structure JsonLibrary where
  dump : ErrorHandler → Json → Except JsonException Bytes
  parse : Bytes → Except JsonException Json

structure XMessageBaseData where
  header : Json
  parentHeader : Json
  metadata : Json
  content : Json
  buffers : List Bytes

structure XMessage where
  identities : List Bytes
  data : XMessageBaseData

structure XPubMessage where
  topic : Bytes
  data : XMessageBaseData

inductive Channel
  | shell
  | control
  deriving DecidableEq, Repr

end XeusZmq.Values
