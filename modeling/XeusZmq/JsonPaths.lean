import XeusZmq.JsonAccess

/-!
What `operator[]` does along a path that is there, and along one that is not.
-/

namespace XeusZmq.JsonPaths

open XeusZmq.Values
open XeusZmq.JsonAccess

/-- A value as the maps of `nl::json` hold it. -/
inductive Ordered : Json → Prop
  | null : Ordered .null
  | boolean (value : Bool) : Ordered (.boolean value)
  | integer (value : Int) : Ordered (.integer value)
  | float (bits : UInt64) : Ordered (.float bits)
  | string (text : Bytes) : Ordered (.string text)
  | array (values : List Json) (h : ∀ value ∈ values, Ordered value) : Ordered (.array values)
  | object (members : List (Bytes × Json)) (hsorted : SortedKeys members)
      (h : ∀ member ∈ members, Ordered member.2) : Ordered (.object members)

attribute [simp] Ordered.null Ordered.boolean Ordered.integer Ordered.float Ordered.string

@[simp] theorem ordered_array_iff {values : List Json} :
    Ordered (.array values) ↔ ∀ value ∈ values, Ordered value := by
  constructor
  · rintro ⟨⟩
    assumption
  · exact .array values

@[simp] theorem ordered_object_iff {members : List (Bytes × Json)} :
    Ordered (.object members) ↔ SortedKeys members ∧ ∀ member ∈ members, Ordered member.2 := by
  constructor
  · rintro ⟨⟩
    exact ⟨by assumption, by assumption⟩
  · rintro ⟨hsorted, hmembers⟩
    exact .object members hsorted hmembers

/-- What `parse` returns are values as the maps hold them. -/
def ParsesOrdered (json : JsonLibrary) : Prop :=
  ∀ text value, json.parse text = .ok value → Ordered value

def lookupAt : List Step → Json → Option Json
  | [], json => some json
  | .key name :: path, .object members => (members.lookup name).bind (lookupAt path)
  | .position i :: path, .array values => values[i]?.bind (lookupAt path)
  | _, _ => none

/-- Another value at a path that is there. -/
def replaceAt : List Step → Json → Json → Json
  | [], value, _ => value
  | .key name :: path, value, .object members =>
      .object (OrderedMap.insert keyBefore name
        (replaceAt path value ((members.lookup name).getD .null)) members)
  | .position i :: path, value, .array values =>
      .array (values.set i (replaceAt path value (values.getD i .null)))
  | _, _, json => json

theorem lookupAt_key {name : Bytes} {path : List Step} {json value : Json}
    (h : lookupAt (.key name :: path) json = some value) :
    ∃ members child, json = .object members ∧ members.lookup name = some child ∧
      lookupAt path child = some value := by
  cases json with
  | object members =>
      obtain ⟨child, hchild, hvalue⟩ := Option.bind_eq_some_iff.mp h
      exact ⟨members, child, rfl, hchild, hvalue⟩
  | _ => cases h

theorem lookupAt_position {i : Nat} {path : List Step} {json value : Json}
    (h : lookupAt (.position i :: path) json = some value) :
    ∃ values child, json = .array values ∧ values[i]? = some child ∧
      lookupAt path child = some value := by
  cases json with
  | array values =>
      obtain ⟨child, hchild, hvalue⟩ := Option.bind_eq_some_iff.mp h
      exact ⟨values, child, rfl, hchild, hvalue⟩
  | _ => cases h

theorem constIndex_of_lookupAt {name : Bytes} {json value : Json}
    (h : lookupAt [.key name] json = some value) : constIndex json name = .ok value := by
  obtain ⟨members, child, rfl, hchild, hvalue⟩ := lookupAt_key h
  obtain rfl := Option.some.inj hvalue
  rw [constIndex, hchild]

theorem getD_of_getElem? {values : List Json} {i : Nat} {child : Json}
    (h : values[i]? = some child) : values.getD i .null = child := by
  rw [List.getD_eq_getElem?_getD, h, Option.getD_some]

theorem getD_padding (values : List Json) (n i : Nat) :
    (values ++ List.replicate n Json.null).getD i .null = values.getD i .null := by
  simp only [List.getD_eq_getElem?_getD, List.getElem?_append, List.getElem?_replicate]
  split_ifs with hi
  · rfl
  · rw [List.getElem?_eq_none (Nat.le_of_not_lt hi)]
    rfl
  · rw [List.getElem?_eq_none (Nat.le_of_not_lt hi)]

theorem lookupAt_append (path path' : List Step) (json : Json) :
    lookupAt (path ++ path') json = (lookupAt path json).bind (lookupAt path') := by
  induction path generalizing json with
  | nil => rfl
  | cons step path ih =>
      cases step with
      | key name =>
          cases json with
          | object members =>
              simp only [List.cons_append, lookupAt, Option.bind_assoc]
              exact congrArg _ (funext ih)
          | _ => rfl
      | position i =>
          cases json with
          | array values =>
              simp only [List.cons_append, lookupAt, Option.bind_assoc]
              exact congrArg _ (funext ih)
          | _ => rfl

section Replacing

variable {path : List Step} {json value : Json}

theorem lookupAt_replaceAt (h : lookupAt path json = some value) (value' : Json) :
    lookupAt path (replaceAt path value' json) = some value' := by
  induction path generalizing json with
  | nil => rfl
  | cons step path ih =>
      cases step with
      | key name =>
          obtain ⟨members, child, rfl, hchild, hvalue⟩ := lookupAt_key h
          simp only [replaceAt, lookupAt, hchild, OrderedMap.lookup_insert_self,
            Option.getD_some, Option.bind_some, ih hvalue]
      | position i =>
          obtain ⟨values, child, rfl, hchild, hvalue⟩ := lookupAt_position h
          obtain ⟨hi, rfl⟩ := List.getElem?_eq_some_iff.mp hchild
          simp [replaceAt, lookupAt, hi, ih hvalue]

theorem replaceAt_inj (h : lookupAt path json = some value) {value₁ value₂ : Json} :
    replaceAt path value₁ json = replaceAt path value₂ json ↔ value₁ = value₂ := by
  constructor
  · intro heq
    have hsame := congrArg (lookupAt path) heq
    rw [lookupAt_replaceAt h, lookupAt_replaceAt h] at hsame
    exact Option.some.inj hsame
  · rintro rfl
    rfl

theorem lookupAt_replaceAt_of_ne {name other : Bytes} (hother : other ≠ name) (value json : Json) :
    lookupAt [.key other] (replaceAt [.key name] value json) = lookupAt [.key other] json := by
  cases json with
  | object members =>
      simp only [replaceAt, lookupAt, OrderedMap.lookup_insert_of_ne keyBefore hother]
  | _ => rfl

theorem replaceAt_replaceAt (path : List Step) (value value' json : Json) :
    replaceAt path value (replaceAt path value' json) = replaceAt path value json := by
  induction path generalizing json with
  | nil => rfl
  | cons step path ih =>
      cases step with
      | key name =>
          cases json with
          | object members =>
              simp only [replaceAt, OrderedMap.lookup_insert_self, Option.getD_some, ih,
                OrderedMap.insert_insert]
          | _ => rfl
      | position i =>
          cases json with
          | array values =>
              by_cases hi : i < values.length
              · simp [replaceAt, hi, ih]
              · simp [replaceAt, List.set_eq_of_length_le (Nat.le_of_not_lt hi)]
          | _ => rfl

theorem replaceAt_of_lookupAt (hordered : Ordered json) (h : lookupAt path json = some value) :
    replaceAt path value json = json := by
  induction path generalizing json with
  | nil => exact (Option.some.inj h).symm
  | cons step path ih =>
      cases step with
      | key name =>
          obtain ⟨members, child, rfl, hchild, hvalue⟩ := lookupAt_key h
          cases hordered with
          | object _ hsorted hmembers =>
              have hordered : Ordered child := hmembers _ (OrderedMap.mem_of_lookup hchild)
              rw [replaceAt, hchild, Option.getD_some, ih hordered hvalue,
                OrderedMap.insert_of_lookup keyBefore_asymm hsorted hchild]
      | position i =>
          obtain ⟨values, child, rfl, hchild, hvalue⟩ := lookupAt_position h
          obtain ⟨hi, rfl⟩ := List.getElem?_eq_some_iff.mp hchild
          cases hordered with
          | array _ hvalues =>
              have hordered : Ordered values[i] := hvalues _ (List.getElem_mem hi)
              rw [replaceAt, getD_of_getElem? hchild, ih hordered hvalue, List.set_getElem_self]

theorem replaceAt_append (h : lookupAt path json = some value) (path' : List Step)
    (value' : Json) :
    replaceAt (path ++ path') value' json = replaceAt path (replaceAt path' value' value) json := by
  induction path generalizing json with
  | nil =>
      obtain rfl := Option.some.inj h
      rfl
  | cons step path ih =>
      cases step with
      | key name =>
          obtain ⟨members, child, rfl, hchild, hvalue⟩ := lookupAt_key h
          simp only [List.cons_append, replaceAt, hchild, Option.getD_some, ih hvalue]
      | position i =>
          obtain ⟨values, child, rfl, hchild, hvalue⟩ := lookupAt_position h
          simp only [List.cons_append, replaceAt, getD_of_getElem? hchild, ih hvalue]

theorem ordered_of_lookupAt (hordered : Ordered json) (h : lookupAt path json = some value) :
    Ordered value := by
  induction path generalizing json with
  | nil => exact Option.some.inj h ▸ hordered
  | cons step path ih =>
      cases step with
      | key name =>
          obtain ⟨members, child, rfl, hchild, hvalue⟩ := lookupAt_key h
          cases hordered with
          | object _ hsorted hmembers =>
              exact ih (hmembers _ (OrderedMap.mem_of_lookup hchild)) hvalue
      | position i =>
          obtain ⟨values, child, rfl, hchild, hvalue⟩ := lookupAt_position h
          cases hordered with
          | array _ hvalues => exact ih (hvalues _ (List.mem_of_getElem? hchild)) hvalue

end Replacing

section Visiting

variable {α : Type} {f : Json → Except JsonException (α × Json)} {path : List Step}
  {json value : Json}

/-- The members of a value that is made an object. -/
def membersOf : Json → Except JsonException (List (Bytes × Json))
  | .null => .ok []
  | .object members => .ok members
  | _ => .error .typeError

def valuesOf : Json → Except JsonException (List Json)
  | .null => .ok []
  | .array values => .ok values
  | _ => .error .typeError

theorem visit_key (name : Bytes) :
    visit f (.key name :: path) json = membersOf json >>= fun members =>
      visit f path ((members.lookup name).getD .null) >>= fun result =>
        .ok (result.1, .object (OrderedMap.insert keyBefore name result.2 members)) := by
  cases json <;> rfl

theorem visit_position (i : Nat) :
    visit f (.position i :: path) json = valuesOf json >>= fun values =>
      visit f path (values.getD i .null) >>= fun result =>
        .ok (result.1, .array
          ((values ++ List.replicate (i + 1 - values.length) Json.null).set i result.2)) := by
  cases json with
  | null =>
      rw [valuesOf, ok_bind, ← getD_padding [] (i + 1 - 0)]
      rfl
  | array values =>
      rw [valuesOf, ok_bind, ← getD_padding values (i + 1 - values.length)]
      rfl
  | _ => rfl

theorem visit_append (path path' : List Step) (json : Json) :
    visit f (path ++ path') json = visit (visit f path') path json := by
  induction path generalizing json with
  | nil => rfl
  | cons step path ih =>
      cases step with
      | key name =>
          cases json <;> simp only [List.cons_append, visit, ih]
      | position i =>
          cases json <;> simp only [List.cons_append, visit, ih]

theorem visit_of_lookupAt (h : lookupAt path json = some value) :
    visit f path json = (f value).map fun result =>
      (result.1, replaceAt path result.2 json) := by
  induction path generalizing json with
  | nil =>
      obtain rfl := Option.some.inj h
      change f json = _
      cases f json <;> rfl
  | cons step path ih =>
      cases step with
      | key name =>
          obtain ⟨members, child, rfl, hchild, hvalue⟩ := lookupAt_key h
          rw [visit_key, membersOf, ok_bind, hchild, Option.getD_some, ih hvalue]
          simp only [replaceAt, hchild, Option.getD_some]
          cases f value <;> rfl
      | position i =>
          obtain ⟨values, child, rfl, hchild, hvalue⟩ := lookupAt_position h
          obtain ⟨hi, -⟩ := List.getElem?_eq_some_iff.mp hchild
          have hpadding : i + 1 - values.length = 0 := by omega
          rw [visit_position, valuesOf, ok_bind, getD_of_getElem? hchild, ih hvalue, hpadding,
            List.replicate_zero, List.append_nil]
          simp only [replaceAt, getD_of_getElem? hchild]
          cases f value <;> rfl

theorem lookupAt_null (path : List Step) : (lookupAt path .null).getD .null = .null := by
  cases path with
  | nil => rfl
  | cons step path => cases step <;> rfl

theorem getD_lookupAt_key {members : List (Bytes × Json)} (h : membersOf json = .ok members)
    (name : Bytes) (path : List Step) :
    (lookupAt (.key name :: path) json).getD .null =
      (lookupAt path ((members.lookup name).getD .null)).getD .null := by
  cases json with
  | null =>
      obtain rfl := Except.ok.inj h
      exact (lookupAt_null path).symm
  | object members' =>
      obtain rfl := Except.ok.inj h
      cases hchild : members'.lookup name with
      | none => simp [lookupAt, hchild, lookupAt_null]
      | some child => simp [lookupAt, hchild]
  | _ => cases h

theorem getD_lookupAt_position {values : List Json} (h : valuesOf json = .ok values) (i : Nat)
    (path : List Step) :
    (lookupAt (.position i :: path) json).getD .null =
      (lookupAt path (values.getD i .null)).getD .null := by
  cases json with
  | null =>
      obtain rfl := Except.ok.inj h
      exact (lookupAt_null path).symm
  | array values' =>
      obtain rfl := Except.ok.inj h
      cases hchild : values'[i]? with
      | none => simp [lookupAt, hchild, lookupAt_null]
      | some child => simp [lookupAt, hchild]
  | _ => cases h

/-- Going along a path makes it one that is there. -/
theorem visit_eq_ok {a : α} {json' : Json} (h : visit f path json = .ok (a, json')) :
    ∃ value', f ((lookupAt path json).getD .null) = .ok (a, value') ∧
      lookupAt path json' = some value' := by
  induction path generalizing json json' with
  | nil => exact ⟨json', h, rfl⟩
  | cons step path ih =>
      cases step with
      | key name =>
          rw [visit_key] at h
          obtain ⟨members, hmembers, h⟩ := bind_eq_ok.mp h
          obtain ⟨⟨a', child⟩, hvisit, h⟩ := bind_eq_ok.mp h
          obtain ⟨rfl, rfl⟩ := Prod.mk.inj (Except.ok.inj h)
          obtain ⟨value', hvalue, hpresent⟩ := ih hvisit
          refine ⟨value', ?_, ?_⟩
          · rw [← hvalue, getD_lookupAt_key hmembers]
          · simp only [lookupAt, OrderedMap.lookup_insert_self, Option.bind_some, hpresent]
      | position i =>
          rw [visit_position] at h
          obtain ⟨values, hvalues, h⟩ := bind_eq_ok.mp h
          obtain ⟨⟨a', child⟩, hvisit, h⟩ := bind_eq_ok.mp h
          obtain ⟨rfl, rfl⟩ := Prod.mk.inj (Except.ok.inj h)
          obtain ⟨value', hvalue, hpresent⟩ := ih hvisit
          refine ⟨value', ?_, ?_⟩
          · rw [← hvalue, getD_lookupAt_position hvalues]
          · have hi : i < (values ++ List.replicate (i + 1 - values.length) Json.null).length := by
              rw [List.length_append, List.length_replicate]
              omega
            simp only [lookupAt, List.getElem?_set_self hi, Option.bind_some, hpresent]

theorem readAt_of_lookupAt (hordered : Ordered json) (h : lookupAt path json = some value) :
    readAt path json = .ok (value, json) := by
  rw [readAt, visit_of_lookupAt h]
  simp only [Except.map, replaceAt_of_lookupAt hordered h]

theorem readAt_of_missing {json' : Json} (h : lookupAt path json = none)
    (hread : readAt path json = .ok (value, json')) : value = .null ∧ json' ≠ json := by
  obtain ⟨value', hvalue, hpresent⟩ := visit_eq_ok hread
  rw [h] at hvalue
  obtain ⟨rfl, rfl⟩ := Prod.mk.inj (Except.ok.inj hvalue)
  refine ⟨rfl, ?_⟩
  rintro rfl
  rw [h] at hpresent
  cases hpresent

theorem assignAt_member {members : List (Bytes × Json)}
    (h : lookupAt path json = some (.object members)) (name : Bytes) (value' : Json) :
    assignAt (path ++ [.key name]) value' json =
      .ok (replaceAt path (.object (OrderedMap.insert keyBefore name value' members)) json) := by
  rw [assignAt, visit_append, visit_of_lookupAt h, visit_key, membersOf]
  rfl

/-- A member that is erased and assigned again comes to stand where it has been. -/
theorem assignAt_eraseKeyAt {name : Bytes} (hordered : Ordered json)
    (h : lookupAt (path ++ [.key name]) json = some value) :
    ∃ json', eraseKeyAt path name json = .ok json' ∧
      ∀ value', assignAt (path ++ [.key name]) value' json' =
        .ok (replaceAt (path ++ [.key name]) value' json) := by
  rw [lookupAt_append] at h
  obtain ⟨object, hobject, hmember⟩ := Option.bind_eq_some_iff.mp h
  obtain ⟨members, child, rfl, hchild, -⟩ := lookupAt_key hmember
  have hsorted : SortedKeys members :=
    (ordered_object_iff.mp (ordered_of_lookupAt hordered hobject)).1
  refine ⟨replaceAt path (.object (OrderedMap.erase name members)) json, ?_, fun value' => ?_⟩
  · rw [eraseKeyAt, visit_of_lookupAt hobject]
    rfl
  · rw [assignAt_member (lookupAt_replaceAt hobject _), replaceAt_replaceAt,
      OrderedMap.insert_erase keyBefore_asymm value' hsorted, replaceAt_append hobject]
    rfl

end Visiting

end XeusZmq.JsonPaths
