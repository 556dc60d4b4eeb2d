import Mathlib.Data.List.Basic

/-!
Maps as lists of entries in the order of their keys.
-/

namespace XeusZmq.OrderedMap

section OrderedMap

variable {κ α : Type*} [BEq κ] [LawfulBEq κ] (before : κ → κ → Bool)

/-- Replaces the entry of the key, or puts a new one before the first later key. -/
def insert (key : κ) (value : α) : List (κ × α) → List (κ × α)
  | [] => [(key, value)]
  | entry :: entries =>
      if key == entry.1 then (key, value) :: entries
      else if before key entry.1 then (key, value) :: entry :: entries
      else entry :: insert key value entries

def erase (key : κ) (entries : List (κ × α)) : List (κ × α) :=
  entries.filter fun entry => !(key == entry.1)

theorem lookup_insert_self (key : κ) (value : α) (entries : List (κ × α)) :
    (insert before key value entries).lookup key = some value := by
  induction entries with
  | nil => simp [insert]
  | cons entry entries ih =>
      obtain ⟨key', value'⟩ := entry
      unfold insert
      split_ifs with hkey hbefore
      · simp
      · simp
      · rw [List.lookup_cons, eq_false_of_ne_true hkey]
        exact ih

theorem lookup_insert_of_ne {key other : κ} (hother : other ≠ key) (value : α)
    (entries : List (κ × α)) :
    (insert before key value entries).lookup other = entries.lookup other := by
  have hbeq : (other == key) = false := beq_eq_false_iff_ne.mpr hother
  induction entries with
  | nil => simp [insert, List.lookup_cons, hbeq]
  | cons entry entries ih =>
      obtain ⟨key', value'⟩ := entry
      unfold insert
      split_ifs with hkey hbefore
      · obtain rfl : key = key' := eq_of_beq hkey
        simp [List.lookup_cons, hbeq]
      · simp [List.lookup_cons, hbeq]
      · rw [List.lookup_cons, List.lookup_cons, ih]

theorem lookup_erase_of_ne {key other : κ} (hother : other ≠ key)
    (entries : List (κ × α)) :
    (erase key entries).lookup other = entries.lookup other := by
  have hbeq : (other == key) = false := beq_eq_false_iff_ne.mpr hother
  induction entries with
  | nil => rfl
  | cons entry entries ih =>
      obtain ⟨key', value'⟩ := entry
      by_cases hkey : key = key'
      · subst hkey
        simpa [erase, List.lookup_cons, hbeq] using ih
      · have hkeep : erase key ((key', value') :: entries) =
            (key', value') :: erase key entries := by
          simp [erase, hkey]
        rw [hkeep, List.lookup_cons, List.lookup_cons, ih]

omit [LawfulBEq κ] in
theorem mem_keys_insert {key other : κ} {value : α} {entries : List (κ × α)}
    (h : other ∈ (insert before key value entries).map Prod.fst) :
    other = key ∨ other ∈ entries.map Prod.fst := by
  induction entries with
  | nil => simpa [insert] using h
  | cons entry entries ih =>
      unfold insert at h
      split_ifs at h with hkey hbefore
      · rcases List.mem_cons.mp h with rfl | h
        · exact Or.inl rfl
        · exact Or.inr (List.mem_cons_of_mem _ h)
      · exact List.mem_cons.mp h
      · rcases List.mem_cons.mp h with rfl | h
        · exact Or.inr (by simp)
        · exact (ih h).imp_right (List.mem_cons_of_mem _)

/-- A new key keeps the keys distinct wherever it is put. -/
theorem nodup_keys_insert {key : κ} {value : α} {entries : List (κ × α)}
    (hnodup : (entries.map Prod.fst).Nodup) (hkey : key ∉ entries.map Prod.fst) :
    ((insert before key value entries).map Prod.fst).Nodup := by
  induction entries with
  | nil => simp [insert]
  | cons entry entries ih =>
      rw [List.map_cons, List.nodup_cons] at hnodup
      rw [List.map_cons, List.mem_cons, not_or] at hkey
      unfold insert
      split_ifs with hsame hbefore
      · exact absurd (eq_of_beq hsame) hkey.1
      · rw [List.map_cons, List.nodup_cons, List.map_cons, List.mem_cons, not_or,
          List.nodup_cons]
        exact ⟨hkey, hnodup⟩
      · rw [List.map_cons, List.nodup_cons]
        refine ⟨?_, ih hnodup.2 hkey.2⟩
        intro hmem
        rcases mem_keys_insert before hmem with hsame | hmem
        · exact hkey.1 hsame.symm
        · exact hnodup.1 hmem

theorem not_mem_keys_erase (key : κ) (entries : List (κ × α)) :
    key ∉ (erase key entries).map Prod.fst := by
  intro hmem
  obtain ⟨entry, hentry, rfl⟩ := List.mem_map.mp hmem
  simpa using (List.mem_filter.mp hentry).2

omit [LawfulBEq κ] in
theorem nodup_keys_erase (key : κ) {entries : List (κ × α)}
    (hnodup : (entries.map Prod.fst).Nodup) :
    ((erase key entries).map Prod.fst).Nodup :=
  hnodup.sublist (List.Sublist.map _ List.filter_sublist)

theorem mem_of_lookup {key : κ} {value : α} {entries : List (κ × α)}
    (h : entries.lookup key = some value) : (key, value) ∈ entries := by
  obtain ⟨front, rest, rfl, -⟩ := List.lookup_eq_some_iff.mp h
  simp

/-- When no key occurs twice, looking up finds every entry. -/
theorem mem_iff_lookup {key : κ} {value : α} {entries : List (κ × α)}
    (hnodup : (entries.map Prod.fst).Nodup) :
    (key, value) ∈ entries ↔ entries.lookup key = some value := by
  constructor
  · intro hmem
    rw [List.lookup_eq_some_iff]
    obtain ⟨front, rest, rfl⟩ := List.append_of_mem hmem
    refine ⟨front, rest, rfl, fun entry hentry => ?_⟩
    rw [bne_iff_ne]
    rintro rfl
    rw [List.map_append, List.map_cons, List.nodup_append] at hnodup
    exact hnodup.2.2 _ (List.mem_map_of_mem hentry) _ (by simp) rfl
  · exact mem_of_lookup

theorem insert_insert (key : κ) (value value' : α) (entries : List (κ × α)) :
    insert before key value (insert before key value' entries) =
      insert before key value entries := by
  induction entries with
  | nil => simp [insert]
  | cons entry entries ih =>
      by_cases hkey : (key == entry.1) = true
      · simp [insert, hkey]
      · by_cases hbefore : before key entry.1 = true
        · simp [insert, hkey, hbefore]
        · simp [insert, hkey, hbefore, ih]

section Sorted

variable {before} (hasymm : ∀ a b, before a b = true → before b a = false)

include hasymm

theorem ne_of_before {a b : κ} (h : before a b = true) : (a == b) = false := by
  rw [beq_eq_false_iff_ne]
  rintro rfl
  rw [hasymm a a h] at h
  cases h

/-- Putting in what is there changes nothing. -/
theorem insert_of_lookup {key : κ} {value : α} {entries : List (κ × α)}
    (hsorted : (entries.map Prod.fst).Pairwise fun a b => before a b = true)
    (h : entries.lookup key = some value) : insert before key value entries = entries := by
  induction entries with
  | nil => cases h
  | cons entry entries ih =>
      obtain ⟨key', value'⟩ := entry
      rw [List.map_cons, List.pairwise_cons] at hsorted
      rw [List.lookup_cons] at h
      unfold insert
      cases hkey : key == key' with
      | true =>
          rw [hkey] at h
          obtain rfl := Option.some.inj h
          rw [if_pos rfl, eq_of_beq hkey]
      | false =>
          rw [hkey] at h
          have hmem : key ∈ entries.map Prod.fst := List.mem_map_of_mem (mem_of_lookup h)
          have hlater : before key key' = false := hasymm _ _ (hsorted.1 key hmem)
          simp only [hlater, Bool.false_eq_true, if_false, ih hsorted.2 h]

theorem erase_of_before {key : κ} {entries : List (κ × α)}
    (h : ∀ other ∈ entries.map Prod.fst, before key other = true) :
    erase key entries = entries := by
  refine List.filter_eq_self.mpr fun entry hentry => ?_
  rw [ne_of_before hasymm (h entry.1 (List.mem_map_of_mem hentry))]
  rfl

/-- A key is put back where it has been. -/
theorem insert_erase {key : κ} (value : α) {entries : List (κ × α)}
    (hsorted : (entries.map Prod.fst).Pairwise fun a b => before a b = true) :
    insert before key value (erase key entries) = insert before key value entries := by
  induction entries with
  | nil => rfl
  | cons entry entries ih =>
      rw [List.map_cons, List.pairwise_cons] at hsorted
      cases hkey : key == entry.1 with
      | true =>
          have hlater : ∀ other ∈ entries.map Prod.fst, before key other = true := by
            rw [eq_of_beq hkey]
            exact hsorted.1
          have herase : erase key (entry :: entries) = entries := by
            rw [erase, List.filter_cons, hkey]
            exact erase_of_before hasymm hlater
          rw [herase]
          cases entries with
          | nil => simp [insert, hkey]
          | cons next entries =>
              have hnext : before key next.1 = true := hlater next.1 List.mem_cons_self
              simp [insert, hkey, hnext, ne_of_before hasymm hnext]
      | false =>
          have herase : erase key (entry :: entries) = entry :: erase key entries := by
            rw [erase, List.filter_cons, hkey]
            rfl
          rw [herase]
          unfold insert
          cases hbefore : before key entry.1 with
          | true =>
              have hlater : erase key entries = entries := by
                rw [erase, List.filter_eq_self]
                intro other hother
                rw [Bool.not_eq_true', beq_eq_false_iff_ne]
                rintro rfl
                rw [hasymm _ _ (hsorted.1 _ (List.mem_map_of_mem hother))] at hbefore
                cases hbefore
              rw [hlater]
          | false => simp only [hkey, Bool.false_eq_true, if_false, ih hsorted.2]

end Sorted

end OrderedMap

end XeusZmq.OrderedMap
