import Mathlib.Data.List.Infix

/-!
Searching a list for the first occurrence of a word, from a given position on, and for
the last of an element.
-/

namespace XeusZmq.Search

variable {α : Type*} [DecidableEq α]

def firstMatch (needle : List α) : List α → Option Nat
  | [] => if needle = [] then some 0 else none
  | x :: rest =>
      if needle.isPrefixOf (x :: rest) then some 0
      else (firstMatch needle rest).map (· + 1)

/-- The least position from `pos` on at which `needle` occurs in `hay`. -/
def find (needle hay : List α) (pos : Nat) : Option Nat :=
  if pos ≤ hay.length then (firstMatch needle (hay.drop pos)).map (pos + ·)
  else none

theorem firstMatch_append_right (needle rest : List α) :
    firstMatch needle (needle ++ rest) = some 0 := by
  cases hwhole : needle ++ rest with
  | nil => simp [firstMatch, (List.append_eq_nil_iff.mp hwhole).1]
  | cons x tail =>
      have hmatch : needle.isPrefixOf (x :: tail) = true :=
        List.isPrefixOf_iff_prefix.mpr (hwhole ▸ List.prefix_append needle rest)
      simp [firstMatch, hmatch]

theorem firstMatch_bound {needle hay : List α} {i : Nat}
    (h : firstMatch needle hay = some i) : i + needle.length ≤ hay.length := by
  induction hay generalizing i with
  | nil =>
      simp only [firstMatch] at h
      split_ifs at h with hnil
      obtain rfl := Option.some.inj h
      simp [hnil]
  | cons x rest ih =>
      simp only [firstMatch] at h
      split_ifs at h with hmatch
      · obtain rfl := Option.some.inj h
        simpa using (List.isPrefixOf_iff_prefix.mp hmatch).length_le
      · obtain ⟨j, hj, rfl⟩ := Option.map_eq_some_iff.mp h
        have := ih hj
        simp only [List.length_cons]
        omega

theorem firstMatch_eq_none_of_length_lt {needle hay : List α}
    (h : hay.length < needle.length) : firstMatch needle hay = none := by
  by_contra hsome
  obtain ⟨i, hi⟩ := Option.ne_none_iff_exists'.mp hsome
  have := firstMatch_bound hi
  omega

theorem firstMatch_front {a : α} {needle front : List α} (hfront : a ∉ front)
    (rest : List α) :
    firstMatch (a :: needle) (front ++ rest) =
      (firstMatch (a :: needle) rest).map (front.length + ·) := by
  induction front with
  | nil => simp
  | cons x front ih =>
      have hne : a ≠ x := fun heq => hfront (heq ▸ List.mem_cons_self)
      have hrest : a ∉ front := fun hmem => hfront (List.mem_cons_of_mem x hmem)
      have hmatch : (a :: needle).isPrefixOf (x :: (front ++ rest)) = false := by
        simp [List.isPrefixOf, hne]
      rw [List.cons_append, firstMatch, hmatch, if_neg Bool.false_ne_true, ih hrest,
        Option.map_map]
      congr 1
      funext i
      simp only [Function.comp_apply, List.length_cons]
      omega

theorem find_bound {needle hay : List α} {pos i : Nat} (h : find needle hay pos = some i) :
    pos ≤ i ∧ i + needle.length ≤ hay.length := by
  unfold find at h
  split_ifs at h with hpos
  obtain ⟨j, hj, rfl⟩ := Option.map_eq_some_iff.mp h
  have := firstMatch_bound hj
  rw [List.length_drop] at this
  omega

/-- In what has been read so far of `front ++ needle ++ rest`, the word is
found as soon as it is complete, and behind `front`. -/
theorem find_eq_ite {a : α} {needle front rest hay : List α} {pos : Nat}
    (hpos : pos ≤ hay.length) (hfront : a ∉ front)
    (hread : hay.drop pos <+: front ++ a :: needle ++ rest) :
    find (a :: needle) hay pos =
      if pos + front.length + (a :: needle).length ≤ hay.length then
        some (pos + front.length)
      else none := by
  rw [find, if_pos hpos]
  have hlength : (hay.drop pos).length = hay.length - pos := List.length_drop
  split_ifs with hcomplete
  · have hwhole : front ++ a :: needle <+: hay.drop pos := by
      apply List.prefix_of_prefix_length_le (List.prefix_append _ _) hread
      simp only [List.length_append, hlength]
      omega
    obtain ⟨tail, htail⟩ := hwhole
    rw [← htail, List.append_assoc, firstMatch_front hfront,
      firstMatch_append_right]
    simp
  · have hshort : hay.drop pos <+: front ++ a :: needle := by
      apply List.prefix_of_prefix_length_le hread (List.prefix_append _ _)
      simp only [List.length_append, hlength]
      omega
    obtain ⟨tail, htail⟩ := hshort
    have hnone : firstMatch (a :: needle) (hay.drop pos) = none := by
      rcases List.append_eq_append_iff.mp htail with ⟨front', hfront', -⟩ |
        ⟨word, hword, hneedle⟩
      · have hmem : a ∉ hay.drop pos := by
          intro hmem
          exact hfront (hfront' ▸ List.mem_append_left _ hmem)
        rw [← List.append_nil (hay.drop pos), firstMatch_front hmem]
        rfl
      · rw [hword, firstMatch_front hfront, firstMatch_eq_none_of_length_lt]
        · rfl
        · have := congrArg List.length hword
          simp only [List.length_append] at this
          omega
    rw [hnone]
    rfl

theorem find_behind {a : α} {needle read : List α} (consumed front rest : List α)
    (hconsumed : consumed.length ≤ read.length) (hfront : a ∉ front)
    (hread : read <+: consumed ++ (front ++ a :: needle ++ rest)) :
    find (a :: needle) read consumed.length =
      if consumed.length + front.length + (a :: needle).length ≤ read.length then
        some (consumed.length + front.length)
      else none := by
  have htail : read.drop consumed.length <+: front ++ a :: needle ++ rest := by
    simpa using hread.drop consumed.length
  exact find_eq_ite hconsumed hfront htail

def findLast (a : α) : List α → Option Nat
  | [] => none
  | x :: rest =>
      match findLast a rest with
      | some i => some (i + 1)
      | none => if x = a then some 0 else none

theorem findLast_eq_none {a : α} {hay : List α} (h : a ∉ hay) : findLast a hay = none := by
  induction hay with
  | nil => rfl
  | cons x rest ih =>
      have hrest : a ∉ rest := fun hmem => h (List.mem_cons_of_mem x hmem)
      have hne : x ≠ a := fun heq => h (heq ▸ List.mem_cons_self)
      rw [findLast, ih hrest]
      exact if_neg hne

theorem findLast_split {a : α} (front : List α) {back : List α} (h : a ∉ back) :
    findLast a (front ++ a :: back) = some front.length := by
  induction front with
  | nil => simp [findLast, findLast_eq_none h]
  | cons x front ih => simp [findLast, ih]

theorem exists_last {β : Type*} {a : β} {hay : List β} (h : a ∈ hay) :
    ∃ front back, hay = front ++ a :: back ∧ a ∉ back := by
  obtain ⟨back, front, hsplit, hback⟩ := List.eq_append_cons_of_mem (List.mem_reverse.mpr h)
  refine ⟨front.reverse, back.reverse, ?_, fun hmem => hback (List.mem_reverse.mp hmem)⟩
  rw [← List.reverse_reverse hay, hsplit]
  simp

end XeusZmq.Search
