/-
This file is a small library on tables: lists of records that are found by a key. A
record is referred to by its position; a search returns the first position that holds
the key. The lemmas say how the list of keys and the search change when a record is
overwritten under its key, inserted, or taken out, and when two tables have the same
keys.
-/

import Mathlib.Data.List.Perm.Subperm
import Mathlib.Data.List.Nodup

namespace SensorGateway.Table

variable {Record Key : Type}

section Search

variable [DecidableEq Key] (key : Record → Key)

/-- The position of the first record with a key. -/
def position (table : List Record) (wanted : Key) : Option Nat :=
  table.findIdx? fun record => key record = wanted

/-- The first record with a key. -/
def lookup (table : List Record) (wanted : Key) : Option Record :=
  table.find? fun record => key record = wanted

variable {key} {table : List Record} {record : Record} {wanted : Key} {index : Nat}

/-! ### Searching -/

theorem lookup_cons (head : Record) (rest : List Record) (wanted : Key) :
    lookup key (head :: rest) wanted =
      if key head = wanted then some head else lookup key rest wanted := by
  unfold lookup
  by_cases same : key head = wanted
  · rw [List.find?_cons_of_pos (by simpa using same), if_pos same]
  · rw [List.find?_cons_of_neg (by simpa using same), if_neg same]

theorem key_of_lookup (found : lookup key table wanted = some record) : key record = wanted := by
  simpa using List.find?_some found

theorem mem_of_lookup (found : lookup key table wanted = some record) : record ∈ table :=
  List.mem_of_find?_eq_some found

theorem lookup_eq_none_iff : lookup key table wanted = none ↔ wanted ∉ table.map key := by
  simp [lookup]

/-- The position found holds the record found. -/
theorem getElem?_position (found : position key table wanted = some index) :
    table[index]? = lookup key table wanted := by
  induction table generalizing index with
  | nil => exact absurd found (by simp [position])
  | cons head rest inductionHypothesis =>
    rw [lookup_cons]
    by_cases same : key head = wanted
    · have first : index = 0 := by simpa [position, List.findIdx?_cons, same] using found.symm
      rw [first, if_pos same, List.getElem?_cons_zero]
    · rw [if_neg same]
      unfold position at found
      rw [List.findIdx?_cons, if_neg (by simpa using same)] at found
      obtain ⟨previous, foundRest, rfl⟩ := Option.map_eq_some_iff.mp found
      rw [List.getElem?_cons_succ]
      exact inductionHypothesis foundRest

theorem position_eq_none_iff : position key table wanted = none ↔ wanted ∉ table.map key := by
  simp [position]

theorem lookup_of_position_none (missing : position key table wanted = none) :
    lookup key table wanted = none :=
  lookup_eq_none_iff.mpr (position_eq_none_iff.mp missing)

/-- With distinct keys, a record is found under its key. -/
theorem lookup_of_mem (distinct : (table.map key).Nodup) (member : record ∈ table) :
    lookup key table (key record) = some record := by
  induction table with
  | nil => exact absurd member List.not_mem_nil
  | cons head rest inductionHypothesis =>
    rw [List.map_cons, List.nodup_cons] at distinct
    rw [lookup_cons]
    rcases List.mem_cons.mp member with rfl | tail
    · rw [if_pos rfl]
    · have different : key head ≠ key record := fun same =>
        distinct.1 (same ▸ List.mem_map_of_mem tail)
      rw [if_neg different]
      exact inductionHypothesis distinct.2 tail

/-- With distinct keys, the search does not depend on the order of the records. -/
theorem lookup_eq_of_perm {other : List Record} (distinct : (table.map key).Nodup)
    (same : table.Perm other) (wanted : Key) :
    lookup key table wanted = lookup key other wanted := by
  have distinctOther : (other.map key).Nodup := (same.map key).nodup_iff.mp distinct
  cases found : lookup key other wanted with
  | none =>
    have missing := lookup_eq_none_iff.mp found
    exact lookup_eq_none_iff.mpr fun member => missing ((same.map key).mem_iff.mp member)
  | some record =>
    rw [← key_of_lookup found]
    exact lookup_of_mem distinct (same.mem_iff.mpr (mem_of_lookup found))

/-! ### Overwriting a record under its key -/

/-- The search for another key does not see the record that was overwritten. -/
theorem lookup_set_of_ne {old : Record} (holds : table[index]? = some old)
    (sameKey : key record = key old) (other : key old ≠ wanted) :
    lookup key (table.set index record) wanted = lookup key table wanted := by
  induction table generalizing index with
  | nil => rfl
  | cons head rest inductionHypothesis =>
    cases index with
    | zero =>
      rw [List.getElem?_cons_zero, Option.some.injEq] at holds
      rw [List.set_cons_zero, lookup_cons, lookup_cons, sameKey, if_neg other, holds,
        if_neg other]
    | succ index =>
      rw [List.set_cons_succ, lookup_cons, lookup_cons,
        inductionHypothesis (by simpa using holds)]

/-- The search for its key finds what was written at the position found. -/
theorem lookup_set_position (found : position key table wanted = some index)
    (same : key record = wanted) :
    lookup key (table.set index record) wanted = some record := by
  induction table generalizing index with
  | nil => exact absurd found (by simp [position])
  | cons head rest inductionHypothesis =>
    by_cases first : key head = wanted
    · have zero : index = 0 := by simpa [position, List.findIdx?_cons, first] using found.symm
      rw [zero, List.set_cons_zero, lookup_cons, if_pos same]
    · unfold position at found
      rw [List.findIdx?_cons, if_neg (by simpa using first)] at found
      obtain ⟨previous, foundRest, rfl⟩ := Option.map_eq_some_iff.mp found
      rw [List.set_cons_succ, lookup_cons, if_neg first]
      exact inductionHypothesis foundRest

/-! ### Taking a record out -/

/-- The search for another key does not see the record that was taken out. -/
theorem lookup_eraseIdx_of_ne (holds : table[index]? = some record)
    (other : key record ≠ wanted) :
    lookup key (table.eraseIdx index) wanted = lookup key table wanted := by
  induction table generalizing index with
  | nil => rfl
  | cons head rest inductionHypothesis =>
    cases index with
    | zero =>
      rw [List.getElem?_cons_zero, Option.some.injEq] at holds
      rw [List.eraseIdx_cons_zero, lookup_cons, holds, if_neg other]
    | succ index =>
      rw [List.eraseIdx_cons_succ, lookup_cons, lookup_cons,
        inductionHypothesis (by simpa using holds)]

end Search

section Keys

variable {key : Record → Key} {table : List Record} {record : Record} {wanted : Key} {index : Nat}

/-- Overwriting a record by one with its key leaves the list of keys as it was. -/
theorem map_set_of_key_eq {old : Record} (holds : table[index]? = some old)
    (same : key record = key old) : (table.set index record).map key = table.map key := by
  induction table generalizing index with
  | nil => rfl
  | cons head rest inductionHypothesis =>
    cases index with
    | zero =>
      rw [List.getElem?_cons_zero, Option.some.injEq] at holds
      rw [List.set_cons_zero, List.map_cons, List.map_cons, same, holds]
    | succ index =>
      rw [List.set_cons_succ, List.map_cons, List.map_cons,
        inductionHypothesis (by simpa using holds)]

theorem eraseIdx_perm (holds : table[index]? = some record) :
    table.Perm (record :: table.eraseIdx index) := by
  induction table generalizing index with
  | nil => exact absurd holds (by simp)
  | cons head rest inductionHypothesis =>
    cases index with
    | zero =>
      rw [List.getElem?_cons_zero, Option.some.injEq] at holds
      rw [holds, List.eraseIdx_cons_zero]
    | succ index =>
      rw [List.eraseIdx_cons_succ]
      exact ((inductionHypothesis (by simpa using holds)).cons head).trans (.swap _ _ _)

/-! ### Two tables of the same keys -/

/-- Each table has distinct keys, and the keys of the first are keys of the second. -/
structure Covered (first second : List Key) : Prop where
  distinct : first.Nodup
  distinctSecond : second.Nodup
  subset : first ⊆ second

/-- The keys of the first table are distinct and are the keys of the second. -/
structure Agree (first second : List Key) : Prop where
  distinct : first.Nodup
  same : first.Perm second

theorem covered_nil : Covered ([] : List Key) [] :=
  ⟨List.nodup_nil, List.nodup_nil, List.Subset.refl _⟩

variable {first second : List Key}

/-- Tables of the same length agree when one covers the other. -/
theorem Covered.agree_iff (covered : Covered first second) :
    Agree first second ↔ first.length = second.length := by
  constructor
  · exact fun agree => agree.same.length_eq
  · intro same
    have subperm := List.subperm_of_subset covered.distinct covered.subset
    exact ⟨covered.distinct, subperm.perm_of_length_le (Nat.le_of_eq same.symm)⟩

/-- A new key goes into both tables. -/
theorem Covered.add (covered : Covered first second) {larger : List Key}
    (new : wanted ∉ second) (added : larger.Perm (wanted :: second)) :
    Covered (first ++ [wanted]) larger where
  distinct := by
    have fresh : wanted ∉ first := fun member => new (covered.subset member)
    exact (List.perm_append_singleton wanted first).nodup_iff.mpr
      (List.nodup_cons.mpr ⟨fresh, covered.distinct⟩)
  distinctSecond := added.nodup_iff.mpr (List.nodup_cons.mpr ⟨new, covered.distinctSecond⟩)
  subset := by
    intro other member
    refine added.mem_iff.mpr ?_
    rcases List.mem_append.mp member with old | last
    · exact List.mem_cons_of_mem _ (covered.subset old)
    · rw [List.mem_singleton.mp last]
      exact List.mem_cons_self

/-- A key leaves the first table. -/
theorem Covered.forget (covered : Covered first second) {smaller : List Key}
    (removed : first.Perm (wanted :: smaller)) : Covered smaller second where
  distinct := (List.nodup_cons.mp (removed.nodup_iff.mp covered.distinct)).2
  distinctSecond := covered.distinctSecond
  subset _ member := covered.subset (removed.mem_iff.mpr (List.mem_cons_of_mem _ member))

/-- A key leaves both tables. -/
theorem Covered.remove (covered : Covered first second) {smaller least : List Key}
    (removed : first.Perm (wanted :: smaller)) (removedSecond : second.Perm (wanted :: least)) :
    Covered smaller least where
  distinct := (covered.forget removed).distinct
  distinctSecond :=
    (List.nodup_cons.mp (removedSecond.nodup_iff.mp covered.distinctSecond)).2
  subset := by
    have gone := (List.nodup_cons.mp (removed.nodup_iff.mp covered.distinct)).1
    intro other member
    rcases List.mem_cons.mp (removedSecond.mem_iff.mp ((covered.forget removed).subset member))
      with same | kept
    · exact absurd (same ▸ member) gone
    · exact kept

end Keys

end SensorGateway.Table
