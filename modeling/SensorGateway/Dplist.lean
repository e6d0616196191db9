/-
This file models the list operations of the connection manager at the level of the
elements of the list, in order: sorted insertion, the search for an element, the
element of a node and the removal of a node. A node is referred to by its position.

The comparison callback is an arbitrary function. `dpl_insert_sorted` assumes it to be
an order and follows `prev` of the head node when it is not; the model answers `none`
there.

`dpl_get_element_of_reference` and `dpl_remove_node` are not defined in the source. The
first is read as the element of the node, the second as taking the node out.
-/

import SensorGateway.Library.Table

namespace SensorGateway

variable {Element : Type}

/-- The walk of `dpl_insert_sorted` from a node `pt` on, and the insertion. The flag says
whether `pt` is the head. -/
def dplInsertFrom (elementCompare : Element → Element → Int) (element : Element) :
    Bool → List Element → Option (List Element)
  | _, [] => some [element]
  | head, [pt] =>
    if elementCompare element pt ≥ 0 then some [pt, element]
    else if head ∧ elementCompare element pt < 0 then some [element, pt]
    else if head then none
    else some [element, pt]
  | head, pt :: next :: rest =>
    if elementCompare element pt > 0 then
      (dplInsertFrom elementCompare element false (next :: rest)).map (pt :: ·)
    else if head ∧ elementCompare element pt < 0 then some (element :: pt :: next :: rest)
    else if head then none
    else some (element :: pt :: next :: rest)

/-- Insert an element in sorted order, without copying it. -/
def dplInsertSorted (elementCompare : Element → Element → Int) (list : List Element)
    (element : Element) : Option (List Element) :=
  dplInsertFrom elementCompare element true list

/-- The node of the first element that compares equal, or NULL. -/
def dplGetReferenceOfElement (elementCompare : Element → Element → Int) :
    List Element → Element → Option Nat
  | [], _ => none
  | [pt], element => if elementCompare element pt = 0 then some 0 else none
  | pt :: next :: rest, element =>
    if elementCompare element pt ≠ 0 then
      (dplGetReferenceOfElement elementCompare (next :: rest) element).map (· + 1)
    else some 0

/-- The element of a node. -/
def dplGetElementOfReference (list : List Element) (node : Nat) : Option Element := list[node]?

/-- Take a node out of the list. -/
def dplRemoveNode (list : List Element) (node : Nat) : List Element := list.eraseIdx node

/-- An insertion adds the element and keeps the others. -/
theorem dplInsertFrom_perm {elementCompare : Element → Element → Int} {element : Element}
    {head : Bool} {list longer : List Element}
    (inserted : dplInsertFrom elementCompare element head list = some longer) :
    longer.Perm (element :: list) := by
  induction list generalizing head longer with
  | nil =>
    rw [dplInsertFrom, Option.some.injEq] at inserted
    rw [inserted]
  | cons pt rest inductionHypothesis =>
    cases rest with
    | nil =>
      rw [dplInsertFrom] at inserted
      split_ifs at inserted <;> rw [Option.some.injEq] at inserted <;> rw [← inserted]
      exact List.Perm.swap _ _ _
    | cons next rest =>
      rw [dplInsertFrom] at inserted
      split_ifs at inserted
      · obtain ⟨longerRest, insertedRest, rfl⟩ := Option.map_eq_some_iff.mp inserted
        exact ((inductionHypothesis insertedRest).cons pt).trans (.swap _ _ _)
      all_goals
        rw [Option.some.injEq] at inserted
        rw [← inserted]

theorem dplInsertSorted_perm {elementCompare : Element → Element → Int} {element : Element}
    {list longer : List Element}
    (inserted : dplInsertSorted elementCompare list element = some longer) :
    longer.Perm (element :: list) := dplInsertFrom_perm inserted

/-- Insertions whose comparisons agree do the same to related lists. -/
theorem dplInsertFrom_related {Other : Type} {Related : Element → Other → Prop}
    {elementCompare : Element → Element → Int} {otherCompare : Other → Other → Int}
    {element : Element} {other : Other} (new : Related element other)
    (agree : ∀ pt otherPt, Related pt otherPt →
      elementCompare element pt = otherCompare other otherPt)
    {list : List Element} {others : List Other} (related : List.Forall₂ Related list others)
    (head : Bool) :
    Option.Rel (List.Forall₂ Related) (dplInsertFrom elementCompare element head list)
      (dplInsertFrom otherCompare other head others) := by
  induction related generalizing head with
  | nil => exact .some (.cons new .nil)
  | cons first rest inductionHypothesis =>
    have same := agree _ _ first
    cases rest with
    | nil =>
      rw [dplInsertFrom, dplInsertFrom, same]
      split_ifs
      · exact .some (.cons first (.cons new .nil))
      · exact .some (.cons new (.cons first .nil))
      · exact .none
      · exact .some (.cons new (.cons first .nil))
    | cons next rest =>
      rw [dplInsertFrom, dplInsertFrom, same]
      split_ifs
      · have tail := inductionHypothesis false
        generalize dplInsertFrom elementCompare element false _ = longer at tail ⊢
        generalize dplInsertFrom otherCompare other false _ = longerOther at tail ⊢
        cases tail with
        | some both => exact .some (.cons first both)
        | none => exact .none
      · exact .some (.cons new (.cons first (.cons next rest)))
      · exact .none
      · exact .some (.cons new (.cons first (.cons next rest)))

/-- When the comparison is 0 exactly on equal keys, the search is a search by key. -/
theorem dplGetReferenceOfElement_eq_position {Key : Type} [DecidableEq Key]
    {key : Element → Key} {elementCompare : Element → Element → Int}
    (exact_ : ∀ first second, elementCompare first second = 0 ↔ key first = key second)
    (list : List Element) (element : Element) :
    dplGetReferenceOfElement elementCompare list element =
      Table.position key list (key element) := by
  induction list with
  | nil => rfl
  | cons pt rest inductionHypothesis =>
    unfold Table.position
    rw [List.findIdx?_cons]
    by_cases same : key pt = key element
    · have zero := (exact_ element pt).mpr same.symm
      rw [if_pos (by simpa using same)]
      cases rest with
      | nil => rw [dplGetReferenceOfElement, if_pos zero]
      | cons next rest => rw [dplGetReferenceOfElement, if_neg (not_not.mpr zero)]
    · have nonzero : elementCompare element pt ≠ 0 := fun zero =>
        same ((exact_ element pt).mp zero).symm
      rw [if_neg (by simpa using same)]
      cases rest with
      | nil =>
        rw [dplGetReferenceOfElement, if_neg nonzero]
        rfl
      | cons next rest =>
        rw [dplGetReferenceOfElement, if_pos nonzero, inductionHypothesis]
        rfl

end SensorGateway
