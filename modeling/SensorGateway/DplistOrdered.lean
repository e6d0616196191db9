/-
This file is about sorted insertion with a comparison callback that is an order.

The walk stops behind the elements that the new one exceeds, so that the new node goes
where the order wants it. One place is missed: a new element that is equal to the first
one of several stops the walk at the head, does not come before it, and is put in front
of it as if there were a node before, which follows NULL. Every other insertion is right,
and so is every sequence of insertions into an empty list in which no element ties with
the least of those before it.

Elements that each come before all earlier ones go to the front one after the other,
also when the comparison is no order.
-/

import SensorGateway.Library.Comparison
import SensorGateway.DplistSorted

namespace SensorGateway

open Comparison

/-! ### The insertion into a list -/

section Entries

variable {Entry : Type} {compare : Entry → Entry → Int} {entry pt : Entry}
  {list front back longer : List Entry}

/-- An insertion fails where the walk stops at the head of a longer list, at an equal element. -/
theorem insertAtStop_eq_none_iff {after : Entry → Int} (stops : StopsAt after list front pt back) :
    insertAtStop after entry true front pt back = none ↔
      front = [] ∧ back ≠ [] ∧ after pt = 0 := by
  have stopped := stops.stopped
  unfold insertAtStop
  split_ifs with last first less
  · exact iff_of_false id fun ⟨_, more, _⟩ => more last.1
  · exact iff_of_false id fun ⟨_, _, equal⟩ => Int.ne_of_lt less equal
  · have more : back ≠ [] := fun alone => last ⟨alone, Int.not_lt.mp less⟩
    exact iff_of_true rfl
      ⟨first.1, more, Int.le_antisymm (Int.not_lt.mp (stopped more)) (Int.not_lt.mp less)⟩
  · exact iff_of_false id fun ⟨head, _⟩ => first ⟨head, rfl⟩

section Order

variable (order : IsOrder compare) (sorted : Sorted compare list)
include order sorted

/-- An insertion keeps a list sorted. -/
theorem dplInsertSorted_sorted (inserted : dplInsertSorted compare list entry = some longer) :
    Sorted compare longer := by
  by_cases empty : list = []
  · subst empty
    rw [← Option.some.inj inserted]
    exact List.pairwise_singleton _ _
  · obtain ⟨front, pt, back, stops⟩ := exists_stopsAt (compare entry) empty
    rw [dplInsertSorted, dplInsertFrom_stop stops] at inserted
    obtain ⟨rfl, passed, stopped⟩ := stops
    have passedAll : ∀ other ∈ front, 0 ≤ compare entry other :=
      fun other member => Int.le_of_lt (passed other member)
    have sortedBack : Sorted compare (pt :: back) := (List.pairwise_append.mp sorted).2.1
    have ahead (below : compare entry pt ≤ 0) : Sorted compare (front ++ entry :: pt :: back) :=
      sorted.insert order passedAll (sortedBack.le_all order below)
    unfold insertAtStop at inserted
    split_ifs at inserted with last first less
    · -- The new element is behind the last one.
      rw [← Option.some.inj inserted]
      obtain ⟨rfl, reached⟩ := last
      have extended : Sorted compare ((front ++ [pt]) ++ entry :: []) := by
        refine Sorted.insert order (by rwa [List.append_nil]) ?_ (by simp)
        intro other member
        rcases List.mem_append.mp member with inFront | atEnd
        · exact passedAll other inFront
        · rwa [List.mem_singleton.mp atEnd]
      rwa [List.append_assoc] at extended
    · rw [← Option.some.inj inserted]
      have before := ahead (Int.le_of_lt less)
      rwa [first.1] at before
    · rw [← Option.some.inj inserted]
      by_cases alone : back = []
      · exact ahead (Int.le_of_lt (Int.not_le.mp fun reached => last ⟨alone, reached⟩))
      · exact ahead (Int.not_lt.mp (stopped alone))

/-- An insertion fails exactly when the new element ties with the least of two or more. -/
theorem dplInsertSorted_eq_none_iff :
    dplInsertSorted compare list entry = none ↔
      2 ≤ list.length ∧ TiesWithLeast compare list entry := by
  by_cases empty : list = []
  · subst empty
    refine iff_of_false (by simp [dplInsertSorted, dplInsertFrom]) (by simp)
  · obtain ⟨front, pt, back, stops⟩ := exists_stopsAt (compare entry) empty
    rw [dplInsertSorted, dplInsertFrom_stop stops, insertAtStop_eq_none_iff stops]
    obtain ⟨rfl, passed, stopped⟩ := stops
    cases front with
    | nil =>
      have several : 2 ≤ ([] ++ pt :: back).length ↔ back ≠ [] := by
        rw [List.nil_append, List.length_cons, ← List.length_pos_iff]
        omega
      rw [several, List.nil_append, Sorted.tiesWithLeast_iff order sorted]
      simp
    | cons first rest =>
      refine iff_of_false (fun failed => List.cons_ne_nil _ _ failed.1) fun failed => ?_
      exact absurd (passed first List.mem_cons_self)
        (Int.not_lt.mpr (failed.2.2 first List.mem_cons_self))

end Order

end Entries

/-! ### One insertion -/

section Insertions

variable {World Element : Type} {callbacks : Callbacks World Element}
  {compare : Element → Element → Int}

/-- An insertion puts one new node into the list, with the element or the copy that is asked for,
and the list is sorted afterwards. -/
def InsertsSorted (callbacks : Callbacks World Element) (compare : Element → Element → Int)
    (list : Dplist World Element) (contents : List (Address × Element)) (element : Element)
    (insertCopy : Bool) : Prop :=
  ∃ after newNode inserted longer, list.insertSorted callbacks element insertCopy = some after ∧
    Dplist.copyIf callbacks list.world element insertCopy = some (inserted, after.world) ∧
    newNode ∉ contents.map Prod.fst ∧ after.Represents longer ∧
    longer.Perm ((newNode, inserted) :: contents) ∧ Sorted compare (longer.map Prod.snd)

/-- A new element is equal to the least of two or more others. -/
def TiesAtHead (compare : Element → Element → Int) (earlier : List Element)
    (new : Element) : Prop :=
  2 ≤ earlier.length ∧ TiesWithLeast compare earlier new

instance (earlier : List Element) (new : Element) : Decidable (TiesAtHead compare earlier new) :=
  inferInstanceAs (Decidable (_ ∧ _))

section Insertion

variable {list : Dplist World Element} {contents : List (Address × Element)}
  {element inserted : Element} {insertCopy : Bool} {world : World}
  (order : IsOrder compare) (represents : list.Represents contents)
  (sorted : Sorted compare (contents.map Prod.snd))
  (copied : Dplist.copyIf callbacks list.world element insertCopy = some (inserted, world))
  (compares : ComparesTo callbacks world compare inserted contents)
include order represents sorted copied compares

/-- What an insertion into the nodes does, by what it does to the list of the entries. -/
theorem insertSorted_ordered :
    (TiesAtHead compare (contents.map Prod.snd) inserted →
      list.insertSorted callbacks element insertCopy = none) ∧
    (¬TiesAtHead compare (contents.map Prod.snd) inserted →
      ∃ after longer, list.insertSorted callbacks element insertCopy = some after ∧
        after.world = world ∧ after.Represents longer ∧
        longer.Perm ((list.nodes.bound, inserted) :: contents) ∧
        Sorted compare (longer.map Prod.snd)) := by
  obtain ⟨runs, stuck⟩ := insertSorted_refines represents copied compares
  have orderEntries : IsOrder fun first second : Address × Element =>
      compare first.2 second.2 := order.comap Prod.snd
  have sortedEntries : Sorted (fun first second => compare first.2 second.2) contents :=
    List.pairwise_map.mp sorted
  have ties : TiesAtHead compare (contents.map Prod.snd) inserted ↔
      dplInsertSorted (fun first second => compare first.2 second.2) contents
        (list.nodes.bound, inserted) = none := by
    rw [dplInsertSorted_eq_none_iff orderEntries sortedEntries]
    unfold TiesAtHead TiesWithLeast
    simp only [List.length_map, List.mem_map, exists_exists_and_eq_and, forall_exists_index,
      and_imp, forall_apply_eq_imp_iff₂]
  refine ⟨fun tie => stuck (ties.mp tie), fun noTie => ?_⟩
  obtain ⟨longer, done⟩ := Option.ne_none_iff_exists'.mp (mt ties.mpr noTie)
  obtain ⟨after, ran, afterWorld, holds⟩ := runs longer done
  have stillSorted := dplInsertSorted_sorted orderEntries sortedEntries done
  exact ⟨after, longer, ran, afterWorld, holds, dplInsertSorted_perm done,
    List.pairwise_map.mpr stillSorted⟩

theorem insertsSorted_iff :
    InsertsSorted callbacks compare list contents element insertCopy ↔
      ¬TiesAtHead compare (contents.map Prod.snd) inserted := by
  obtain ⟨stuck, runs⟩ := insertSorted_ordered order represents sorted copied compares
  constructor
  · rintro ⟨after, -, -, -, ran, -⟩ tie
    exact Option.some_ne_none after (ran.symm.trans (stuck tie))
  · intro noTie
    obtain ⟨after, longer, ran, afterWorld, holds, perm, stillSorted⟩ := runs noTie
    have fresh := (represents.malloc { prev := none, next := none, element := inserted }).2
    exact ⟨after, _, inserted, longer, ran, by rw [copied, afterWorld], fresh, holds, perm,
      stillSorted⟩

end Insertion

/-! ### Many insertions -/

/-- A sequence of insertions, each with its element and whether to copy it. -/
def Dplist.insertAllSorted (callbacks : Callbacks World Element) :
    Dplist World Element → List (Element × Bool) → Option (Dplist World Element)
  | list, [] => some list
  | list, (element, insertCopy) :: calls => do
    let list ← list.insertSorted callbacks element insertCopy
    insertAllSorted callbacks list calls

/-- A sequence of insertions into a list with the elements `earlier` inserts the listed elements:
each call makes the copy it is asked for, and comparing it with the elements before only reads. -/
inductive Supplies (callbacks : Callbacks World Element) (compare : Element → Element → Int) :
    World → List Element → List (Element × Bool) → List Element → World → Prop
  | done (world : World) (earlier : List Element) :
      Supplies callbacks compare world earlier [] [] world
  | next {world between later : World} {earlier elements : List Element}
      {element inserted : Element} {insertCopy : Bool} {calls : List (Element × Bool)}
      (copied : Dplist.copyIf callbacks world element insertCopy = some (inserted, between))
      (compares : ∀ other ∈ earlier, callbacks.elementCompare between inserted other =
        some (compare inserted other, between))
      (rest : Supplies callbacks compare between (inserted :: earlier) calls elements later) :
      Supplies callbacks compare world earlier ((element, insertCopy) :: calls)
        (inserted :: elements) later

/-- A sequence of insertions leaves a sorted list with the given elements. -/
def SortsInto (callbacks : Callbacks World Element) (compare : Element → Element → Int)
    (list : Dplist World Element) (calls : List (Element × Bool)) (elements : List Element)
    (later : World) : Prop :=
  ∃ after longer, list.insertAllSorted callbacks calls = some after ∧ after.world = later ∧
    after.Represents longer ∧ (longer.map Prod.snd).Perm elements ∧
    Sorted compare (longer.map Prod.snd)

/-- No element is equal to the least of those before it, once these are two or more. -/
def NeverTies (compare : Element → Element → Int) : List Element → List Element → Prop
  | _, [] => True
  | earlier, new :: rest =>
    ¬TiesAtHead compare earlier new ∧ NeverTies compare (new :: earlier) rest

instance decidableNeverTies : (earlier elements : List Element) →
    Decidable (NeverTies compare earlier elements)
  | _, [] => .isTrue trivial
  | earlier, new :: rest =>
    @instDecidableAnd _ _ inferInstance (decidableNeverTies (new :: earlier) rest)

/-- A sequence of insertions sorts the elements exactly when none ties at the head. -/
theorem sortsInto_iff (order : IsOrder compare) {list : Dplist World Element}
    {contents : List (Address × Element)} {earlier elements : List Element}
    {calls : List (Element × Bool)} {later : World} (represents : list.Represents contents)
    (sorted : Sorted compare (contents.map Prod.snd)) (holds : (contents.map Prod.snd).Perm earlier)
    (supplies : Supplies callbacks compare list.world earlier calls elements later) :
    SortsInto callbacks compare list calls (elements ++ earlier) later ↔
      NeverTies compare earlier elements := by
  generalize start : list.world = world at supplies
  induction supplies generalizing list contents with
  | done world earlier =>
    exact iff_of_true ⟨list, contents, rfl, start, represents, holds, sorted⟩ trivial
  | @next world between later earlier elements element inserted insertCopy calls copied compares
      _ inductionHypothesis =>
    subst start
    have comparesTo : ComparesTo callbacks between compare inserted contents := fun entry member =>
      compares entry.2 (holds.mem_iff.mp (List.mem_map_of_mem member))
    obtain ⟨stuck, runs⟩ := insertSorted_ordered order represents sorted copied comparesTo
    have ties : TiesAtHead compare (contents.map Prod.snd) inserted ↔
        TiesAtHead compare earlier inserted :=
      and_congr (by rw [holds.length_eq]) (tiesWithLeast_perm holds)
    by_cases tie : TiesAtHead compare earlier inserted
    · refine iff_of_false ?_ fun never => never.1 tie
      rintro ⟨after, longer, ran, -⟩
      rw [Dplist.insertAllSorted, stuck (ties.mpr tie)] at ran
      cases ran
    · obtain ⟨after, longer, ran, afterWorld, afterHolds, perm, stillSorted⟩ :=
        runs (mt ties.mp tie)
      have more : (longer.map Prod.snd).Perm (inserted :: earlier) :=
        (perm.map Prod.snd).trans (holds.cons inserted)
      have rest := inductionHypothesis afterHolds stillSorted more afterWorld
      have onward : SortsInto callbacks compare list ((element, insertCopy) :: calls)
          (inserted :: elements ++ earlier) later ↔
          SortsInto callbacks compare after calls (elements ++ inserted :: earlier) later := by
        have middle : (elements ++ inserted :: earlier).Perm (inserted :: elements ++ earlier) :=
          List.perm_middle
        unfold SortsInto
        rw [Dplist.insertAllSorted, ran]
        simp only [Option.bind_eq_bind, Option.bind_some, middle.congr_right]
      rw [onward, rest, NeverTies, and_iff_right tie]

/-- Whatever the comparison is: elements that each come before all earlier ones end up in front, the
last one first. -/
theorem insertAllSorted_front {list : Dplist World Element} {contents : List (Address × Element)}
    {elements : List Element} {calls : List (Element × Bool)} {later : World}
    (represents : list.Represents contents)
    (supplies : Supplies callbacks compare list.world (contents.map Prod.snd) calls elements later)
    (before : (elements.reverse ++ contents.map Prod.snd).Pairwise fun new other =>
      compare new other < 0) :
    ∃ after longer, list.insertAllSorted callbacks calls = some after ∧ after.world = later ∧
      after.Represents longer ∧
      longer.map Prod.snd = elements.reverse ++ contents.map Prod.snd := by
  generalize start : list.world = world at supplies
  generalize held : contents.map Prod.snd = earlier at supplies
  induction supplies generalizing list contents with
  | done world earlier => exact ⟨list, contents, rfl, start, represents, held⟩
  | @next world between later earlier elements element inserted insertCopy calls copied compares
      _ inductionHypothesis =>
    subst start held
    rw [List.reverse_cons, List.append_assoc, List.singleton_append] at before
    have first := List.pairwise_cons.mp (List.pairwise_append.mp before).2.1
    have least : ∀ entry ∈ contents, compare inserted entry.2 < 0 := fun entry member =>
      first.1 entry.2 (List.mem_map_of_mem member)
    obtain ⟨after, ran, afterWorld, holds⟩ := (insertSorted_refines represents copied
      fun entry member => compares entry.2 (List.mem_map_of_mem member)).1 _
        (dplInsertSorted_of_neg least)
    obtain ⟨last, longer, ranAll, lastWorld, lastHolds, order⟩ :=
      inductionHypothesis holds before afterWorld rfl
    refine ⟨last, longer, ?_, lastWorld, lastHolds, ?_⟩
    · rw [Dplist.insertAllSorted, ran]
      exact ranAll
    · rw [order, List.reverse_cons, List.append_assoc, List.singleton_append]

/-- With a comparison by an order, an insertion into a sorted list is right exactly when the new
element does not tie at its head, and a sequence of insertions into an empty list exactly when none
does. -/
theorem insert_sorted_iff (order : IsOrder compare) :
    (∀ (list : Dplist World Element) (contents : List (Address × Element))
        (element inserted : Element) (insertCopy : Bool) (world : World),
      list.Represents contents → Sorted compare (contents.map Prod.snd) →
      Dplist.copyIf callbacks list.world element insertCopy = some (inserted, world) →
      ComparesTo callbacks world compare inserted contents →
      (InsertsSorted callbacks compare list contents element insertCopy ↔
        ¬TiesAtHead compare (contents.map Prod.snd) inserted)) ∧
    ∀ (world later : World) (calls : List (Element × Bool)) (elements : List Element),
      Supplies callbacks compare world [] calls elements later →
      (SortsInto callbacks compare (Dplist.create world) calls elements later ↔
        NeverTies compare [] elements) := by
  refine ⟨fun list contents element inserted insertCopy world represents sorted copied compares =>
    insertsSorted_iff order represents sorted copied compares, ?_⟩
  intro world later calls elements supplies
  have run := sortsInto_iff order (create_represents world) List.Pairwise.nil (List.Perm.refl [])
    supplies
  rwa [List.append_nil] at run

/-- Numbers are inserted without a copy, or with one that is the same. -/
theorem supplies_numbers (earlier : List Int) (calls : List (Int × Bool)) :
    Supplies numberCallbacks (· - ·) () earlier calls (calls.map Prod.fst) () := by
  induction calls generalizing earlier with
  | nil => exact .done () earlier
  | cons call rest inductionHypothesis =>
    obtain ⟨element, insertCopy⟩ := call
    refine .next ?_ (fun _ _ => rfl) (inductionHypothesis (element :: earlier))
    cases insertCopy <;> rfl

theorem insert_sorted_numbers :
    (∃ list : Dplist Unit Int, list.Represents [(0, 5), (1, 7)] ∧
      InsertsSorted numberCallbacks (· - ·) list [(0, 5), (1, 7)] 7 true) ∧
    SortsInto numberCallbacks (· - ·) (Dplist.create ()) [(7, true), (5, false), (7, false)]
      [7, 5, 7] () := by
  obtain ⟨single, run⟩ := @insert_sorted_iff _ _ numberCallbacks _ isOrder_sub
  obtain ⟨list, -, represents⟩ := exists_twoNumbers
  have sorted : Sorted (fun first second : Int => first - second) [5, 7] := by
    simp [Sorted]
  refine ⟨⟨list, represents, ?_⟩, ?_⟩
  · refine (single list _ 7 7 true list.world represents sorted rfl
      (compares_numbers _ _ _)).mpr ?_
    decide
  · refine (run () () _ [7, 5, 7] (supplies_numbers [] _)).mpr ?_
    decide

/-- A second element equal to the first of two follows NULL. -/
theorem tie_at_head_follows_null :
    IsOrder (fun first second : Int => first - second) ∧
    ∃ list : Dplist Unit Int, list.Represents [(0, 5), (1, 7)] ∧
      Sorted (fun first second : Int => first - second) [5, 7] ∧
      list.insertSorted numberCallbacks 5 false = none ∧
      ¬InsertsSorted numberCallbacks (· - ·) list [(0, 5), (1, 7)] 5 false := by
  obtain ⟨list, -, represents⟩ := exists_twoNumbers
  have sorted : Sorted (fun first second : Int => first - second) [5, 7] := by
    simp [Sorted]
  have stuck : list.insertSorted numberCallbacks 5 false = none :=
    (insertSorted_ordered isOrder_sub represents sorted rfl (compares_numbers _ _ _)).1 (by decide)
  refine ⟨isOrder_sub, list, represents, sorted, stuck, ?_⟩
  rintro ⟨after, -, -, -, ran, -⟩
  exact Option.some_ne_none after (ran.symm.trans stuck)

end Insertions

end SensorGateway
