/-
This file connects the two models of `dpl_insert_sorted`. When the comparison callback
reads the elements and changes nothing, the insertion into the nodes in memory does what
the insertion into the list of their elements does: the two stop at the same place, and
where the one has no result the other follows NULL.

The walk splits the list at the first element that is last or that the new one does not
come after. Both models are brought into the form that this split gives them.
-/

import SensorGateway.Dplist
import SensorGateway.DplistChain

namespace SensorGateway

variable {World Element Entry : Type}

/-! ### The insertion into a list -/

/-- The list is split where the walk stops. -/
structure StopsAt (after : Entry → Int) (list front : List Entry) (pt : Entry)
    (back : List Entry) : Prop where
  split : list = front ++ pt :: back
  passed : ∀ entry ∈ front, 0 < after entry
  stopped : back ≠ [] → ¬ 0 < after pt

/-- The walk stops somewhere in a list that is not empty. -/
theorem exists_stopsAt {list : List Entry} (after : Entry → Int) (nonempty : list ≠ []) :
    ∃ front pt back, StopsAt after list front pt back := by
  induction list with
  | nil => exact absurd rfl nonempty
  | cons first rest inductionHypothesis =>
    by_cases more : rest ≠ [] ∧ 0 < after first
    · obtain ⟨front, pt, back, stops⟩ := inductionHypothesis more.1
      exact ⟨first :: front, pt, back, congrArg _ stops.split,
        List.forall_mem_cons.mpr ⟨more.2, stops.passed⟩, stops.stopped⟩
    · exact ⟨[], first, rest, rfl, by simp, fun some passes => more ⟨some, passes⟩⟩

/-- What the insertion does at the place where the walk stops. -/
def insertAtStop (after : Entry → Int) (entry : Entry) (head : Bool) (front : List Entry)
    (pt : Entry) (back : List Entry) : Option (List Entry) :=
  if back = [] ∧ 0 ≤ after pt then some (front ++ [pt, entry])
  else if front = [] ∧ head then
    if after pt < 0 then some (entry :: pt :: back) else none
  else some (front ++ entry :: pt :: back)

theorem dplInsertFrom_stop {compare : Entry → Entry → Int} {entry pt : Entry} {head : Bool}
    {list front back : List Entry} (stops : StopsAt (compare entry) list front pt back) :
    dplInsertFrom compare entry head list =
      insertAtStop (compare entry) entry head front pt back := by
  obtain ⟨rfl, passed, stopped⟩ := stops
  induction front generalizing head with
  | nil =>
    rw [List.nil_append]
    unfold insertAtStop
    cases back with
    | nil =>
      rw [dplInsertFrom]
      cases head <;> simp
    | cons next rest =>
      rw [dplInsertFrom, if_neg (stopped (List.cons_ne_nil next rest))]
      cases head <;> simp
  | cons first rest inductionHypothesis =>
    have goesOn := passed first List.mem_cons_self
    have inner := @inductionHypothesis false fun other member =>
      passed other (List.mem_cons_of_mem _ member)
    obtain ⟨next, tail, same⟩ := List.exists_cons_of_ne_nil
      (List.append_ne_nil_of_right_ne_nil rest (List.cons_ne_nil pt back))
    rw [List.cons_append, same, dplInsertFrom, if_pos goesOn, ← same, inner]
    unfold insertAtStop
    by_cases last : back = [] ∧ 0 ≤ compare entry pt
    · rw [if_pos last, if_pos last]
      rfl
    · rw [if_neg last, if_neg last, if_neg (by simp), if_neg (by simp)]
      rfl

/-- An element that comes before all others goes to the front. -/
theorem dplInsertSorted_of_neg {compare : Entry → Entry → Int} {entry : Entry} {list : List Entry}
    (before : ∀ other ∈ list, compare entry other < 0) :
    dplInsertSorted compare list entry = some (entry :: list) := by
  cases list with
  | nil => rfl
  | cons pt back =>
    have less := before pt List.mem_cons_self
    have stops : StopsAt (compare entry) (pt :: back) [] pt back :=
      ⟨rfl, by simp, fun _ => Int.not_lt.mpr (Int.le_of_lt less)⟩
    rw [dplInsertSorted, dplInsertFrom_stop stops, insertAtStop,
      if_neg fun last => absurd less (Int.not_lt.mpr last.2), if_pos ⟨rfl, rfl⟩, if_pos less]

/-! ### The insertion into the nodes -/

section Nodes

variable {callbacks : Callbacks World Element} {compare : Element → Element → Int}
  {element : Element} {world : World}

/-- The comparison of an element with those of a list only reads. -/
def ComparesTo (callbacks : Callbacks World Element) (world : World)
    (compare : Element → Element → Int) (element : Element)
    (contents : List (Address × Element)) : Prop :=
  ∀ entry ∈ contents, callbacks.elementCompare world element entry.2 =
    some (compare element entry.2, world)

theorem ComparesTo.tail {entry : Address × Element} {rest : List (Address × Element)}
    (compares : ComparesTo callbacks world compare element (entry :: rest)) :
    ComparesTo callbacks world compare element rest := (List.forall_mem_cons.mp compares).2

theorem compares_numbers (world : Unit) (element : Int) (contents : List (Address × Int)) :
    ComparesTo numberCallbacks world (· - ·) element contents :=
  fun _ _ => rfl

theorem compareIf_eq {other : Element} (guard : Prop) [Decidable guard]
    (compares : callbacks.elementCompare world element other =
      some (compare element other, world)) (test : Int → Bool) :
    Dplist.compareIf callbacks guard world element other test =
      some (decide guard && test (compare element other), world) := by
  unfold Dplist.compareIf
  split_ifs with holds
  · rw [compares, decide_eq_true holds, Bool.true_and]
    rfl
  · rw [decide_eq_false holds, Bool.false_and]

/-- The walk along the nodes stops where the walk along the list does. -/
theorem sortedPlace_of_stops {nodes : Nodes Element} {before start : Pointer}
    {contents front back : List (Address × Element)} {place : Address} {found : Element}
    (chained : Chained nodes before start contents none)
    (stops : StopsAt (fun entry => compare element entry.2) contents front (place, found) back)
    (compares : ComparesTo callbacks world compare element contents)
    {fuel : Nat} (enough : contents.length ≤ fuel) :
    Dplist.sortedPlace callbacks element nodes fuel world start = some (some place, world) := by
  obtain ⟨rfl, passed, stopped⟩ := stops
  induction front generalizing before start fuel with
  | nil =>
    obtain ⟨rfl, node, live, -, rfl, tail⟩ := chained
    obtain ⟨fuel, rfl⟩ := Nat.exists_eq_add_one_of_ne_zero (Nat.ne_zero_of_lt enough)
    have last : node.next = none ↔ back = [] := tail.path.start_eq_none_iff
    rw [Dplist.sortedPlace, deref_some, live, Option.bind_eq_bind, Option.bind_some,
      compareIf_eq _ (compares _ List.mem_cons_self)]
    exact if_neg (by simpa [last] using stopped)
  | cons entry rest inductionHypothesis =>
    obtain ⟨first, other⟩ := entry
    obtain ⟨rfl, node, live, -, rfl, tail⟩ := chained
    obtain ⟨fuel, rfl⟩ := Nat.exists_eq_add_one_of_ne_zero (Nat.ne_zero_of_lt enough)
    have last : node.next ≠ none := by
      rw [Ne, tail.path.start_eq_none_iff]
      simp
    have goesOn : 0 < compare element node.element := passed _ List.mem_cons_self
    rw [Dplist.sortedPlace, deref_some, live, Option.bind_eq_bind, Option.bind_some,
      compareIf_eq _ (compares _ List.mem_cons_self)]
    refine (if_pos (by simp [last, goesOn])).trans ?_
    exact inductionHypothesis
      (fun entry member => passed entry (List.mem_cons_of_mem _ member)) tail
      compares.tail (Nat.le_of_succ_le_succ enough)

/-- An assignment to a live node runs, and no node comes or goes. -/
theorem exists_modify_live {nodes : Nodes Element} {address : Address}
    (live : (nodes.read address).isSome)
    (change : DplistNode Element → DplistNode Element) :
    ∃ after, modify nodes (some address) change = some after ∧
      ∀ other, (nodes.read other).isSome → (after.read other).isSome := by
  obtain ⟨node, found⟩ := Option.isSome_iff_exists.mp live
  obtain ⟨after, ran, -, -, reads⟩ := exists_modify found change
  refine ⟨after, ran, fun other still => ?_⟩
  rw [reads, Function.update_apply]
  split
  · rfl
  · exact still

/-- Two assignments to a live node and one to another run one after the other. -/
theorem exists_modify_both {nodes : Nodes Element} {newNode pt : Address}
    (newLive : (nodes.read newNode).isSome) (ptLive : (nodes.read pt).isSome)
    (change next other : DplistNode Element → DplistNode Element) :
    ∃ first second third, modify nodes (some newNode) change = some first ∧
      modify first (some newNode) next = some second ∧
      modify second (some pt) other = some third := by
  obtain ⟨first, ranFirst, keepsFirst⟩ := exists_modify_live newLive change
  obtain ⟨second, ranSecond, keepsSecond⟩ :=
    exists_modify_live (keepsFirst _ newLive) next
  obtain ⟨third, ranThird, -⟩ :=
    exists_modify_live (keepsSecond _ (keepsFirst _ ptLive)) other
  exact ⟨first, second, third, ranFirst, ranSecond, ranThird⟩

theorem exists_behind {nodes : Nodes Element} {newNode pt : Address}
    (newLive : (nodes.read newNode).isSome) (ptLive : (nodes.read pt).isSome) :
    ∃ first second third, setNext nodes (some newNode) none = some first ∧
      setPrev first (some newNode) (some pt) = some second ∧
      setNext second (some pt) (some newNode) = some third :=
  exists_modify_both newLive ptLive _ _ _

theorem exists_inFront {nodes : Nodes Element} {newNode pt : Address}
    (newLive : (nodes.read newNode).isSome) (ptLive : (nodes.read pt).isSome) :
    ∃ first second third, setPrev nodes (some newNode) none = some first ∧
      setNext first (some newNode) (some pt) = some second ∧
      setPrev second (some pt) (some newNode) = some third :=
  exists_modify_both newLive ptLive _ _ _

theorem exists_alone {nodes : Nodes Element} {newNode : Address} {raw : DplistNode Element}
    (live : nodes.read newNode = some raw) :
    ∃ first second, setNext nodes (some newNode) none = some first ∧
      setPrev first (some newNode) none = some second ∧
      Chained second none (some newNode) [(newNode, raw.element)] none := by
  obtain ⟨first, ranFirst, -, -, readsFirst⟩ :=
    exists_modify live fun node => { node with next := none }
  have liveFirst : first.read newNode = some { raw with next := none } := by
    rw [readsFirst, Function.update_self]
  obtain ⟨second, ranSecond, -, -, readsSecond⟩ :=
    exists_modify liveFirst fun node => { node with prev := none }
  have liveSecond : second.read newNode = some { raw with next := none, prev := none } := by
    rw [readsSecond, Function.update_self]
  exact ⟨first, second, ranFirst, ranSecond, rfl, _, liveSecond, rfl, rfl, rfl⟩

section Insertion

variable {list : Dplist World Element} {contents : List (Address × Element)}
  {source copy : Element} {insertCopy : Bool}

/-- On an empty list the new node becomes the only one. -/
theorem insertSorted_empty (represents : list.Represents [])
    (copied : Dplist.copyIf callbacks list.world source insertCopy = some (copy, world)) :
    ∃ after, list.insertSorted callbacks source insertCopy = some after ∧ after.world = world ∧
      after.Represents [(list.nodes.bound, copy)] := by
  have empty : list.head = none := represents.head_eq_none_iff.mpr rfl
  obtain ⟨first, second, ranNext, ranPrev, chained⟩ := exists_alone
    (list.nodes.read_malloc_self { prev := none, next := none, element := copy })
  refine ⟨{ head := some list.nodes.bound, nodes := second, world }, ?_, rfl, chained⟩
  unfold Dplist.insertSorted
  simp only [copied, empty, Heap.malloc_fst, if_true, ranNext, ranPrev, Option.bind_eq_bind,
    Option.bind_some]

/-- The assignments of a sorted insertion at the place where its walk stops. -/
def linkAt (list : Dplist World Element) (nodes : Nodes Element) (world : World)
    (newNode pt : Address) (last first : Bool) : Option (Dplist World Element) :=
  if last then do
    let nodes ← setNext nodes (some newNode) none
    let nodes ← setPrev nodes (some newNode) (some pt)
    let nodes ← setNext nodes (some pt) (some newNode)
    some { list with nodes, world }
  else if first then do
    let nodes ← setPrev nodes (some newNode) none
    let nodes ← setNext nodes (some newNode) (some pt)
    let nodes ← setPrev nodes (some pt) (some newNode)
    some { head := some newNode, nodes, world }
  else do
    let nodes ← Dplist.linkBefore nodes (some newNode) (some pt)
    some { list with nodes, world }

theorem insertSorted_at {front back : List (Address × Element)} {pt : Address} {found : Element}
    (represents : list.Represents contents)
    (copied : Dplist.copyIf callbacks list.world source insertCopy = some (copy, world))
    (compares : ComparesTo callbacks world compare copy contents)
    (split : contents = front ++ (pt, found) :: back)
    (stopped : Dplist.sortedPlace callbacks copy
      (list.nodes.malloc { prev := none, next := none, element := copy }).2
      (list.nodes.malloc { prev := none, next := none, element := copy }).2.bound world
      list.head = some (some pt, world)) :
    list.insertSorted callbacks source insertCopy =
      linkAt list (list.nodes.malloc { prev := none, next := none, element := copy }).2 world
        list.nodes.bound pt (decide (back = []) && decide (0 ≤ compare copy found))
        (decide (front = []) && decide (compare copy found < 0)) := by
  obtain ⟨chained, unused⟩ :=
    represents.malloc { prev := none, next := none, element := copy }
  have nonempty : list.head ≠ none := by
    rw [Ne, represents.head_eq_none_iff, split]
    simp
  subst split
  obtain ⟨node, live, -, rfl, tail⟩ := chained.read
  have last : node.next = none ↔ back = [] := tail.path.start_eq_none_iff
  have compared := compares (pt, node.element) (by simp)
  have first : some pt = list.head ↔ front = [] := by
    refine ⟨fun same => ?_, fun none => ?_⟩
    · by_contra later
      exact represents.head_ne later same
    · rw [represents.head, none]
      rfl
  unfold Dplist.insertSorted linkAt
  simp only [copied, nonempty, if_false, Heap.malloc_fst, stopped, deref_some, live,
    compareIf_eq _ compared, Option.bind_eq_bind, Option.bind_some, last, first]

/-- The assignments at the place where the walk stops do to the nodes what the insertion there does
to the list. -/
theorem linkAt_refines {front back : List (Address × Element)} {pt : Address} {found : Element}
    {nodes : Nodes Element} {newNode : Address}
    (chained : Chained nodes none list.head (front ++ (pt, found) :: back) none)
    (unused : newNode ∉ (front ++ (pt, found) :: back).map Prod.fst)
    (live : nodes.read newNode = some { prev := none, next := none, element := copy })
    (after : Address × Element → Int) :
    (∀ longer, insertAtStop after (newNode, copy) true front (pt, found) back = some longer →
      ∃ later, linkAt list nodes world newNode pt
          (decide (back = []) && decide (0 ≤ after (pt, found)))
          (decide (front = []) && decide (after (pt, found) < 0)) = some later ∧
        later.world = world ∧ later.Represents longer) ∧
    (insertAtStop after (newNode, copy) true front (pt, found) back = none →
      linkAt list nodes world newNode pt
          (decide (back = []) && decide (0 ≤ after (pt, found)))
          (decide (front = []) && decide (after (pt, found) < 0)) = none) := by
  obtain ⟨node, ptLive, -⟩ := chained.read
  have newIsLive : (nodes.read newNode).isSome := Option.isSome_iff_exists.mpr ⟨_, live⟩
  have ptIsLive : (nodes.read pt).isSome := Option.isSome_iff_exists.mpr ⟨_, ptLive⟩
  unfold insertAtStop linkAt
  by_cases last : back = [] ∧ 0 ≤ after (pt, found)
  · rw [if_pos last, if_pos (by simpa using last)]
    refine ⟨fun longer inserted => ?_, fun nothing => by cases nothing⟩
    obtain ⟨first, second, third, ranFirst, ranSecond, ranThird⟩ :=
      exists_behind newIsLive ptIsLive
    obtain rfl := last.1
    rw [← Option.some.inj inserted]
    refine ⟨{ list with nodes := third, world }, ?_, rfl, ?_⟩
    · simp only [ranFirst, ranSecond, ranThird, Option.bind_eq_bind, Option.bind_some]
    · have linked := chained_of_behind chained unused live ranFirst ranSecond ranThird
      rwa [List.append_assoc] at linked
  · have notLast : (decide (back = []) && decide (0 ≤ after (pt, found))) = false := by
      simpa using last
    rw [if_neg last, notLast]
    simp only [Bool.false_eq_true, if_false]
    by_cases atFront : front = []
    · subst atFront
      rw [if_pos ⟨rfl, trivial⟩]
      by_cases less : after (pt, found) < 0
      · rw [if_pos less, decide_eq_true less, decide_eq_true rfl, Bool.and_self, if_pos rfl]
        refine ⟨fun longer inserted => ?_, fun nothing => by cases nothing⟩
        obtain ⟨first, second, third, ranFirst, ranSecond, ranThird⟩ :=
          exists_inFront newIsLive ptIsLive
        rw [← Option.some.inj inserted]
        refine ⟨{ head := some newNode, nodes := third, world }, ?_, rfl, ?_⟩
        · simp only [ranFirst, ranSecond, ranThird, Option.bind_eq_bind, Option.bind_some]
        · exact chained_of_front chained unused live ranFirst ranSecond ranThird
      · rw [if_neg less, decide_eq_false less, Bool.and_false, if_neg Bool.false_ne_true]
        refine ⟨fun longer inserted => (by cases inserted), fun _ => ?_⟩
        have different : newNode ≠ pt := fun same => unused (by simp [same])
        rw [linkBefore_first chained different live]
        rfl
    · rw [if_neg (fun both => atFront both.1), decide_eq_false atFront, Bool.false_and,
        if_neg Bool.false_ne_true]
      refine ⟨fun longer inserted => ?_, fun nothing => by cases nothing⟩
      obtain ⟨init, ⟨predecessor, held⟩, rfl⟩ := (List.eq_nil_or_concat' front).resolve_left atFront
      obtain ⟨linked, ran, -, relinked⟩ := linkBefore_middle chained unused live rfl
      rw [← Option.some.inj inserted]
      refine ⟨{ list with nodes := linked, world }, ?_, rfl, relinked⟩
      simp only [ran, Option.bind_eq_bind, Option.bind_some]

/-- The insertion into the nodes does what the insertion into the list does. -/
theorem insertSorted_refines (represents : list.Represents contents)
    (copied : Dplist.copyIf callbacks list.world source insertCopy = some (copy, world))
    (compares : ComparesTo callbacks world compare copy contents) :
    (∀ longer, dplInsertSorted (fun first second => compare first.2 second.2) contents
        (list.nodes.bound, copy) = some longer →
      ∃ after, list.insertSorted callbacks source insertCopy = some after ∧
        after.world = world ∧ after.Represents longer) ∧
    (dplInsertSorted (fun first second => compare first.2 second.2) contents
        (list.nodes.bound, copy) = none →
      list.insertSorted callbacks source insertCopy = none) := by
  by_cases empty : contents = []
  · subst empty
    refine ⟨fun longer inserted => ?_, fun nothing => by cases nothing⟩
    rw [← Option.some.inj inserted]
    exact insertSorted_empty represents copied
  · obtain ⟨chained, unused⟩ :=
      represents.malloc { prev := none, next := none, element := copy }
    obtain ⟨front, ⟨pt, found⟩, back, stops⟩ :=
      exists_stopsAt (fun entry => compare copy entry.2) empty
    have stopped := sortedPlace_of_stops chained stops compares chained.path.length_le_bound
    rw [insertSorted_at represents copied compares stops.split stopped, dplInsertSorted,
      dplInsertFrom_stop stops]
    obtain ⟨split, -, -⟩ := stops
    subst split
    exact linkAt_refines chained unused (list.nodes.read_malloc_self _)
      fun entry => compare copy entry.2

end Insertion

end Nodes

end SensorGateway
