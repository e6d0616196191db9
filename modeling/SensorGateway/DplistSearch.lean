/-
This file is about the operations that look for an element or a node and leave the list
as it is: the index of an element, the element at an index, the node at an index, the
element of a node, and the node of an element.

The node of an element is found in one step or in two, and both ways find the same node:
the index of an element that does not occur is the length of the list, where there is no
node. The other operations are right at the head of the list at most. The element at a
later index is read behind the last node; the index of an absent element is not -1; an
index behind the end does not give the last node; and the search for a node does not
move on from the first one.
-/

import SensorGateway.DplistSorted

namespace SensorGateway

variable {World Element : Type}

/-! ### The loops -/

section Loops

variable {callbacks : Callbacks World Element} {compare : Element → Element → Int}
  {element : Element} {world : World} {nodes : Nodes Element} {before start : Pointer}
  {contents : List (Address × Element)}

/-- The search counts the nodes in front of the first one that compares equal, or all of them. -/
theorem search_eq (chained : Chained nodes before start contents none)
    (compares : ComparesTo callbacks world compare element contents) {fuel : Nat}
    (enough : contents.length ≤ fuel) (pos : Int) :
    Dplist.search callbacks element nodes fuel world start pos =
      some (pos + contents.findIdx fun entry => compare element entry.2 = 0, world) := by
  induction contents generalizing before start fuel pos with
  | nil =>
    obtain rfl := chained
    cases fuel <;> simp [Dplist.search]
  | cons entry rest inductionHypothesis =>
    obtain ⟨place, found⟩ := entry
    obtain ⟨rfl, node, live, -, rfl, tail⟩ := chained
    obtain ⟨fuel, rfl⟩ := Nat.exists_eq_add_one_of_ne_zero (Nat.ne_zero_of_lt enough)
    have compared := compares _ List.mem_cons_self
    rw [Dplist.search, live, Option.bind_eq_bind, Option.bind_some, compared, Option.bind_eq_bind,
      Option.bind_some, List.findIdx_cons]
    dsimp only
    by_cases equal : compare element node.element = 0
    · simp [equal]
    · rw [if_neg equal, inductionHypothesis tail compares.tail
        (Nat.le_of_succ_le_succ enough), decide_eq_false equal, cond_false, Int.natCast_add,
        Int.natCast_one, Int.add_assoc, Int.add_comm 1]

/-- The walk of the direct search stops at the first node that compares equal, if there is one. -/
theorem searchPlace_finds (chained : Chained nodes before start contents none)
    (nonempty : contents ≠ []) (compares : ComparesTo callbacks world compare element contents)
    {fuel : Nat} (enough : contents.length ≤ fuel) :
    ∃ place node, Dplist.searchPlace callbacks element nodes fuel world start =
        some (some place, world) ∧
      nodes.read place = some node ∧ (place, node.element) ∈ contents ∧
      (if compare element node.element = 0 then some place else none) =
        (contents.find? fun entry => compare element entry.2 = 0).map Prod.fst := by
  induction contents generalizing before start fuel with
  | nil => exact absurd rfl nonempty
  | cons entry rest inductionHypothesis =>
    obtain ⟨place, found⟩ := entry
    obtain ⟨rfl, node, live, -, rfl, tail⟩ := chained
    obtain ⟨fuel, rfl⟩ := Nat.exists_eq_add_one_of_ne_zero (Nat.ne_zero_of_lt enough)
    have last : node.next = none ↔ rest = [] := tail.path.start_eq_none_iff
    have step : Dplist.searchPlace callbacks element nodes (fuel + 1) world (some place) =
        if decide (node.next ≠ none) && decide (compare element node.element ≠ 0) then
          Dplist.searchPlace callbacks element nodes fuel world node.next
        else some (some place, world) := by
      rw [Dplist.searchPlace, deref_some, live, Option.bind_eq_bind, Option.bind_some,
        compareIf_eq _ (compares _ List.mem_cons_self)]
      rfl
    rw [step, List.find?_cons]
    by_cases equal : compare element node.element = 0
    · refine ⟨place, node, ?_, live, List.mem_cons_self, ?_⟩
      · rw [if_neg (by simp [equal])]
      · rw [if_pos equal, decide_eq_true equal]
        rfl
    · rw [decide_eq_false equal]
      dsimp only
      by_cases more : rest = []
      · refine ⟨place, node, ?_, live, List.mem_cons_self, ?_⟩
        · rw [if_neg (by simp [last, more])]
        · rw [if_neg equal, more]
          rfl
      · obtain ⟨other, cell, ran, otherLive, member, same⟩ := inductionHypothesis tail more
          compares.tail (Nat.le_of_succ_le_succ enough)
        refine ⟨other, cell, ?_, otherLive, List.mem_cons_of_mem _ member, same⟩
        rw [if_pos (by simp [last, more, equal]), ran]

/-- The loop that does not move on ends at once or never. -/
theorem awaitReference_of_ne [Zero Element] {pt : Address} {reference : Pointer}
    (different : some pt ≠ reference) (turns : Nat) :
    Dplist.awaitReference nodes reference turns (some pt) = none := by
  induction turns with
  | zero => rfl
  | succ turns inductionHypothesis =>
    rw [Dplist.awaitReference, if_neg different, inductionHypothesis]

end Loops

theorem getElem?_findIdx {Entry : Type} (entries : List Entry) (test : Entry → Bool) :
    entries[entries.findIdx test]? = entries.find? test := by
  induction entries with
  | nil => rfl
  | cons entry rest inductionHypothesis =>
    rw [List.findIdx_cons, List.find?_cons]
    cases test entry with
    | true => rfl
    | false => exact inductionHypothesis

/-! ### The operations -/

section Operations

variable {callbacks : Callbacks World Element} {compare : Element → Element → Int}
  {element : Element} {list : Dplist World Element} {contents : List (Address × Element)}

/-- The index of the first element that compares equal; the length if there is none, but -1 for an
empty list. -/
theorem getIndexOfElement_eq (represents : list.Represents contents)
    (compares : ComparesTo callbacks list.world compare element contents) :
    list.getIndexOfElement callbacks element = some
      (if contents = [] then (-1 : Int)
        else contents.findIdx fun entry => compare element entry.2 = 0, list.world) := by
  unfold Dplist.getIndexOfElement
  by_cases empty : contents = []
  · rw [if_pos (represents.head_eq_none_iff.mpr empty), if_pos empty]
  · rw [if_neg (mt represents.head_eq_none_iff.mp empty), if_neg empty,
      search_eq represents compares represents.path.length_le_bound, Int.zero_add]

/-- The element at an index: the first one below 1; above, NULL is followed. -/
theorem getElementAtIndex_eq [Zero Element] (represents : list.Represents contents)
    (index : Int) :
    list.getElementAtIndex index =
      if contents = [] then some 0
      else if index ≤ 0 then contents.head?.map Prod.snd
      else none := by
  unfold Dplist.getElementAtIndex
  cases contents with
  | nil => rw [if_pos (represents.head_eq_none_iff.mpr rfl), if_pos rfl]
  | cons entry rest =>
    obtain ⟨place, found⟩ := entry
    have counted := count_eq represents represents.path.length_le_bound 0
    obtain ⟨head, node, live, -, rfl, -⟩ := represents
    rw [counted, head, if_neg (Option.some_ne_none _), if_neg (List.cons_ne_nil _ _)]
    split_ifs
    · rw [deref_some, live]
      rfl
    · rfl

/-- The node of an element is the first one that compares equal. -/
theorem getReferenceOfElement_eq (represents : list.Represents contents)
    (compares : ComparesTo callbacks list.world compare element contents) :
    list.getReferenceOfElement callbacks element = some
      ((contents.find? fun entry => compare element entry.2 = 0).map Prod.fst, list.world) := by
  unfold Dplist.getReferenceOfElement
  by_cases empty : contents = []
  · rw [if_pos (represents.head_eq_none_iff.mpr empty), empty]
    rfl
  · obtain ⟨place, node, ran, live, member, found⟩ :=
      searchPlace_finds represents empty compares represents.path.length_le_bound
    have compared := compares _ member
    dsimp only at compared
    rw [if_neg (mt represents.head_eq_none_iff.mp empty), ran, Option.bind_eq_bind,
      Option.bind_some]
    dsimp only
    rw [deref_some, live, Option.bind_eq_bind, Option.bind_some, compared, Option.bind_eq_bind,
      Option.bind_some, found]

/-- The element of a node: the first node is found; NULL is followed when asked for NULL, and from
another node the loop does not end. -/
theorem getElementAtReference_eq [Zero Element] {pt : Address} {found : Element}
    {rest : List (Address × Element)} (represents : list.Represents ((pt, found) :: rest))
    (reference : Pointer) (turns : Nat) :
    list.getElementAtReference reference (turns + 1) =
      if reference = some pt then some found else none := by
  have counted := count_eq represents represents.path.length_le_bound 0
  obtain ⟨head, node, live, -, rfl, -⟩ := represents
  unfold Dplist.getElementAtReference
  rw [counted, head, if_neg (Option.some_ne_none _)]
  by_cases null : reference = none
  · rw [if_pos null, null, if_neg (Option.some_ne_none pt).symm]
    rfl
  · rw [if_neg null]
    by_cases same : reference = some pt
    · rw [if_pos same, same, Dplist.awaitReference, if_pos rfl, live]
      rfl
    · rw [if_neg same, awaitReference_of_ne (Ne.symm same)]

/-- Asked for any number of turns, the first node is the only one that is found. -/
theorem exists_turns_iff [Zero Element] {pt : Address} {found other : Element}
    {rest : List (Address × Element)} (represents : list.Represents ((pt, found) :: rest))
    (reference : Pointer) :
    (∃ turns, list.getElementAtReference reference turns = some other) ↔
      reference = some pt ∧ other = found := by
  constructor
  · rintro ⟨turns, ran⟩
    cases turns with
    | zero =>
      have same := represents.1
      unfold Dplist.getElementAtReference at ran
      rw [same, if_neg (Option.some_ne_none _)] at ran
      split_ifs at ran
      · rw [← same, count_eq represents represents.path.length_le_bound] at ran
        cases ran
      · cases ran
    | succ turns =>
      rw [getElementAtReference_eq represents] at ran
      split_ifs at ran with same
      exact ⟨same, (Option.some.inj ran).symm⟩
  · rintro ⟨rfl, rfl⟩
    exact ⟨1, (getElementAtReference_eq represents _ 0).trans (if_pos rfl)⟩

end Operations

/-! ### The index of an element -/

/-- The index of an element is that of the first element that compares equal, and this element is
at the index; it is -1 if there is none. -/
structure IndexAgrees [Zero Element] (callbacks : Callbacks World Element)
    (compare : Element → Element → Int) (list : Dplist World Element)
    (contents : List (Address × Element)) (element : Element) : Prop where
  absent : (∀ entry ∈ contents, compare element entry.2 ≠ 0) →
    list.getIndexOfElement callbacks element = some (-1, list.world)
  present : ∀ (i : Nat) entry, contents[i]? = some entry → compare element entry.2 = 0 →
    (∀ earlier < i, ∀ other, contents[earlier]? = some other → compare element other.2 ≠ 0) →
    list.getIndexOfElement callbacks element = some ((i : Int), list.world) ∧
      list.getElementAtIndex i = some entry.2

section Agreement

variable {callbacks : Callbacks World Element} {compare : Element → Element → Int}
  {element : Element} {list : Dplist World Element} {contents : List (Address × Element)}

/-- The two searches agree exactly when the first element of the list, if it has one, is the one
looked for. -/
theorem index_agrees_iff [Zero Element] (represents : list.Represents contents)
    (compares : ComparesTo callbacks list.world compare element contents) :
    IndexAgrees callbacks compare list contents element ↔
      ∀ first ∈ contents.head?, compare element first.2 = 0 := by
  have index := getIndexOfElement_eq represents compares
  have found := getElementAtIndex_eq represents
  cases contents with
  | nil =>
    refine iff_of_true ⟨fun _ => by rw [index, if_pos rfl], fun i entry inside => ?_⟩ (by simp)
    exact absurd inside (by simp)
  | cons first rest =>
    simp only [List.cons_ne_nil, if_false] at index found
    simp only [List.head?_cons, Option.mem_some_iff, forall_eq']
    constructor
    · intro agrees
      by_contra different
      cases least : (first :: rest).findIdx? fun entry => compare element entry.2 = 0 with
      | none =>
        have absent : ∀ entry ∈ first :: rest, compare element entry.2 ≠ 0 := fun entry member =>
          of_decide_eq_false (List.findIdx?_eq_none_iff.mp least entry member)
        have counted := index.symm.trans (agrees.absent absent)
        rw [Option.some.injEq, Prod.mk.injEq] at counted
        omega
      | some i =>
        obtain ⟨within, equal, passed⟩ := List.findIdx?_eq_some_iff_getElem.mp least
        cases i with
        | zero => exact different (of_decide_eq_true equal)
        | succ i =>
          obtain ⟨-, read⟩ := agrees.present (i + 1) _ (List.getElem?_eq_getElem within)
            (of_decide_eq_true equal) fun earlier before other inside => by
              obtain ⟨bound, rfl⟩ := List.getElem?_eq_some_iff.mp inside
              exact fun zero => passed earlier before (decide_eq_true zero)
          rw [found, if_neg (by omega)] at read
          cases read
    · intro equal
      refine ⟨fun absent => absurd equal (absent first List.mem_cons_self), ?_⟩
      intro i entry inside same least
      cases i with
      | zero =>
        obtain rfl := Option.some.inj inside
        rw [index, found, List.findIdx_cons, decide_eq_true equal, cond_true]
        exact ⟨rfl, rfl⟩
      | succ i => exact absurd equal (least 0 (Nat.succ_pos i) first rfl)

theorem index_agrees_first :
    ∃ list : Dplist Unit Int, list.Represents [(0, 5), (1, 7)] ∧
      IndexAgrees numberCallbacks (· - ·) list [(0, 5), (1, 7)] 5 := by
  obtain ⟨list, -, represents⟩ := exists_twoNumbers
  exact ⟨list, represents, (index_agrees_iff represents (compares_numbers _ _ _)).mpr (by simp)⟩

/-- The second element of a list is found at index 1 but not read there. -/
theorem later_element_not_read :
    ∃ list : Dplist Unit Int, list.Represents [(0, 5), (1, 7)] ∧
      list.getIndexOfElement numberCallbacks 7 = some (1, ()) ∧ list.getElementAtIndex 1 = none ∧
      ¬IndexAgrees numberCallbacks (· - ·) list [(0, 5), (1, 7)] 7 := by
  obtain ⟨list, -, represents⟩ := exists_twoNumbers
  have index := getIndexOfElement_eq represents (compares_numbers _ 7 _)
  have read := getElementAtIndex_eq represents 1
  refine ⟨list, represents, index, read, fun agrees => ?_⟩
  obtain ⟨-, present⟩ := agrees.present 1 (1, 7) rfl rfl fun earlier before other inside => by
    obtain rfl := Nat.lt_one_iff.mp before
    rw [← Option.some.inj inside]
    decide
  exact absurd (read.symm.trans present) (by decide)

/-! ### References -/

/-- The node at an index has the index, which counts as 0 below and as the last one above, and its
element is the one at it; NULL and other references than those of the nodes have no element. -/
structure ReferencesAgree [Zero Element] (list : Dplist World Element)
    (contents : List (Address × Element)) (index : Int) (reference : Pointer) : Prop where
  node : ∀ pt found, contents[min index.toNat (contents.length - 1)]? = some (pt, found) →
    list.getReferenceAtIndex index = some (some pt) ∧
      ∃ turns, list.getElementAtReference (some pt) turns = some found
  elsewhere : reference ∉ contents.map (fun entry => some entry.1) →
    ∃ turns, list.getElementAtReference reference turns = some 0

/-- References, indices and elements agree exactly for the first node of a list, and while no other
reference is asked about than that of a node. -/
theorem references_agree_iff [Zero Element] (represents : list.Represents contents) (index : Int)
    (reference : Pointer) :
    ReferencesAgree list contents index reference ↔
      contents = [] ∨
        index ≤ 0 ∧ reference ∈ contents.map fun entry => some entry.1 := by
  have referred := getReferenceAtIndex_eq represents index
  cases contents with
  | nil =>
    refine iff_of_true ⟨fun pt found inside => absurd inside (by simp), fun _ => ⟨0, ?_⟩⟩
      (Or.inl rfl)
    unfold Dplist.getElementAtReference
    rw [if_pos (represents.head_eq_none_iff.mpr rfl)]
  | cons entry rest =>
    obtain ⟨pt, found⟩ := entry
    rw [or_iff_right (List.cons_ne_nil _ _)]
    constructor
    · intro agree
      constructor
      · by_contra later
        have within : min index.toNat (((pt, found) :: rest).length - 1) <
            ((pt, found) :: rest).length := by
          rw [List.length_cons]
          omega
        obtain ⟨same, element⟩ := agree.node _ _ (List.getElem?_eq_getElem within)
        obtain ⟨atHead, -⟩ := (exists_turns_iff represents _).mp element
        -- The node at the index would be the first one, which the walk has left behind.
        obtain ⟨less, count⟩ := Nat.exists_eq_add_one_of_ne_zero
          (mt Int.toNat_eq_zero.mp later)
        rw [referred, atHead, count, List.getElem?_cons_succ, Option.some.injEq,
          Option.map_eq_some_iff] at same
        obtain ⟨other, inside, again⟩ := same
        have fresh := (List.nodup_cons.mp represents.path.nodup).1
        exact fresh (List.mem_map.mpr ⟨other, List.mem_of_getElem? inside, again⟩)
      · by_contra foreign
        obtain ⟨same, -⟩ := (exists_turns_iff represents _).mp (agree.elsewhere foreign)
        exact foreign (same ▸ List.mem_cons_self)
    · rintro ⟨front, member⟩
      refine ⟨fun place held inside => ?_, fun foreign => absurd member foreign⟩
      rw [Int.toNat_of_nonpos front] at inside referred
      obtain ⟨rfl, rfl⟩ := Prod.mk.inj (Option.some.inj inside)
      exact ⟨referred, (exists_turns_iff represents _).mpr ⟨rfl, rfl⟩⟩

theorem references_agree_first :
    ∃ list : Dplist Unit Int, list.Represents [(0, 5), (1, 7)] ∧
      ReferencesAgree list [(0, 5), (1, 7)] 0 (some 0) := by
  obtain ⟨list, -, represents⟩ := exists_twoNumbers
  exact ⟨list, represents, (references_agree_iff represents 0 (some 0)).mpr
    (Or.inr ⟨Int.le_refl 0, List.mem_cons_self⟩)⟩

/-- The second node is found by its index, but the search for its element does not end. -/
theorem second_node_not_found :
    ∃ list : Dplist Unit Int, list.Represents [(0, 5), (1, 7)] ∧
      list.getReferenceAtIndex 1 = some (some 1) ∧
      (∀ turns element, list.getElementAtReference (some 1) turns ≠ some element) ∧
      ¬ReferencesAgree list [(0, 5), (1, 7)] 1 (some 1) := by
  obtain ⟨list, -, represents⟩ := exists_twoNumbers
  have endless : ∀ turns element, list.getElementAtReference (some 1) turns ≠ some element := by
    intro turns element ran
    obtain ⟨same, -⟩ := (exists_turns_iff represents (some 1)).mp ⟨turns, ran⟩
    cases same
  refine ⟨list, represents, getReferenceAtIndex_eq represents 1, endless, fun agree => ?_⟩
  obtain ⟨-, turns, ran⟩ := agree.node 1 7 rfl
  exact endless turns 7 ran

/-- The direct search and the search in two steps find the same node, the first one whose element
compares equal, and NULL exactly when there is none. -/
theorem searches_agree (represents : list.Represents contents)
    (compares : ComparesTo callbacks list.world compare element contents) :
    ∃ index node, list.getIndexOfElement callbacks element = some (index, list.world) ∧
      list.getReferenceAtIndex index = some node ∧
      list.getReferenceOfElement callbacks element = some (node, list.world) ∧
      node = (contents.find? fun entry => compare element entry.2 = 0).map Prod.fst ∧
      (node = none ↔ ∀ entry ∈ contents, compare element entry.2 ≠ 0) := by
  refine ⟨_, _, getIndexOfElement_eq represents compares, ?_,
    getReferenceOfElement_eq represents compares, rfl, ?_⟩
  · rw [getReferenceAtIndex_eq represents]
    by_cases empty : contents = []
    · rw [if_pos empty, empty]
      rfl
    · rw [if_neg empty, Int.toNat_natCast, getElem?_findIdx]
  · rw [Option.map_eq_none_iff, List.find?_eq_none]
    simp only [decide_eq_true_eq, ne_eq]

theorem searches_agree_absent :
    ∃ list : Dplist Unit Int, list.Represents [(0, 5), (1, 7)] ∧
      ∃ index node, list.getIndexOfElement numberCallbacks 9 = some (index, list.world) ∧
        list.getReferenceAtIndex index = some node ∧
        list.getReferenceOfElement numberCallbacks 9 = some (node, list.world) := by
  obtain ⟨list, -, represents⟩ := exists_twoNumbers
  obtain ⟨index, node, counted, referred, found, -⟩ :=
    searches_agree represents (compares_numbers list.world 9 _)
  exact ⟨list, represents, index, node, counted, referred, found⟩

end Agreement

end SensorGateway
