import ClassScript.Proofs.Document.Reachable
import ClassScript.Selector.Match
import Mathlib.Data.List.Induction

/-!
What a selector means: a chain of nodes from left to right, one for each compound, of which
neighbours stand to each other as the combinators say. Matching searches for such a chain from its
right end; in a document that can be made it finds one exactly when there is one.
-/

namespace ClassScript.Document

open Relation Selector

/-- `upper` is the node just above `lower`, and an element. -/
def ElementAbove (d : Document) (upper lower : NodeId) : Prop :=
  d.Above upper lower ∧ d.isElement upper = true

/-- How the node on the left of a combinator stands to the node on its right. Only the left one has
to be an element. -/
inductive StandsTo (d : Document) : Combinator → NodeId → NodeId → Prop where
  | child {left right : NodeId} (h : d.ElementAbove left right) : StandsTo d .child left right
  /-- One or more steps up, each of which leads to an element. -/
  | descendant {left right : NodeId} (h : TransGen d.ElementAbove left right) :
      StandsTo d .descendant left right
  /-- The left node is the last element among the children that come before the right one. -/
  | adjacentSibling {parent left right : NodeId} {before between after : List NodeId}
      (hParent : d.Above parent right)
      (hChildren : d.children parent = before ++ left :: between ++ right :: after)
      (hElement : d.isElement left = true) (hNearest : ∀ id ∈ between, d.isElement id = false) :
      StandsTo d .adjacentSibling left right
  | generalSibling {parent left right : NodeId} {before between after : List NodeId}
      (hParent : d.Above parent right)
      (hChildren : d.children parent = before ++ left :: between ++ right :: after)
      (hElement : d.isElement left = true) : StandsTo d .generalSibling left right

/-- The parent element is the parent, if it is an element. -/
theorem elementParent?_eq_some_iff (d : Document) (upper lower : NodeId) :
    d.elementParent? lower = some upper ↔ d.ElementAbove upper lower := by
  rw [elementParent?, Option.filter_eq_some_iff, ElementAbove, Arena.Above]

section WellFormed

variable {d : Document} (wf : d.WellFormed)

include wf

/-- The elements above a node are found one element parent after the other. -/
theorem elementAncestors_eq (id : NodeId) :
    d.elementAncestors id =
      match d.elementParent? id with
      | none => []
      | some upper => upper :: d.elementAncestors upper := by
  rw [elementAncestors, elementParent?]
  cases h : d.parent? id with
  | none =>
      rw [Arena.ancestors_of_parent?_eq_none h]
      rfl
  | some upper =>
      rw [wf.ancestors_eq_cons h, List.takeWhile_cons]
      cases hElement : d.isElement upper with
      | false =>
          rw [Option.filter_some_neg (by simp [hElement])]
          rfl
      | true =>
          rw [Option.filter_some_pos hElement]
          rfl

/-- The elements above are those that a way of elements leads up to. -/
theorem mem_elementAncestors_iff {upper lower : NodeId} :
    upper ∈ d.elementAncestors lower ↔ TransGen d.ElementAbove upper lower := by
  constructor
  · induction wf.wellFounded_above.apply lower with
    | intro lower _ ih =>
        intro h
        rw [elementAncestors_eq wf] at h
        cases hParent : d.elementParent? lower with
        | none => simp [hParent] at h
        | some parent =>
            have hAbove := (elementParent?_eq_some_iff d parent lower).1 hParent
            simp only [hParent, List.mem_cons] at h
            rcases h with rfl | h
            · exact TransGen.single hAbove
            · exact (ih parent hAbove.1 h).tail hAbove
  · intro h
    induction h with
    | single h =>
        rw [elementAncestors_eq wf, (elementParent?_eq_some_iff d _ _).2 h]
        exact List.mem_cons_self
    | tail _ h ih =>
        rw [elementAncestors_eq wf, (elementParent?_eq_some_iff d _ _).2 h]
        exact List.mem_cons_of_mem _ ih

/-- A node stands in one place among the children of its parent. -/
theorem exists_children_eq {parent id : NodeId} (h : d.Above parent id) :
    ∃ before after, d.children parent = before ++ id :: after := by
  obtain ⟨before, after, hChildren⟩ := List.append_of_mem ((wf.mem_children_iff parent id).2 h)
  exact ⟨before, after, hChildren⟩

/-- The earlier siblings are listed from the nearest back. -/
theorem earlierElements_eq {parent id : NodeId} {before after : List NodeId}
    (hParent : d.Above parent id) (hChildren : d.children parent = before ++ id :: after) :
    d.earlierElements id = before.reverse.filter d.isElement := by
  have hNodup := wf.nodup_children parent
  rw [hChildren, List.nodup_append] at hNodup
  have hBefore : ∀ other ∈ before, decide (other ≠ id) = true := by
    intro other hOther
    exact decide_eq_true (hNodup.2.2 other hOther id List.mem_cons_self)
  rw [Arena.Above] at hParent
  rw [earlierElements, hParent]
  simp only
  rw [hChildren, List.takeWhile_append_of_pos hBefore, List.takeWhile_cons_of_neg (by simp),
    List.append_nil]

/-- Any earlier sibling that is an element stands where `~` asks for it. -/
theorem mem_earlierElements_iff {left right : NodeId} :
    left ∈ d.earlierElements right ↔ d.StandsTo .generalSibling left right := by
  constructor
  · intro h
    cases hParent : d.parent? right with
    | none => simp [earlierElements, hParent] at h
    | some parent =>
        obtain ⟨before, after, hChildren⟩ := exists_children_eq wf hParent
        rw [earlierElements_eq wf hParent hChildren, List.mem_filter, List.mem_reverse] at h
        obtain ⟨first, between, rfl⟩ := List.append_of_mem h.1
        exact .generalSibling hParent hChildren h.2
  · intro h
    cases h with
    | generalSibling hParent hChildren hElement =>
        rw [earlierElements_eq wf hParent hChildren, List.mem_filter]
        exact ⟨by simp, hElement⟩

/-- The next earlier sibling that is an element stands where `+` asks for it. -/
theorem previousElement?_eq_some_iff {left right : NodeId} :
    d.previousElement? right = some left ↔ d.StandsTo .adjacentSibling left right := by
  constructor
  · intro h
    cases hParent : d.parent? right with
    | none => simp [previousElement?, earlierElements, hParent] at h
    | some parent =>
        obtain ⟨before, after, hChildren⟩ := exists_children_eq wf hParent
        rw [previousElement?, earlierElements_eq wf hParent hChildren, List.head?_filter,
          List.find?_eq_some_iff_append] at h
        obtain ⟨hElement, nearer, further, hSplit, hNearer⟩ := h
        have hBefore : before = further.reverse ++ left :: nearer.reverse := by
          rw [← List.reverse_reverse before, hSplit]
          simp
        subst hBefore
        refine .adjacentSibling hParent hChildren hElement fun id hId => ?_
        simpa using hNearer id (List.mem_reverse.1 hId)
  · intro h
    cases h with
    | @adjacentSibling parent _ _ before between after hParent hChildren hElement hNearest =>
        rw [previousElement?, earlierElements_eq wf hParent hChildren, List.head?_filter,
          List.find?_eq_some_iff_append]
        refine ⟨hElement, between.reverse, before.reverse, by simp, fun id hId => ?_⟩
        simp [hNearest id (List.mem_reverse.1 hId)]

/-- The nodes that matching tries are those that the combinator relates to the node on the right. -/
theorem mem_related_iff (combinator : Combinator) {left right : NodeId} :
    left ∈ d.related right combinator ↔ d.StandsTo combinator left right := by
  cases combinator with
  | descendant =>
      rw [related, mem_elementAncestors_iff wf]
      exact ⟨.descendant, fun h => by cases h with | descendant h => exact h⟩
  | child =>
      rw [related, Option.mem_toList, elementParent?_eq_some_iff]
      exact ⟨.child, fun h => by cases h with | child h => exact h⟩
  | adjacentSibling =>
      rw [related, Option.mem_toList, previousElement?_eq_some_iff wf]
  | generalSibling =>
      rw [related, mem_earlierElements_iff wf]

end WellFormed

/-- Nodes from left to right, as many as the selector has compounds. Each meets its compound, and
stands to the next one as the combinator between their compounds says. -/
structure Chain (d : Document) (selector : Selector) (nodes : List NodeId) : Prop where
  length_eq : nodes.length = selector.rest.length + 1
  meets : ∀ (i : Nat) (id : NodeId) (compound : Compound), nodes[i]? = some id →
    (selector.first :: selector.rest.map (·.2))[i]? = some compound →
    ∀ simple ∈ compound, d.meets id simple = true
  stands : ∀ (i : Nat) (left right : NodeId) (combinator : Combinator) (compound : Compound),
    nodes[i]? = some left → nodes[i + 1]? = some right →
    selector.rest[i]? = some (combinator, compound) → d.StandsTo combinator left right

namespace Chain

variable {d : Document} {first compound : Compound} {rest : List (Combinator × Compound)}
  {combinator : Combinator} {nodes : List NodeId} {left id : NodeId}

/-- A chain of one element meets one list of conditions. -/
theorem singleton_iff : d.Chain { first } [id] ↔ ∀ simple ∈ first, d.meets id simple = true := by
  constructor
  · intro chain
    exact chain.meets 0 id first rfl rfl
  · intro h
    refine ⟨rfl, ?_, ?_⟩
    · intro i other compound hNode hCompound
      cases i with
      | zero =>
          cases hNode
          cases hCompound
          exact h
      | succ i => simp at hNode
    · intro i left right combinator compound _ _ hRest
      simp at hRest

/-- A chain is made longer at its right end. -/
theorem snoc (chain : d.Chain { first, rest } nodes) (hLast : nodes.getLast? = some left)
    (hStands : d.StandsTo combinator left id) (hMeets : ∀ simple ∈ compound, d.meets id simple = true) :
    d.Chain { first, rest := rest ++ [(combinator, compound)] } (nodes ++ [id]) := by
  have hLength : nodes.length = rest.length + 1 := chain.length_eq
  refine ⟨by simp [hLength], ?_, ?_⟩
  · intro i other condition hNode hCompound
    by_cases hi : i < nodes.length
    · rw [List.getElem?_append_left hi] at hNode
      refine chain.meets i other condition hNode ?_
      rw [List.map_append, ← List.cons_append, List.getElem?_append_left (by simpa using by omega)]
        at hCompound
      exact hCompound
    · rw [List.getElem?_append_right (by omega)] at hNode
      rw [List.map_append, ← List.cons_append, List.getElem?_append_right (by simpa using by omega)]
        at hCompound
      have hZero : i - nodes.length = 0 := by
        have hBound := (List.getElem?_eq_some_iff.1 hNode).1
        simpa using hBound
      have hSame : i - (first :: rest.map (·.2)).length = 0 := by simpa [hLength] using hZero
      rw [hZero] at hNode
      simp only [hSame] at hCompound
      cases hNode
      cases hCompound
      exact hMeets
  · intro i before after relation condition hBefore hAfter hRest
    by_cases hi : i < rest.length
    · rw [List.getElem?_append_left (by omega)] at hBefore hAfter
      rw [List.getElem?_append_left hi] at hRest
      exact chain.stands i before after relation condition hBefore hAfter hRest
    · have hEq : i = rest.length := by
        have hBound := (List.getElem?_eq_some_iff.1 hRest).1
        simp only [List.length_append, List.length_singleton] at hBound
        omega
      subst hEq
      rw [List.getLast?_eq_getElem?, hLength, Nat.add_sub_cancel] at hLast
      rw [List.getElem?_append_left (by omega), hLast] at hBefore
      rw [← hLength, List.getElem?_concat_length] at hAfter
      rw [List.getElem?_concat_length] at hRest
      cases hBefore
      cases hAfter
      cases hRest
      exact hStands

/-- A chain without its right end is a chain, and its last two nodes stand to each other. -/
theorem of_snoc (chain : d.Chain { first, rest := rest ++ [(combinator, compound)] } nodes)
    (hLast : nodes.getLast? = some id) :
    ∃ before left, d.Chain { first, rest } before ∧ before.getLast? = some left ∧
      d.StandsTo combinator left id ∧ ∀ simple ∈ compound, d.meets id simple = true := by
  obtain ⟨before, rfl⟩ := List.getLast?_eq_some_iff.1 hLast
  have hLength : before.length = rest.length + 1 := by simpa using chain.length_eq
  obtain ⟨left, hLeft⟩ : ∃ left, before.getLast? = some left := by
    cases before with
    | nil => cases hLength
    | cons node before => exact ⟨_, List.getLast?_cons⟩
  refine ⟨before, left, ⟨hLength, ?_, ?_⟩, hLeft, ?_, ?_⟩
  · intro i other condition hNode hCompound
    have hi := (List.getElem?_eq_some_iff.1 hNode).1
    refine chain.meets i other condition (by rw [List.getElem?_append_left hi, hNode]) ?_
    rw [List.map_append, ← List.cons_append, List.getElem?_append_left (by simpa using by omega)]
    exact hCompound
  · intro i other next relation condition hOther hNext hRest
    have hi := (List.getElem?_eq_some_iff.1 hNext).1
    refine chain.stands i other next relation condition ?_ ?_ ?_
    · rw [List.getElem?_append_left (by omega), hOther]
    · rw [List.getElem?_append_left hi, hNext]
    · rw [List.getElem?_append_left (by omega), hRest]
  · refine chain.stands rest.length left id combinator compound ?_ ?_ ?_
    · rw [List.getLast?_eq_getElem?, hLength, Nat.add_sub_cancel] at hLeft
      rw [List.getElem?_append_left (by omega), hLeft]
    · rw [← hLength, List.getElem?_concat_length]
    · exact List.getElem?_concat_length
  · refine chain.meets before.length id compound List.getElem?_concat_length ?_
    rw [List.map_append, ← List.cons_append, hLength]
    simp

end Chain

/-- To meet a list of conditions is to meet each of them. -/
theorem meetsAll_eq_true_iff (d : Document) (id : NodeId) (compound : Compound) :
    d.meetsAll id compound = true ↔ ∀ simple ∈ compound, d.meets id simple = true := by
  rw [meetsAll, List.all_eq_true]

/-- A selector with one more compound holds of a node that meets it, if the shorter selector holds
of a node to which the first one stands as the last combinator says. -/
theorem satisfies_snoc_iff {d : Document} (wf : d.WellFormed) (id : NodeId) (first : Compound)
    (rest : List (Combinator × Compound)) (combinator : Combinator) (compound : Compound) :
    d.satisfies id { first, rest := rest ++ [(combinator, compound)] } = true ↔
      (∀ simple ∈ compound, d.meets id simple = true) ∧
        ∃ left, d.StandsTo combinator left id ∧ d.satisfies left { first, rest } = true := by
  simp only [satisfies, List.reverse_append, List.reverse_singleton, List.singleton_append,
    satisfiesLeftward, Bool.and_eq_true, meetsAll_eq_true_iff, List.any_eq_true, mem_related_iff wf]

/-- The search from the right finds an element exactly where a chain leads to it. -/
theorem satisfies_iff_chain {d : Document} (wf : d.WellFormed) (id : NodeId) (selector : Selector) :
    d.satisfies id selector = true ↔
      ∃ nodes, d.Chain selector nodes ∧ nodes.getLast? = some id := by
  obtain ⟨first, rest⟩ := selector
  induction rest using List.reverseRecOn generalizing id with
  | nil =>
      rw [satisfies, List.reverse_nil, satisfiesLeftward, meetsAll_eq_true_iff]
      constructor
      · intro h
        exact ⟨[id], Chain.singleton_iff.2 h, rfl⟩
      · rintro ⟨nodes, chain, hLast⟩
        obtain ⟨other, rfl⟩ := List.length_eq_one_iff.1 chain.length_eq
        cases hLast
        exact Chain.singleton_iff.1 chain
  | append_singleton rest last ih =>
      obtain ⟨combinator, compound⟩ := last
      rw [satisfies_snoc_iff wf]
      constructor
      · rintro ⟨hMeets, left, hStands, hLeft⟩
        obtain ⟨nodes, chain, hLast⟩ := (ih left).1 hLeft
        exact ⟨nodes ++ [id], chain.snoc hLast hStands hMeets, List.getLast?_concat⟩
      · rintro ⟨nodes, chain, hLast⟩
        obtain ⟨before, left, hChain, hLeft, hStands, hMeets⟩ := chain.of_snoc hLast
        exact ⟨hMeets, left, hStands, (ih left).2 ⟨before, hChain, hLeft⟩⟩

/-- In every document that can be made, a selector holds of a node exactly when the node is the
right end of a chain for it. A group holds of a node when one of its selectors does. -/
theorem satisfies_iff_exists_chain {d : Document} (hReachable : d.Reachable) (id : NodeId) :
    (∀ selector, d.satisfies id selector = true ↔
      ∃ nodes, d.Chain selector nodes ∧ nodes.getLast? = some id) ∧
    ∀ group, d.satisfiesAny id group = true ↔
      ∃ selector ∈ group, ∃ nodes, d.Chain selector nodes ∧ nodes.getLast? = some id := by
  have wf := hReachable.wellFormed
  refine ⟨satisfies_iff_chain wf id, fun group => ?_⟩
  rw [satisfiesAny, List.any_eq_true]
  constructor
  · rintro ⟨selector, hMem, h⟩
    exact ⟨selector, hMem, (satisfies_iff_chain wf id selector).1 h⟩
  · rintro ⟨selector, hMem, h⟩
    exact ⟨selector, hMem, (satisfies_iff_chain wf id selector).2 h⟩

def itemList : Document where
  nodes := #[
    { value := .document, children := [⟨1⟩] },
    { value := .element "ul" {}, parent := some ⟨0⟩, children := [⟨2⟩, ⟨3⟩] },
    { value := .element "li" {}, parent := some ⟨1⟩ },
    { value := .element "li" {}, parent := some ⟨1⟩ }]

theorem reachable_itemList : itemList.Reachable := by
  have hList := Reachable.empty.change (.createElement _ "ul")
  have hFirst := hList.change (.createElement _ "li")
  have hSecond := hFirst.change (.createElement _ "li")
  have hTop := hSecond.change (@Change.append _ _ ⟨0⟩ ⟨1⟩ rfl)
  exact (hTop.change (@Change.append _ _ ⟨1⟩ ⟨2⟩ rfl)).change (@Change.append _ _ ⟨1⟩ ⟨3⟩ rfl)

/-- The second item of the list is the right end of a chain for `ul > li + *`. -/
theorem exists_chain_itemList :
    itemList.Reachable ∧
      ∃ nodes, itemList.Chain
        { first := [.tag "ul"], rest := [(.child, [.tag "li"]), (.adjacentSibling, [.universal])] }
        nodes ∧ nodes.getLast? = some ⟨3⟩ :=
  ⟨reachable_itemList,
    ((satisfies_iff_exists_chain reachable_itemList ⟨3⟩).1 _).1 (by decide)⟩

end ClassScript.Document
