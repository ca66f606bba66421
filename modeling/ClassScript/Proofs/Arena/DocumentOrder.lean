import ClassScript.Proofs.Arena.Descendants
import Mathlib.Data.List.Pairwise

/-!
Document order. Of two nodes in one tree, the one that is above the other comes first; and of two that
stand apart, the one in the tree of the earlier sibling. The descendants of a node stand in this order,
and no other list of the same nodes does.
-/

namespace ClassScript.Arena

open Relation

variable {α : Type} {a : Arena α}

/-- A node comes before the nodes below it, and what a node reaches comes before what a later sibling of
it reaches. -/
inductive Precedes (a : Arena α) : NodeId → NodeId → Prop where
  | above {upper lower : NodeId} (h : TransGen a.Above upper lower) : Precedes a upper lower
  | beside {parent earlier later first second : NodeId}
      (hSiblings : [earlier, later].Sublist (a.children parent))
      (hFirst : ReflTransGen a.Above earlier first) (hSecond : ReflTransGen a.Above later second) :
      Precedes a first second

/-- All nodes with a property, each once and in document order. -/
structure ListsInOrder (a : Arena α) (p : NodeId → Prop) (ids : List NodeId) : Prop where
  mem_iff : ∀ id, id ∈ ids ↔ p id
  nodup : ids.Nodup
  ordered : ids.Pairwise a.Precedes

/-- Of two items, each stands behind the other only in a list with repetitions. -/
theorem not_sublist_swap {β : Type} {items : List β} (hNodup : items.Nodup) {first second : β}
    (h : [first, second].Sublist items) : ¬ [second, first].Sublist items := by
  induction items with
  | nil => cases h
  | cons item items ih =>
      obtain ⟨hItem, hItems⟩ := List.nodup_cons.mp hNodup
      intro hSwap
      cases h with
      | cons _ h =>
          cases hSwap with
          | cons _ hSwap => exact ih hItems h hSwap
          | cons_cons _ hSwap => exact hItem (h.mem (by simp))
      | cons_cons _ h =>
          cases hSwap with
          | cons _ hSwap => exact hItem (hSwap.mem (by simp))
          | cons_cons _ hSwap => exact hItem (h.mem (by simp))

/-- What reaches a child reaches its parent, unless it is the child. -/
theorem eq_or_reach_parent {parent child upper : NodeId} (hParent : a.Above parent child)
    (h : ReflTransGen a.Above upper child) : upper = child ∨ ReflTransGen a.Above upper parent := by
  rcases ReflTransGen.cases_tail h with hEq | ⟨middle, hUpper, hLast⟩
  · exact .inl hEq.symm
  · have hMiddle : middle = parent := Option.some.inj (hLast.symm.trans hParent)
    exact .inr (hMiddle ▸ hUpper)

namespace WellFormed

/-- Both of two children stand below their parent. -/
theorem above_of_sublist (wf : a.WellFormed) {parent earlier later : NodeId}
    (h : [earlier, later].Sublist (a.children parent)) :
    a.Above parent earlier ∧ a.Above parent later :=
  ⟨(wf.mem_children_iff parent earlier).mp (h.mem List.mem_cons_self),
    (wf.mem_children_iff parent later).mp (h.mem (by simp))⟩

/-- What stands below one of two siblings does not stand below the other. -/
theorem not_reach_both (wf : a.WellFormed) {parent earlier later lower : NodeId}
    (h : [earlier, later].Sublist (a.children parent)) (hEarlier : ReflTransGen a.Above earlier lower) :
    ¬ ReflTransGen a.Above later lower := by
  intro hLater
  obtain ⟨hFirst, hSecond⟩ := wf.above_of_sublist h
  have hNe : earlier ≠ later := by simpa using (wf.nodup_children parent).sublist h
  exact hNe (wf.eq_of_reach_both hFirst hSecond hEarlier hLater)

/-- Two pairs of siblings do not tell the order of the same two nodes in different ways. -/
theorem not_beside_swap (wf : a.WellFormed) {parent earlier later other left right first second : NodeId}
    (hSiblings : [earlier, later].Sublist (a.children parent))
    (hOthers : [left, right].Sublist (a.children other))
    (hEarlier : ReflTransGen a.Above earlier first) (hLater : ReflTransGen a.Above later second)
    (hLeft : ReflTransGen a.Above left second) : ¬ ReflTransGen a.Above right first := by
  intro hRight
  obtain ⟨hParentEarlier, hParentLater⟩ := wf.above_of_sublist hSiblings
  obtain ⟨hOtherLeft, hOtherRight⟩ := wf.above_of_sublist hOthers
  have hSame : earlier ≠ right := by
    rintro rfl
    have hParent : other = parent := Option.some.inj (hOtherRight.symm.trans hParentEarlier)
    subst hParent
    have hBoth := wf.eq_of_reach_both hOtherLeft hParentLater hLeft hLater
    subst hBoth
    exact not_sublist_swap (wf.nodup_children other) hSiblings hOthers
  -- The higher one of the two pairs stands in the way of the lower one.
  rcases above_total hEarlier hRight with h | h
  · have hReach := (eq_or_reach_parent hOtherRight h).resolve_left hSame
    exact wf.not_reach_both hSiblings ((hReach.tail hOtherLeft).trans hLeft) hLater
  · have hReach := (eq_or_reach_parent hParentEarlier h).resolve_left (Ne.symm hSame)
    exact wf.not_reach_both hOthers hLeft ((hReach.tail hParentLater).trans hLater)

/-- No two nodes precede each other. -/
theorem not_precedes_swap (wf : a.WellFormed) {first second : NodeId} (h : a.Precedes first second) :
    ¬ a.Precedes second first := by
  intro hSwap
  cases h with
  | above hAbove =>
      cases hSwap with
      | above hBelow => exact wf.not_transGen_self first (hAbove.trans hBelow)
      | beside hSiblings hSecond hFirst =>
          exact wf.not_reach_both hSiblings hSecond (hFirst.trans hAbove.to_reflTransGen)
  | beside hSiblings hFirst hSecond =>
      cases hSwap with
      | above hAbove =>
          exact wf.not_reach_both hSiblings hFirst (hSecond.trans hAbove.to_reflTransGen)
      | beside hOthers hLeft hRight =>
          exact wf.not_beside_swap hSiblings hOthers hFirst hSecond hLeft hRight

/-- A property lists its nodes in one way only. -/
theorem eq_of_listsInOrder (wf : a.WellFormed) {p : NodeId → Prop} {ids others : List NodeId}
    (h : a.ListsInOrder p ids) (hOthers : a.ListsInOrder p others) : ids = others := by
  have hPerm : ids.Perm others :=
    (List.perm_ext_iff_of_nodup h.nodup hOthers.nodup).mpr fun id => by
      rw [h.mem_iff, hOthers.mem_iff]
  exact hPerm.eq_of_pairwise (fun _ _ _ _ hFirst hSecond => absurd hSecond (wf.not_precedes_swap hFirst))
    h.ordered hOthers.ordered

/-- The list of descendants goes down and then sideways, as the order does. -/
theorem pairwise_descendants (wf : a.WellFormed) (id : NodeId) :
    (a.descendants id).Pairwise a.Precedes := by
  induction id using wf.induction_below with
  | _ id ih =>
      rw [wf.descendants_eq, List.pairwise_flatMap]
      constructor
      · intro child hChild
        refine List.pairwise_cons.mpr ⟨fun lower hLower => ?_, ih child hChild⟩
        exact .above (wf.mem_descendants_iff.mp hLower)
      · rw [List.pairwise_iff_forall_sublist]
        intro earlier later hSiblings first hFirst second hSecond
        exact .beside hSiblings (wf.mem_cons_descendants_iff.mp hFirst)
          (wf.mem_cons_descendants_iff.mp hSecond)

/-- The descendants of a node are listed in document order. -/
theorem listsInOrder_descendants (wf : a.WellFormed) (id : NodeId) :
    a.ListsInOrder (TransGen a.Above id) (a.descendants id) :=
  ⟨fun _ => wf.mem_descendants_iff, wf.nodup_descendants id, wf.pairwise_descendants id⟩

end WellFormed

/-- A list in order stays one when only some of its nodes are kept. -/
theorem ListsInOrder.filter {p q : NodeId → Prop} {ids : List NodeId} (h : a.ListsInOrder p ids)
    {test : NodeId → Bool} (hTest : ∀ id, test id = true ↔ q id) :
    a.ListsInOrder (fun id => p id ∧ q id) (ids.filter test) where
  mem_iff id := by rw [List.mem_filter, h.mem_iff, hTest]
  nodup := h.nodup.filter test
  ordered := h.ordered.filter test

/-- What is below a node stands among the descendants of every node above it, in the same order. -/
theorem WellFormed.descendants_eq_filter (wf : a.WellFormed) {upper lower : NodeId}
    (h : ReflTransGen a.Above upper lower) :
    a.descendants lower = (a.descendants upper).filter (· ∈ a.descendants lower) := by
  have hBoth : a.ListsInOrder (fun id => TransGen a.Above upper id ∧ TransGen a.Above lower id)
      ((a.descendants upper).filter (· ∈ a.descendants lower)) :=
    (wf.listsInOrder_descendants upper).filter fun id => by
      rw [decide_eq_true_eq, wf.mem_descendants_iff]
  refine wf.eq_of_listsInOrder (wf.listsInOrder_descendants lower) ⟨fun id => ?_, hBoth.nodup, hBoth.ordered⟩
  rw [hBoth.mem_iff, and_iff_right_of_imp fun hBelow => TransGen.trans_right h hBelow]

end ClassScript.Arena
