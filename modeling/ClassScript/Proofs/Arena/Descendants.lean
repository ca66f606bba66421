import ClassScript.Proofs.Arena.Ancestors
import Mathlib.Data.List.Flatten
import Mathlib.Data.List.Pairwise

/-!
The nodes below a node. No way down is longer than the arena is large, so the trees that an arena is
unfolded to are whole; each node below another stands once among its descendants.
-/

namespace ClassScript.Arena

open Relation

variable {α : Type} {a : Arena α}

namespace WellFormed

/-- A node of the arena has fewer ancestors than there are nodes. -/
theorem length_ancestors_lt (wf : a.WellFormed) {id : NodeId} (h : id.index < a.size) :
    (a.ancestors id).length < a.size :=
  wf.length_climb_lt h a.size

/-- A child stands one step lower than its parent. -/
theorem length_ancestors_child (wf : a.WellFormed) {parent child : NodeId}
    (h : child ∈ a.children parent) :
    (a.ancestors child).length = (a.ancestors parent).length + 1 := by
  rw [wf.ancestors_eq_cons ((wf.mem_children_iff parent child).1 h), List.length_cons]

theorem exists_of_mem_children (wf : a.WellFormed) {parent child : NodeId}
    (h : child ∈ a.children parent) : child.index < a.size :=
  exists_child ((wf.mem_children_iff parent child).1 h)

/-- What holds of a node as soon as it holds of its children holds of every node. -/
theorem induction_below (wf : a.WellFormed) {motive : NodeId → Prop}
    (step : ∀ id, (∀ child ∈ a.children id, motive child) → motive id) (id : NodeId) : motive id := by
  -- A child is one step further from the root, and no node is as far from it as the arena is large.
  induction hRoom : a.size - (a.ancestors id).length using Nat.strong_induction_on generalizing id with
  | _ room ih =>
      apply step id
      intro child hChild
      have hDepth := wf.length_ancestors_child hChild
      have hBound := wf.length_ancestors_lt (wf.exists_of_mem_children hChild)
      exact ih (a.size - (a.ancestors child).length) (by omega) child rfl

end WellFormed

/-- Of two nodes above a third, one is above the other: a node has one way up. -/
theorem above_total {first second lower : NodeId}
    (hFirst : ReflTransGen a.Above first lower) (hSecond : ReflTransGen a.Above second lower) :
    ReflTransGen a.Above first second ∨ ReflTransGen a.Above second first := by
  have hUnique : Relator.RightUnique (Function.swap a.Above) := by
    intro id upper other hUpper hOther
    exact Option.some.inj (hUpper.symm.trans hOther)
  rcases ReflTransGen.total_of_right_unique hUnique hFirst.swap hSecond.swap with h | h
  · exact Or.inr h.swap
  · exact Or.inl h.swap

/-- An id without a node adds no tree. -/
theorem unfold_succ_cons_of_none {id : NodeId} (h : a.node? id = none) (fuel : Nat)
    (ids : List NodeId) : a.unfold (fuel + 1) (id :: ids) = a.unfold (fuel + 1) ids := by
  simp only [unfold, List.foldr_cons, h]

/-- The tree of a node has the trees of its children below it. -/
theorem unfold_succ_cons_of_some {id : NodeId} {node : Node α} (h : a.node? id = some node)
    (fuel : Nat) (ids : List NodeId) :
    a.unfold (fuel + 1) (id :: ids) =
      .cons (id, node.value) (a.unfold fuel (a.children id)) (a.unfold (fuel + 1) ids) := by
  simp only [unfold, List.foldr_cons, children, h]

/-- Trees are labelled with nodes and their values. -/
theorem value?_of_mem_labels_unfold {fuel : Nat} {ids : List NodeId} {label : NodeId × α}
    (h : label ∈ (a.unfold fuel ids).labels) : a.value? label.1 = some label.2 := by
  induction fuel generalizing ids with
  | zero => cases h
  | succ fuel ih =>
      induction ids with
      | nil => cases h
      | cons id ids ihIds =>
          cases hNode : a.node? id with
          | none =>
              rw [unfold_succ_cons_of_none hNode] at h
              exact ihIds h
          | some node =>
              rw [unfold_succ_cons_of_some hNode, Forest.labels, List.mem_cons, List.mem_append] at h
              rcases h with rfl | hBelow | hBeside
              · rw [value?, hNode, Option.map_some]
              · exact ih hBelow
              · exact ihIds hBeside

namespace WellFormed

/-- Unfolding as deep as the arena has room below the roots gives whole trees. -/
theorem unfold_succ_of_le (wf : a.WellFormed) {fuel : Nat} {ids : List NodeId}
    (h : ∀ id ∈ ids, a.size ≤ fuel + (a.ancestors id).length) :
    a.unfold (fuel + 1) ids = a.unfold fuel ids := by
  induction fuel generalizing ids with
  | zero =>
      induction ids with
      | nil => rfl
      | cons id ids ihIds =>
          have hUnknown : a.node? id = none := by
            rw [node?_eq_none_iff]
            apply Nat.le_of_not_lt
            intro hId
            have hBound := wf.length_ancestors_lt hId
            have hRoom := h id List.mem_cons_self
            omega
          rw [unfold_succ_cons_of_none hUnknown,
            ihIds fun other hOther => h other (List.mem_cons_of_mem _ hOther)]
          rfl
  | succ fuel ih =>
      induction ids with
      | nil => rfl
      | cons id ids ihIds =>
          have hIds := ihIds fun other hOther => h other (List.mem_cons_of_mem _ hOther)
          cases hNode : a.node? id with
          | none => rw [unfold_succ_cons_of_none hNode, unfold_succ_cons_of_none hNode, hIds]
          | some node =>
              have hChildren : a.unfold (fuel + 1) (a.children id) = a.unfold fuel (a.children id) := by
                apply ih
                intro child hChild
                have hDepth := wf.length_ancestors_child hChild
                have hRoom := h id List.mem_cons_self
                omega
              rw [unfold_succ_cons_of_some hNode, unfold_succ_cons_of_some hNode, hIds, hChildren]

/-- A tree is its root, the trees below it and the trees beside it. -/
theorem forest_cons (wf : a.WellFormed) {id : NodeId} {node : Node α} (h : a.node? id = some node)
    (ids : List NodeId) :
    a.forest (id :: ids) = .cons (id, node.value) (a.below id) (a.forest ids) := by
  have hBelow : a.below id = a.unfold a.size (a.children id) :=
    wf.unfold_succ_of_le fun _ _ => Nat.le_add_right _ _
  rw [forest, unfold_succ_cons_of_some h, hBelow, forest]

/-- The trees of nodes list each node in front of its descendants. -/
theorem labels_forest (wf : a.WellFormed) {ids : List NodeId} (h : ∀ id ∈ ids, id.index < a.size) :
    (a.forest ids).labels.map (·.1) = ids.flatMap fun id => id :: a.descendants id := by
  induction ids with
  | nil => rfl
  | cons id ids ih =>
      obtain ⟨node, hNode⟩ : ∃ node, a.node? id = some node := by
        rw [← Option.ne_none_iff_exists', ne_eq, node?_eq_none_iff]
        have hId := h id List.mem_cons_self
        omega
      have hIds := ih fun other hOther => h other (List.mem_cons_of_mem _ hOther)
      rw [wf.forest_cons hNode, Forest.labels, List.map_cons, List.map_append, hIds,
        List.flatMap_cons, List.cons_append]
      rfl

/-- The descendants of a node are its children, each followed by its own descendants. -/
theorem descendants_eq (wf : a.WellFormed) (id : NodeId) :
    a.descendants id = (a.children id).flatMap fun child => child :: a.descendants child :=
  wf.labels_forest fun _ => wf.exists_of_mem_children

/-- The list of descendants holds exactly what stands below, at any distance. -/
theorem mem_descendants_iff (wf : a.WellFormed) {upper lower : NodeId} :
    lower ∈ a.descendants upper ↔ TransGen a.Above upper lower := by
  constructor
  · induction upper using wf.induction_below with
    | _ upper ih =>
        intro h
        rw [wf.descendants_eq, List.mem_flatMap] at h
        obtain ⟨child, hChild, h⟩ := h
        have hAbove := (wf.mem_children_iff upper child).1 hChild
        rcases List.mem_cons.1 h with rfl | h
        · exact TransGen.single hAbove
        · exact TransGen.head hAbove (ih child hChild h)
  · intro h
    induction h using TransGen.head_induction_on with
    | single h =>
        rw [wf.descendants_eq, List.mem_flatMap]
        exact ⟨lower, (wf.mem_children_iff _ _).2 h, List.mem_cons_self⟩
    | head h _ ih =>
        rw [wf.descendants_eq, List.mem_flatMap]
        exact ⟨_, (wf.mem_children_iff _ _).2 h, List.mem_cons_of_mem _ ih⟩

/-- A node and its descendants are the nodes that it reaches on ways down. -/
theorem mem_cons_descendants_iff (wf : a.WellFormed) {upper lower : NodeId} :
    lower ∈ upper :: a.descendants upper ↔ ReflTransGen a.Above upper lower := by
  rw [List.mem_cons, wf.mem_descendants_iff, reflTransGen_iff_eq_or_transGen]

/-- Nothing stands below a sibling of its own. -/
theorem eq_of_siblings (wf : a.WellFormed) {parent first second : NodeId}
    (hFirst : a.Above parent first) (hSecond : a.Above parent second)
    (h : ReflTransGen a.Above first second) : first = second := by
  rcases ReflTransGen.cases_tail h with rfl | ⟨upper, hUp, hLast⟩
  · rfl
  · have hUpper : upper = parent := Option.some.inj (hLast.symm.trans hSecond)
    subst hUpper
    exact absurd (TransGen.head' hFirst hUp) (wf.not_transGen_self upper)

/-- Children of one node that reach the same node are the same. -/
theorem eq_of_reach_both (wf : a.WellFormed) {parent first second lower : NodeId}
    (hFirst : a.Above parent first) (hSecond : a.Above parent second)
    (hReachFirst : ReflTransGen a.Above first lower)
    (hReachSecond : ReflTransGen a.Above second lower) : first = second := by
  rcases above_total hReachFirst hReachSecond with h | h
  · exact wf.eq_of_siblings hFirst hSecond h
  · exact (wf.eq_of_siblings hSecond hFirst h).symm

/-- No node is met twice on the way down. -/
theorem nodup_descendants (wf : a.WellFormed) (id : NodeId) : (a.descendants id).Nodup := by
  induction id using wf.induction_below with
  | _ id ih =>
      rw [wf.descendants_eq, List.nodup_flatMap]
      constructor
      · intro child hChild
        refine List.nodup_cons.2 ⟨fun h => ?_, ih child hChild⟩
        exact wf.not_transGen_self child (wf.mem_descendants_iff.1 h)
      · refine (wf.nodup_children id).imp_of_mem fun hFirst hSecond hNe lower hInFirst hInSecond => ?_
        exact hNe (wf.eq_of_reach_both ((wf.mem_children_iff _ _).1 hFirst)
          ((wf.mem_children_iff _ _).1 hSecond) (wf.mem_cons_descendants_iff.1 hInFirst)
          (wf.mem_cons_descendants_iff.1 hInSecond))

end WellFormed

end ClassScript.Arena
