import ClassScript.Proofs.Arena.Descendants

/-!
Well-formed arenas are ordered forests, and what attaching and detaching do to such a forest: which lists
of children change, which nodes have another parent, and that a tree that is taken out stays whole.
-/

namespace ClassScript.Arena

open Relation

variable {α : Type} {a b : Arena α}

/-- Every node stands once among the children of its parent and nowhere else, no node is above itself,
and what is below a node is told once, parents before children and siblings in their order. -/
structure OrderedForest (a : Arena α) : Prop where
  count_children : ∀ parent child,
    (a.children parent).count child = if a.parent? child = some parent then 1 else 0
  acyclic : ∀ id, ¬ TransGen a.Above id id
  mem_descendants_iff : ∀ upper lower, lower ∈ a.descendants upper ↔ TransGen a.Above upper lower
  nodup_descendants : ∀ id, (a.descendants id).Nodup
  descendants_eq : ∀ id,
    a.descendants id = (a.children id).flatMap fun child => child :: a.descendants child

/-- The two kinds of links of a well-formed arena agree, and make trees with an order. -/
theorem WellFormed.orderedForest (wf : a.WellFormed) : a.OrderedForest where
  count_children parent child := by
    have hMem := wf.mem_children_iff parent child
    rw [Above] at hMem
    split
    · next hParent => exact List.count_eq_one_of_mem (wf.nodup_children parent) (hMem.mpr hParent)
    · next hNot => exact List.count_eq_zero_of_not_mem (mt hMem.mp hNot)
  acyclic := wf.not_transGen_self
  mem_descendants_iff _ _ := wf.mem_descendants_iff
  nodup_descendants := wf.nodup_descendants
  descendants_eq := wf.descendants_eq

/-- A node was made the last child of another. It is gone from where it was, and everything else is as it
was. -/
structure MovedLast (a : Arena α) (parent child : NodeId) (changed : Arena α) : Prop where
  size_eq : changed.size = a.size
  value?_eq : ∀ id, changed.value? id = a.value? id
  parent?_eq : ∀ id, changed.parent? id = if id = child then some parent else a.parent? id
  children_parent : changed.children parent = (a.children parent).filter (· ≠ child) ++ [child]
  children_former : ∀ former, a.parent? child = some former → former ≠ parent →
    changed.children former = (a.children former).filter (· ≠ child)
  children_other : ∀ id, a.parent? child ≠ some id → id ≠ parent → changed.children id = a.children id

/-- Attaching takes a node with all that is below it from where it was, and puts it last. -/
theorem WellFormed.movedLast_attach (wf : a.WellFormed) {parent child : NodeId}
    (hParent : parent.index < a.size) (hChild : child.index < a.size) :
    a.MovedLast parent child (a.attach parent child) where
  size_eq := size_attach a parent child
  value?_eq := value?_attach a parent child
  parent?_eq := parent?_attach hChild parent
  children_parent := by rw [children_attach hParent, if_pos rfl, wf.children_detach_eq_filter]
  children_former former _ hNe := by
    rw [children_attach hParent, if_neg hNe, List.append_nil, wf.children_detach_eq_filter]
  children_other id hNot hNe := by
    rw [children_attach hParent, if_neg hNe, List.append_nil, children_detach, if_neg hNot]

/-- The trees of nodes are one tree after the other. -/
theorem WellFormed.forest_cons_of_value? (wf : a.WellFormed) {id : NodeId} {value : α}
    (h : a.value? id = some value) (ids : List NodeId) :
    a.forest (id :: ids) = .cons (id, value) (a.below id) (a.forest ids) := by
  obtain ⟨node, hNode, rfl⟩ := Option.map_eq_some_iff.mp h
  exact wf.forest_cons hNode ids

/-- What is below a node is the same in two arenas in which all nodes from there on have the same values
and the same children. -/
theorem below_congr (wfA : a.WellFormed) (wfB : b.WellFormed) {id : NodeId}
    (hChildren : ∀ lower, ReflTransGen a.Above id lower → b.children lower = a.children lower)
    (hValue : ∀ lower, TransGen a.Above id lower → b.value? lower = a.value? lower) :
    b.below id = a.below id := by
  induction id using wfA.induction_below with
  | _ id ih =>
      have hForest : ∀ ids, (∀ child ∈ ids, child ∈ a.children id) → b.forest ids = a.forest ids := by
        intro ids hIds
        induction ids with
        | nil => rfl
        | cons child rest ihRest =>
            obtain ⟨hChild, hRest⟩ := List.forall_mem_cons.mp hIds
            have hAbove := (wfA.mem_children_iff id child).mp hChild
            obtain ⟨value, hSome⟩ :=
              Option.ne_none_iff_exists'.mp (value?_ne_none_iff.mpr (wfA.exists_of_mem_children hChild))
            have hSame := (hValue child (TransGen.single hAbove)).trans hSome
            have hBelow := ih child hChild
              (fun lower hLower => hChildren lower (ReflTransGen.head hAbove hLower))
              (fun lower hLower => hValue lower (TransGen.head hAbove hLower))
            rw [wfA.forest_cons_of_value? hSome, wfB.forest_cons_of_value? hSame, hBelow, ihRest hRest]
      rw [below, below, hChildren id ReflTransGen.refl]
      exact hForest _ fun _ h => h

/-- A node was taken out from below its parent, if it had one, together with what is below it. -/
structure TakenOut (a : Arena α) (id : NodeId) (changed : Arena α) : Prop where
  size_eq : changed.size = a.size
  value?_eq : ∀ other, changed.value? other = a.value? other
  parent?_eq : ∀ other, changed.parent? other = if other = id then none else a.parent? other
  children_former : ∀ former, a.parent? id = some former →
    changed.children former = (a.children former).filter (· ≠ id)
  children_other : ∀ other, a.parent? id ≠ some other → changed.children other = a.children other
  below_eq : changed.below id = a.below id

/-- Detaching takes a node away from its parent and from nowhere else. -/
theorem WellFormed.takenOut_detach (wf : a.WellFormed) (id : NodeId) : a.TakenOut id (a.detach id) where
  size_eq := size_detach a id
  value?_eq := value?_detach a id
  parent?_eq := parent?_detach a id
  children_former former _ := wf.children_detach_eq_filter id former
  children_other other hNot := by rw [children_detach, if_neg hNot]
  below_eq := by
    refine below_congr wf (wf.detach id) (fun lower hLower => ?_) fun lower _ => value?_detach a id lower
    -- No node of the tree is above its root.
    have hNot : a.parent? id ≠ some lower := fun hAbove =>
      wf.not_transGen_self id (TransGen.tail' hLower hAbove)
    rw [children_detach, if_neg hNot]

end ClassScript.Arena
