import ClassScript.Proofs.Arena.Links
import Mathlib.Data.List.Nodup
import Mathlib.Logic.Relation
import Mathlib.Order.WellFounded

/-!
Arenas in which the links of both directions agree. A node stands among the children of exactly the
node it names as its parent, once, and going up from a node comes to an end. Creating, detaching and
attaching keep this, as long as no node is attached to itself or to a node below it.
-/

namespace ClassScript.Arena

open Relation

variable {α : Type}

/-- `upper` is the node just above `lower`. -/
def Above (a : Arena α) (upper lower : NodeId) : Prop := a.parent? lower = some upper

structure WellFormed (a : Arena α) : Prop where
  mem_children_iff : ∀ parent child, child ∈ a.children parent ↔ a.Above parent child
  nodup_children : ∀ parent, (a.children parent).Nodup
  wellFounded_above : WellFounded a.Above

namespace WellFormed

variable {a b : Arena α}

/-- Only the links count, and neither the values nor the number of the nodes. -/
theorem congr (wf : a.WellFormed) (hParent : ∀ id, b.parent? id = a.parent? id)
    (hChildren : ∀ id, b.children id = a.children id) : b.WellFormed := by
  have hAbove : b.Above = a.Above := by
    funext upper lower
    rw [Above, hParent, Above]
  refine ⟨?_, ?_, ?_⟩
  · intro parent child
    rw [hChildren, hAbove]
    exact wf.mem_children_iff parent child
  · intro parent
    rw [hChildren]
    exact wf.nodup_children parent
  · rw [hAbove]
    exact wf.wellFounded_above

/-- A node that nothing is linked to breaks nothing. -/
theorem create (wf : a.WellFormed) (value : α) : (a.create value).2.WellFormed :=
  wf.congr (parent?_create a value) (children_create a value)

theorem setValue (wf : a.WellFormed) (id : NodeId) (value : α) : (a.setValue id value).WellFormed :=
  wf.congr (parent?_setValue a id value) (children_setValue a id value)

/-- Nodes that are taken out lose their parents and their places among the children of these. -/
theorem takeOut (wf : a.WellFormed) {gone : NodeId → Prop} [DecidablePred gone]
    (hParent : ∀ id, b.parent? id = if gone id then none else a.parent? id)
    (hChildren : ∀ id, b.children id = (a.children id).filter fun child => ¬ gone child) :
    b.WellFormed := by
  refine ⟨fun parent child => ?_, fun parent => ?_, ?_⟩
  · rw [hChildren, List.mem_filter, wf.mem_children_iff, Above, Above, hParent]
    split <;> simp [*]
  · rw [hChildren]
    exact (wf.nodup_children parent).filter _
  · have hSub : Subrelation b.Above a.Above := by
      intro upper lower h
      rw [Above, hParent] at h
      split at h
      · cases h
      · exact h
    exact hSub.wf wf.wellFounded_above

/-- A node that is detached stands in no list of children any more, and no other node has left one. -/
theorem children_detach_eq_filter (wf : a.WellFormed) (id other : NodeId) :
    (a.detach id).children other = (a.children other).filter (· ≠ id) := by
  rw [children_detach]
  split
  · rw [(wf.nodup_children other).erase_eq_filter]
    exact List.filter_congr fun child _ => Bool.eq_iff_iff.mpr (by simp)
  · next hNot =>
      have hAway : ∀ child ∈ a.children other, child ≠ id := by
        rintro child hChild rfl
        exact hNot ((wf.mem_children_iff other child).mp hChild)
      rw [List.filter_eq_self.mpr (by simpa using hAway)]

/-- What is taken out of its place is a tree of its own. -/
theorem detach (wf : a.WellFormed) (id : NodeId) : (a.detach id).WellFormed :=
  wf.takeOut (parent?_detach a id) (wf.children_detach_eq_filter id)

/-- A way up that does not meet `child` is the same way after `child` was given a new parent. The
new parent is reached on such a way, so `child` has an end above it as before. -/
theorem wellFounded_above_of_parent? (wf : a.WellFormed) {parent child : NodeId}
    (hParent : ∀ id, b.parent? id = if id = child then some parent else a.parent? id)
    (hApart : ¬ ReflTransGen a.Above child parent) : WellFounded b.Above := by
  have hOld : ∀ upper lower, lower ≠ child → b.Above upper lower → a.Above upper lower := by
    intro upper lower hNe h
    rw [Above, hParent, if_neg hNe] at h
    exact h
  have hElsewhere : ∀ id, ¬ ReflTransGen a.Above child id → Acc b.Above id := by
    intro id
    induction wf.wellFounded_above.apply id with
    | intro id _ ih =>
        intro hNot
        refine Acc.intro id fun upper hUpper => ?_
        have hNe : id ≠ child := by
          intro h
          exact hNot (h ▸ ReflTransGen.refl)
        have hAbove := hOld upper id hNe hUpper
        exact ih upper hAbove fun h => hNot (h.tail hAbove)
  have hChild : Acc b.Above child := by
    refine Acc.intro child fun upper hUpper => ?_
    rw [Above, hParent, if_pos rfl, Option.some.injEq] at hUpper
    exact hUpper ▸ hElsewhere parent hApart
  refine ⟨fun id => ?_⟩
  induction wf.wellFounded_above.apply id with
  | intro id _ ih =>
      by_cases h : id = child
      · exact h ▸ hChild
      · exact Acc.intro id fun upper hUpper => ih upper (hOld upper id h hUpper)

/-- A node can be put below another one that does not stand below it. -/
theorem attach (wf : a.WellFormed) {parent child : NodeId} (hParent : parent.index < a.size)
    (hChild : child.index < a.size) (hApart : ¬ ReflTransGen a.Above child parent) :
    (a.attach parent child).WellFormed := by
  have wfDetached := wf.detach child
  have hFree : child ∉ (a.detach child).children parent := by
    rw [wfDetached.mem_children_iff, Above, parent?_detach, if_pos rfl]
    simp
  refine ⟨?_, ?_, wf.wellFounded_above_of_parent? (parent?_attach hChild parent) hApart⟩
  · intro upper lower
    rw [Above, parent?_attach hChild, children_attach hParent, List.mem_append,
      wfDetached.mem_children_iff, Above, parent?_detach]
    by_cases hLower : lower = child
    · subst hLower
      by_cases hUpper : upper = parent
      · simp [hUpper]
      · simp [hUpper, Ne.symm hUpper]
    · by_cases hUpper : upper = parent
      · simp [hUpper, hLower]
      · simp [hUpper, hLower]
  · intro upper
    rw [children_attach hParent]
    by_cases hUpper : upper = parent
    · subst hUpper
      rw [if_pos rfl]
      exact (wfDetached.nodup_children upper).append (List.nodup_singleton child) (by simpa using hFree)
    · rw [if_neg hUpper, List.append_nil]
      exact wfDetached.nodup_children upper

/-- What stands above something is a node of the arena. -/
theorem exists_parent (wf : a.WellFormed) {parent child : NodeId} (h : a.Above parent child) :
    parent.index < a.size := by
  by_contra hNot
  have hMem := (wf.mem_children_iff parent child).2 h
  rw [children_eq, (node?_eq_none_iff a parent).2 (Nat.le_of_not_lt hNot)] at hMem
  simp at hMem

/-- Nothing stands above itself. -/
theorem not_transGen_self (wf : a.WellFormed) (id : NodeId) : ¬ TransGen a.Above id id :=
  wf.wellFounded_above.transGen.irrefl.irrefl id

end WellFormed

/-- What stands below something is a node of the arena. -/
theorem exists_child {a : Arena α} {parent child : NodeId} (h : a.Above parent child) :
    child.index < a.size := by
  by_contra hNot
  rw [Above, parent?, (node?_eq_none_iff a child).2 (Nat.le_of_not_lt hNot)] at h
  simp at h

end ClassScript.Arena
