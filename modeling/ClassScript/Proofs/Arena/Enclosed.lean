import ClassScript.Proofs.Arena.OrderedForest

/-!
Nodes among which one can work without touching any other. No link leads from one of them to another node,
and the nodes that are still to be created are among them. Creating, attaching and detaching keep it so,
and everything that is above, below or beside an outer node stays as it was.
-/

namespace ClassScript.Arena

open Relation

variable {α : Type} {a b c : Arena α} {inside : NodeId → Prop} {id upper lower : NodeId}

/-- The topmost node of the tree that a node is in. -/
def topmost (a : Arena α) (id : NodeId) : NodeId := (a.ancestors id).getLastD id

namespace WellFormed

/-- What stands above a node has the same topmost node. -/
theorem topmost_eq (wf : a.WellFormed) (h : a.Above upper lower) :
    a.topmost lower = a.topmost upper := by
  rw [topmost, wf.ancestors_eq_cons h, List.getLastD_cons, topmost]

/-- The topmost node over a node of the arena is in the arena. -/
theorem topmost_lt_size (wf : a.WellFormed) (h : id.index < a.size) : (a.topmost id).index < a.size := by
  induction wf.wellFounded_above.apply id with
  | intro id _ ih =>
      cases hParent : a.parent? id with
      | none =>
          rw [topmost, ancestors_of_parent?_eq_none hParent]
          exact h
      | some parent =>
          rw [wf.topmost_eq hParent]
          exact ih parent hParent (wf.exists_parent hParent)

end WellFormed

/-- A node that was not created is in no tree but its own. -/
theorem topmost_of_size_le (h : a.size ≤ id.index) : a.topmost id = id := by
  have hParent : a.parent? id = none := by
    rw [parent?, (node?_eq_none_iff a id).mpr h, Option.bind_none]
  rw [topmost, ancestors_of_parent?_eq_none hParent]
  rfl

/-- With a node, the nodes that it is linked to are inside, and so are all nodes that are still to be
created. -/
structure Enclosed (a : Arena α) (inside : NodeId → Prop) : Prop where
  above_iff : ∀ upper lower, a.Above upper lower → (inside upper ↔ inside lower)
  fresh : ∀ id, a.size ≤ id.index → inside id

/-- The nodes of a tree together with those still to be created. -/
theorem WellFormed.enclosed_topmost (wf : a.WellFormed) (top : NodeId) :
    a.Enclosed fun id => a.topmost id = top ∨ a.size ≤ id.index where
  above_iff upper lower h := by
    have hUpper := wf.exists_parent h
    have hLower := exists_child h
    rw [wf.topmost_eq h]
    constructor <;> rintro (hTop | hFresh)
    · exact .inl hTop
    · omega
    · exact .inl hTop
    · omega
  fresh _ := .inr

/-- Outer nodes are as they were. -/
structure SameOutside (inside : NodeId → Prop) (a b : Arena α) : Prop where
  value?_eq : ∀ id, ¬ inside id → b.value? id = a.value? id
  parent?_eq : ∀ id, ¬ inside id → b.parent? id = a.parent? id
  children_eq : ∀ id, ¬ inside id → b.children id = a.children id

theorem SameOutside.refl (inside : NodeId → Prop) (a : Arena α) : SameOutside inside a a :=
  ⟨fun _ _ => rfl, fun _ _ => rfl, fun _ _ => rfl⟩

/-- What two steps in a row leave alone is left alone by both together. -/
theorem SameOutside.trans (hFirst : SameOutside inside a b) (hNext : SameOutside inside b c) :
    SameOutside inside a c where
  value?_eq id hId := (hNext.value?_eq id hId).trans (hFirst.value?_eq id hId)
  parent?_eq id hId := (hNext.parent?_eq id hId).trans (hFirst.parent?_eq id hId)
  children_eq id hId := (hNext.children_eq id hId).trans (hFirst.children_eq id hId)

namespace Enclosed

variable (enclosed : a.Enclosed inside)

include enclosed

/-- New links between inner nodes, instead of others or besides them, leave them enclosed. -/
theorem of_links (hSize : a.size ≤ b.size)
    (hLinks : ∀ upper lower, b.Above upper lower → a.Above upper lower ∨ inside upper ∧ inside lower) :
    b.Enclosed inside where
  above_iff upper lower h := by
    rcases hLinks upper lower h with hOld | ⟨hUpper, hLower⟩
    · exact enclosed.above_iff upper lower hOld
    · exact iff_of_true hUpper hLower
  fresh id h := enclosed.fresh id (hSize.trans h)

/-- A new node counts as an inner one, and no link leads to it. -/
theorem create (value : α) :
    (a.create value).2.Enclosed inside ∧ SameOutside inside a (a.create value).2 := by
  refine ⟨enclosed.of_links ?_ fun upper lower h => ?_, fun id hId => ?_, fun id _ => ?_, fun id _ => ?_⟩
  · simp [Arena.create, size]
  · rw [Above, parent?_create] at h
    exact .inl h
  · have hOld : id ≠ ⟨a.size⟩ := by
      rintro rfl
      exact hId (enclosed.fresh _ (Nat.le_refl _))
    rw [value?_create, if_neg hOld]
  · exact parent?_create a value id
  · exact children_create a value id

/-- A new value of an inner node shows nowhere outside. -/
theorem setValue {target : NodeId} (hTarget : inside target) (value : α) :
    (a.setValue target value).Enclosed inside ∧ SameOutside inside a (a.setValue target value) := by
  refine ⟨enclosed.of_links ?_ fun upper lower h => ?_, fun id hId => ?_, fun id _ => ?_, fun id _ => ?_⟩
  · rw [Arena.setValue, size_modify]
  · rw [Above, parent?_setValue] at h
    exact .inl h
  · rw [value?_setValue, if_neg]
    rintro rfl
    exact hId hTarget
  · exact parent?_setValue a target value id
  · exact children_setValue a target value id

/-- Detaching an inner node shows nowhere outside, since its parent is an inner one too. -/
theorem detach {target : NodeId} (hTarget : inside target) :
    (a.detach target).Enclosed inside ∧ SameOutside inside a (a.detach target) := by
  refine ⟨enclosed.of_links ?_ fun upper lower h => ?_, fun id _ => ?_, fun id hId => ?_, fun id hId => ?_⟩
  · rw [size_detach]
  · rw [Above, parent?_detach] at h
    split at h
    · cases h
    · exact .inl h
  · exact value?_detach a target id
  · rw [parent?_detach, if_neg]
    rintro rfl
    exact hId hTarget
  · rw [children_detach, if_neg]
    exact fun hParent => hId ((enclosed.above_iff id target hParent).mpr hTarget)

/-- Attaching an inner node to another shows nowhere outside. -/
theorem attach {parent child : NodeId} (hParent : parent.index < a.size) (hChild : child.index < a.size)
    (hInParent : inside parent) (hInChild : inside child) :
    (a.attach parent child).Enclosed inside ∧ SameOutside inside a (a.attach parent child) := by
  refine ⟨enclosed.of_links ?_ fun upper lower h => ?_, fun id _ => ?_, fun id hId => ?_, fun id hId => ?_⟩
  · rw [size_attach]
  · rw [Above, parent?_attach hChild] at h
    split at h
    · next hLower =>
        cases h
        exact .inr ⟨hInParent, hLower ▸ hInChild⟩
    · exact .inl h
  · exact value?_attach a parent child id
  · rw [parent?_attach hChild, if_neg]
    rintro rfl
    exact hId hInChild
  · have hNe : id ≠ parent := by
      rintro rfl
      exact hId hInParent
    rw [children_attach hParent, if_neg hNe, List.append_nil]
    exact (enclosed.detach hInChild).2.children_eq id hId

/-- No link leads in from outside, so nothing enclosed stands below a node outside. -/
theorem not_inside_of_below (hId : ¬ inside id) (h : ReflTransGen a.Above id lower) : ¬ inside lower := by
  induction h with
  | refl => exact hId
  | tail _ hAbove ih => exact fun hLower => ih ((enclosed.above_iff _ _ hAbove).mpr hLower)

/-- No link leads out from inside, so nothing enclosed stands above a node outside. -/
theorem not_inside_of_above (hId : ¬ inside id) (h : TransGen a.Above upper id) : ¬ inside upper := by
  induction h using TransGen.head_induction_on with
  | single hAbove => exact fun hUpper => hId ((enclosed.above_iff _ _ hAbove).mp hUpper)
  | head hAbove _ ih => exact fun hUpper => ih ((enclosed.above_iff _ _ hAbove).mp hUpper)

variable (wfA : a.WellFormed) (wfB : b.WellFormed) (same : SameOutside inside a b)

include wfA wfB same

/-- What stands below a node outside stays, with its values. -/
theorem below_eq (hId : ¬ inside id) : b.below id = a.below id :=
  below_congr wfA wfB
    (fun _ hLower => same.children_eq _ (enclosed.not_inside_of_below hId hLower))
    fun _ hLower => same.value?_eq _ (enclosed.not_inside_of_below hId hLower.to_reflTransGen)

theorem forest_eq (hId : ¬ inside id) : b.forest [id] = a.forest [id] := by
  have hExists : id.index < a.size := Nat.lt_of_not_le (mt (enclosed.fresh id) hId)
  obtain ⟨value, hValue⟩ := Option.ne_none_iff_exists'.mp (value?_ne_none_iff.mpr hExists)
  rw [wfA.forest_cons_of_value? hValue,
    wfB.forest_cons_of_value? ((same.value?_eq id hId).trans hValue),
    enclosed.below_eq wfA wfB same hId]
  rfl

theorem descendants_eq (hId : ¬ inside id) : b.descendants id = a.descendants id := by
  rw [descendants, enclosed.below_eq wfA wfB same hId, descendants]

end Enclosed

end ClassScript.Arena
