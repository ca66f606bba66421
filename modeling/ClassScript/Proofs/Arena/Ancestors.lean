import ClassScript.Proofs.Arena.WellFormed

/-!
The nodes above a node. In a well-formed arena no node stands twice on a way up, so a way up is
shorter than the arena is large and `ancestors` reaches its end.
-/

namespace ClassScript.Arena

open Relation

variable {α : Type} {a : Arena α}

/-- What is met on the way up stands above. -/
theorem transGen_of_mem_climb {fuel : Nat} {id upper : NodeId} (h : upper ∈ a.climb fuel id) :
    TransGen a.Above upper id := by
  induction fuel generalizing id with
  | zero => cases h
  | succ fuel ih =>
      rw [climb] at h
      cases hParent : a.parent? id with
      | none => simp [hParent] at h
      | some parent =>
          simp only [hParent, List.mem_cons] at h
          rcases h with rfl | h
          · exact TransGen.single hParent
          · exact (ih h).tail hParent

/-- A way up that ends before its steps are used up does not change with more steps. -/
theorem climb_succ_of_length_lt {fuel : Nat} {id : NodeId} (h : (a.climb fuel id).length < fuel) :
    a.climb (fuel + 1) id = a.climb fuel id := by
  induction fuel generalizing id with
  | zero => cases h
  | succ fuel ih =>
      rw [climb] at h
      rw [climb, climb]
      cases hParent : a.parent? id with
      | none => rfl
      | some parent =>
          simp only [hParent, List.length_cons] at h
          simp only
          rw [ih (Nat.lt_of_succ_lt_succ h)]

theorem ancestors_of_parent?_eq_none {id : NodeId} (h : a.parent? id = none) :
    a.ancestors id = [] := by
  rw [ancestors]
  cases a.size with
  | zero => rfl
  | succ n => rw [climb, h]

/-- Distinct nodes of an arena are no more than its size. -/
theorem length_le_size_of_nodup {ids : List NodeId} (hNodup : ids.Nodup)
    (hIds : ∀ id ∈ ids, id.index < a.size) : ids.length ≤ a.size := by
  have hIndices : (ids.map NodeId.index).Nodup :=
    hNodup.map fun first second h => NodeId.ext h
  have hSub : ids.map NodeId.index ⊆ List.range a.size := by
    intro index h
    obtain ⟨id, hId, rfl⟩ := List.mem_map.1 h
    exact List.mem_range.2 (hIds id hId)
  simpa using hIndices.length_le_of_subset hSub

namespace WellFormed

/-- No node is met twice on the way up, since nothing stands above itself. -/
theorem nodup_cons_climb (wf : a.WellFormed) (fuel : Nat) (id : NodeId) :
    (id :: a.climb fuel id).Nodup := by
  induction fuel generalizing id with
  | zero => simp [climb]
  | succ fuel ih =>
      refine List.nodup_cons.2 ⟨fun h => wf.not_transGen_self id (transGen_of_mem_climb h), ?_⟩
      rw [climb]
      cases a.parent? id with
      | none => exact List.nodup_nil
      | some parent => exact ih parent

theorem exists_of_transGen (wf : a.WellFormed) {upper lower : NodeId}
    (h : TransGen a.Above upper lower) : upper.index < a.size := by
  induction h using TransGen.head_induction_on with
  | single h => exact wf.exists_parent h
  | head h _ _ => exact wf.exists_parent h

/-- The way up is shorter than the number of nodes, so it needs no more steps than there are nodes. -/
theorem length_climb_lt (wf : a.WellFormed) {id : NodeId} (hId : id.index < a.size) (fuel : Nat) :
    (a.climb fuel id).length < a.size := by
  have hLe := length_le_size_of_nodup (wf.nodup_cons_climb fuel id) (a := a) (by
    intro other h
    rcases List.mem_cons.1 h with rfl | h
    · exact hId
    · exact wf.exists_of_transGen (transGen_of_mem_climb h))
  rw [List.length_cons] at hLe
  omega

/-- The nodes above a node are the one just above it and the nodes above that. -/
theorem ancestors_eq_cons (wf : a.WellFormed) {parent id : NodeId} (h : a.Above parent id) :
    a.ancestors id = parent :: a.ancestors parent := by
  have hId := exists_child h
  obtain ⟨n, hSize⟩ : ∃ n, a.size = n + 1 := ⟨a.size - 1, by omega⟩
  have hClimb : a.climb (n + 1) id = parent :: a.climb n parent := by
    rw [climb, h]
  have hLength := wf.length_climb_lt hId (n + 1)
  rw [hClimb, hSize, List.length_cons] at hLength
  rw [ancestors, ancestors, hSize, hClimb, climb_succ_of_length_lt (Nat.lt_of_succ_lt_succ hLength)]

/-- The list of ancestors holds exactly what stands above, at any distance. -/
theorem mem_ancestors_iff (wf : a.WellFormed) {upper lower : NodeId} :
    upper ∈ a.ancestors lower ↔ TransGen a.Above upper lower := by
  constructor
  · exact transGen_of_mem_climb
  · intro h
    induction h with
    | single h =>
        rw [wf.ancestors_eq_cons h]
        exact List.mem_cons_self
    | tail _ h ih =>
        rw [wf.ancestors_eq_cons h]
        exact List.mem_cons_of_mem _ ih

end WellFormed

end ClassScript.Arena
