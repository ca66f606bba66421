import ClassScript.Arena

/-!
What is seen of an arena after an operation: the value of a node, the node above it and the nodes
below it.
-/

namespace ClassScript.Arena

variable {α : Type}

theorem node?_eq_none_iff (a : Arena α) (id : NodeId) : a.node? id = none ↔ a.size ≤ id.index := by
  simp [node?, size]

/-- There is a value exactly at the ids of the arena. -/
theorem value?_ne_none_iff {a : Arena α} {id : NodeId} : a.value? id ≠ none ↔ id.index < a.size := by
  rw [value?, ne_eq, Option.map_eq_none_iff, node?_eq_none_iff, Nat.not_le]

theorem children_eq (a : Arena α) (id : NodeId) :
    a.children id = ((a.node? id).map (·.children)).getD [] := by
  rw [children]
  cases a.node? id <;> rfl

/-- A change that keeps the parent of every node it meets changes no parent. -/
theorem parent?_modify_of_eq (a : Arena α) (target : NodeId) {f : Node α → Node α}
    (hKeep : ∀ node, (f node).parent = node.parent) (id : NodeId) :
    (a.modify target f).parent? id = a.parent? id := by
  rw [parent?, node?_modify, parent?]
  split
  · cases a.node? id with
    | none => rfl
    | some node => exact hKeep node
  · rfl

/-- Children stay where a modification does not touch them. -/
theorem children_modify_of_eq (a : Arena α) (target : NodeId) {f : Node α → Node α}
    (hKeep : ∀ node, (f node).children = node.children) (id : NodeId) :
    (a.modify target f).children id = a.children id := by
  rw [children_eq, node?_modify, children_eq]
  split
  · cases a.node? id with
    | none => rfl
    | some node => exact hKeep node
  · rfl

/-- Values stay where a modification does not touch them. -/
theorem value?_modify_of_eq (a : Arena α) (target : NodeId) {f : Node α → Node α}
    (hKeep : ∀ node, (f node).value = node.value) (id : NodeId) :
    (a.modify target f).value? id = a.value? id := by
  rw [value?, node?_modify, value?]
  split
  · cases a.node? id with
    | none => rfl
    | some node => exact congrArg some (hKeep node)
  · rfl

/-- Creating a node puts nothing above any other. -/
@[simp] theorem parent?_create (a : Arena α) (value : α) (id : NodeId) :
    (a.create value).2.parent? id = a.parent? id := by
  rw [parent?, node?_create]
  split
  · next h => simp [parent?, (node?_eq_none_iff a id).2 (by simp [h])]
  · rfl

/-- Creating a node puts nothing below any other. -/
@[simp] theorem children_create (a : Arena α) (value : α) (id : NodeId) :
    (a.create value).2.children id = a.children id := by
  rw [children_eq, node?_create]
  split
  · next h => simp [children_eq, (node?_eq_none_iff a id).2 (by simp [h])]
  · rw [children_eq]

/-- Only the new node has the new value. -/
theorem value?_create (a : Arena α) (value : α) (id : NodeId) :
    (a.create value).2.value? id = if id = ⟨a.size⟩ then some value else a.value? id := by
  rw [value?, node?_create]
  split <;> rfl

@[simp] theorem parent?_setValue (a : Arena α) (target : NodeId) (value : α) (id : NodeId) :
    (a.setValue target value).parent? id = a.parent? id := by
  rw [setValue, parent?_modify_of_eq]
  exact fun _ => rfl

@[simp] theorem children_setValue (a : Arena α) (target : NodeId) (value : α) (id : NodeId) :
    (a.setValue target value).children id = a.children id := by
  rw [setValue, children_modify_of_eq]
  exact fun _ => rfl

/-- Only the node that is set has the new value. -/
theorem value?_setValue (a : Arena α) (target : NodeId) (value : α) (id : NodeId) :
    (a.setValue target value).value? id =
      if target = id then (a.value? id).map fun _ => value else a.value? id := by
  rw [setValue, value?, node?_modify, value?]
  split
  · cases a.node? id <;> rfl
  · rfl

/-- Detaching clears the parent of one node. -/
theorem parent?_detach (a : Arena α) (id other : NodeId) :
    (a.detach id).parent? other = if other = id then none else a.parent? other := by
  rw [detach]
  cases hParent : a.parent? id with
  | none =>
      by_cases h : other = id
      · rw [if_pos h, h, hParent]
      · rw [if_neg h]
  | some parent =>
      have hKeep := a.parent?_modify_of_eq parent
        (f := fun node => { node with children := node.children.erase id }) (fun _ => rfl) other
      by_cases h : other = id
      · subst h
        rw [if_pos rfl, parent?, node?_modify, if_pos rfl]
        cases (a.modify parent _).node? other <;> rfl
      · rw [if_neg h, ← hKeep, parent?, node?_modify, if_neg (Ne.symm h)]
        rfl

/-- Detaching takes a node out of the children of its parent, and changes no other list. -/
theorem children_detach (a : Arena α) (id other : NodeId) :
    (a.detach id).children other =
      if a.parent? id = some other then (a.children other).erase id else a.children other := by
  rw [detach]
  cases hParent : a.parent? id with
  | none => rfl
  | some parent =>
      simp only [Option.some.injEq]
      rw [children_modify_of_eq, children_eq, node?_modify, children_eq]
      · split
        · cases a.node? other <;> rfl
        · rfl
      · exact fun _ => rfl

@[simp] theorem value?_detach (a : Arena α) (id other : NodeId) :
    (a.detach id).value? other = a.value? other := by
  rw [detach]
  cases a.parent? id with
  | none => rfl
  | some parent =>
      simp only
      rw [value?_modify_of_eq, value?_modify_of_eq] <;> exact fun _ => rfl

/-- Attaching gives one node a new parent. -/
theorem parent?_attach {a : Arena α} {child : NodeId} (hChild : child.index < a.size)
    (parent other : NodeId) :
    (a.attach parent child).parent? other =
      if other = child then some parent else a.parent? other := by
  rw [attach, parent?, node?_modify]
  by_cases h : other = child
  · subst h
    rw [if_pos rfl, if_pos rfl]
    obtain ⟨node, hNode⟩ : ∃ node, ((a.detach other).modify parent fun node =>
        { node with children := node.children ++ [other] }).node? other = some node := by
      rw [← Option.ne_none_iff_exists', ne_eq, node?_eq_none_iff, size_modify, size_detach]
      omega
    rw [hNode]
    rfl
  · rw [if_neg h, if_neg (Ne.symm h), ← parent?, parent?_modify_of_eq, parent?_detach, if_neg h]
    exact fun _ => rfl

/-- Attaching puts a node behind the children of its new parent. -/
theorem children_attach {a : Arena α} {parent : NodeId} (hParent : parent.index < a.size)
    (child other : NodeId) :
    (a.attach parent child).children other =
      (a.detach child).children other ++ if other = parent then [child] else [] := by
  rw [attach, children_modify_of_eq, children_eq, node?_modify, children_eq]
  · by_cases h : other = parent
    · subst h
      obtain ⟨node, hNode⟩ : ∃ node, (a.detach child).node? other = some node := by
        rw [← Option.ne_none_iff_exists', ne_eq, node?_eq_none_iff, size_detach]
        omega
      simp [hNode]
    · rw [if_neg h, if_neg (Ne.symm h), List.append_nil]
  · exact fun _ => rfl

@[simp] theorem value?_attach (a : Arena α) (parent child other : NodeId) :
    (a.attach parent child).value? other = a.value? other := by
  rw [attach, value?_modify_of_eq, value?_modify_of_eq, value?_detach] <;> exact fun _ => rfl

end ClassScript.Arena
