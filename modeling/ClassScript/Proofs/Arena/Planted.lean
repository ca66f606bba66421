import ClassScript.Proofs.Arena.OrderedForest

/-!
Trees that are planted below a node: each node is created and put in its place before the nodes below it.
Then the new nodes are numbered as they stand in document order, and nothing is different of the old ones
but that the children of one of them go on with the roots of the new trees.
-/

namespace ClassScript

namespace Forest

variable {α : Type}

def append : Forest α → Forest α → Forest α
  | nil, others => others
  | cons label children siblings, others => cons label children (siblings.append others)

def tops : Forest α → List α
  | nil => []
  | cons label _ siblings => label :: siblings.tops

/-- Trees with the ids that nodes get from `start` on when they are created in document order. -/
def numbered (start : Nat) : Forest α → Forest (NodeId × α)
  | nil => nil
  | cons label children siblings =>
    cons (⟨start⟩, label) (children.numbered (start + 1))
      (siblings.numbered (start + 1 + children.labels.length))

theorem labels_append (forest others : Forest α) :
    (forest.append others).labels = forest.labels ++ others.labels := by
  induction forest with
  | nil => rfl
  | cons label children siblings _ ih => simp [append, labels, ih]

/-- The topmost nodes of trees in a row stand in a row. -/
theorem tops_append (forest others : Forest α) :
    (forest.append others).tops = forest.tops ++ others.tops := by
  induction forest with
  | nil => rfl
  | cons label children siblings _ ih => rw [append, tops, ih, tops, List.cons_append]

/-- Trees are numbered on behind others. -/
theorem numbered_append (forest others : Forest α) (start : Nat) :
    (forest.append others).numbered start =
      (forest.numbered start).append (others.numbered (start + forest.labels.length)) := by
  induction forest generalizing start with
  | nil => rfl
  | cons label children siblings _ ih =>
      have hStart : start + 1 + children.labels.length + siblings.labels.length =
          start + (cons label children siblings).labels.length := by
        simp only [labels, List.length_cons, List.length_append]
        omega
      rw [append, numbered, ih, hStart, numbered, append]

/-- Numbers are given to trees without changing them. -/
theorem map_numbered (forest : Forest α) (start : Nat) : (forest.numbered start).map (·.2) = forest := by
  induction forest generalizing start with
  | nil => rfl
  | cons label children siblings ihChildren ihSiblings =>
      rw [numbered, map, ihChildren, ihSiblings]

/-- Document order is the order of the numbers. -/
theorem labels_numbered (forest : Forest α) (start : Nat) :
    (forest.numbered start).labels.map (·.1.index) = List.range' start forest.labels.length := by
  induction forest generalizing start with
  | nil => rfl
  | cons label children siblings ihChildren ihSiblings =>
      rw [numbered, labels, List.map_cons, List.map_append, ihChildren, ihSiblings, labels,
        List.length_cons, List.length_append, List.range'_succ, ← List.range'_append, Nat.one_mul]

end Forest

namespace Arena

variable {α : Type} {a b c : Arena α} {parent : NodeId} {value : α} {forest others : Forest α}

/-- The nodes of the trees have the values and the children that they have in the trees. -/
def Holds (a : Arena α) : Forest (NodeId × α) → Prop
  | .nil => True
  | .cons (id, value) children siblings =>
    a.value? id = some value ∧ a.children id = children.tops.map (·.1) ∧ a.Holds children ∧
      a.Holds siblings

/-- Trees in a row are held if both parts are. -/
theorem holds_append {trees others : Forest (NodeId × α)} (hTrees : a.Holds trees)
    (hOthers : a.Holds others) : a.Holds (trees.append others) := by
  induction trees with
  | nil => exact hOthers
  | cons label children siblings _ ih =>
      obtain ⟨hValue, hBelow, hChildren, hSiblings⟩ := hTrees
      exact ⟨hValue, hBelow, hChildren, ih hSiblings⟩

/-- Only the nodes of the trees count. -/
theorem Holds.congr {trees : Forest (NodeId × α)} (h : a.Holds trees)
    (hSame : ∀ label ∈ trees.labels,
      b.value? label.1 = a.value? label.1 ∧ b.children label.1 = a.children label.1) :
    b.Holds trees := by
  induction trees with
  | nil => trivial
  | cons label children siblings ihChildren ihSiblings =>
      simp only [Forest.labels, List.forall_mem_cons, List.forall_mem_append] at hSame
      obtain ⟨hOwn, hBelowSame, hBesideSame⟩ := hSame
      obtain ⟨hValue, hBelow, hChildren, hSiblings⟩ := h
      exact ⟨hOwn.1.trans hValue, hOwn.2.trans hBelow, ihChildren hChildren hBelowSame,
        ihSiblings hSiblings hBesideSame⟩

/-- Trees that an arena holds are the trees of their topmost nodes. -/
theorem WellFormed.forest_tops (wf : a.WellFormed) {trees : Forest (NodeId × α)} (h : a.Holds trees) :
    a.forest (trees.tops.map (·.1)) = trees := by
  induction trees with
  | nil => rfl
  | cons label children siblings ihChildren ihSiblings =>
      obtain ⟨hValue, hBelow, hChildren, hSiblings⟩ := h
      rw [Forest.tops, List.map_cons, wf.forest_cons_of_value? hValue, below, hBelow,
        ihChildren hChildren, ihSiblings hSiblings]

/-- Trees were planted as the last ones below a node. The other nodes that there were are as before. -/
structure Planted (a : Arena α) (parent : NodeId) (forest : Forest α) (b : Arena α) : Prop where
  size_eq : b.size = a.size + forest.labels.length
  value?_eq : ∀ id, id.index < a.size → b.value? id = a.value? id
  children_eq : ∀ id, id.index < a.size → id ≠ parent → b.children id = a.children id
  children_parent :
    b.children parent = a.children parent ++ (forest.numbered a.size).tops.map (·.1)
  holds : b.Holds (forest.numbered a.size)

/-- To plant nothing changes nothing. -/
theorem planted_nil (a : Arena α) (parent : NodeId) : a.Planted parent .nil a where
  size_eq := rfl
  value?_eq _ _ := rfl
  children_eq _ _ _ := rfl
  children_parent := (List.append_nil _).symm
  holds := trivial

/-- The nodes of planted trees are new, and behind them there are none. -/
theorem Planted.index_of_mem_labels (h : a.Planted parent forest b) :
    ∀ label ∈ (forest.numbered a.size).labels, a.size ≤ label.1.index ∧ label.1.index < b.size := by
  intro label hLabel
  have hIndex : label.1.index ∈ (forest.numbered a.size).labels.map (·.1.index) :=
    List.mem_map_of_mem hLabel
  rw [Forest.labels_numbered, List.mem_range'_1, ← h.size_eq] at hIndex
  exact hIndex

/-- A node that is created and attached is a tree that was planted. -/
theorem planted_node (hParent : parent.index < a.size) (value : α) :
    a.Planted parent (.cons value .nil .nil) ((a.create value).2.attach parent ⟨a.size⟩) := by
  have hSize : (a.create value).2.size = a.size + 1 := Array.size_push ..
  have hLoose : (a.create value).2.parent? ⟨a.size⟩ = none := by
    rw [parent?_create, parent?, (node?_eq_none_iff a ⟨a.size⟩).mpr (Nat.le_refl _)]
    rfl
  have hChildren : ∀ id, ((a.create value).2.attach parent ⟨a.size⟩).children id =
      a.children id ++ if id = parent then [⟨a.size⟩] else [] := by
    intro id
    rw [children_attach (by omega), children_detach, hLoose, if_neg (Option.some_ne_none id).symm,
      children_create]
  have hNew : ∀ id : NodeId, id.index < a.size → id ≠ ⟨a.size⟩ := by
    rintro id hId rfl
    exact Nat.lt_irrefl _ hId
  refine ⟨?_, fun id hId => ?_, fun id _ hNe => ?_, ?_, ?_, ?_, trivial, trivial⟩
  · rw [size_attach, hSize]
    rfl
  · rw [value?_attach, value?_create, if_neg (hNew id hId)]
  · rw [hChildren, if_neg hNe, List.append_nil]
  · rw [hChildren, if_pos rfl]
    rfl
  · rw [value?_attach, value?_create, if_pos rfl]
  · rw [hChildren, if_neg (hNew parent hParent).symm, List.append_nil, children_eq,
      (node?_eq_none_iff a ⟨a.size⟩).mpr (Nat.le_refl _)]
    rfl

namespace Planted

/-- Trees that are planted behind others. -/
theorem append (first : a.Planted parent forest b) (next : b.Planted parent others c)
    (hParent : parent.index < a.size) : a.Planted parent (forest.append others) c := by
  have hFirst := first.size_eq
  have hOld : ∀ id : NodeId, id.index < a.size → id.index < b.size := fun _ h => by omega
  have hNumbered : (forest.append others).numbered a.size =
      (forest.numbered a.size).append (others.numbered b.size) := by
    rw [Forest.numbered_append, first.size_eq]
  refine ⟨?_, fun id hId => ?_, fun id hId hNe => ?_, ?_, ?_⟩
  · rw [next.size_eq, first.size_eq, Forest.labels_append, List.length_append, Nat.add_assoc]
  · rw [next.value?_eq id (hOld id hId), first.value?_eq id hId]
  · rw [next.children_eq id (hOld id hId) hNe, first.children_eq id hId hNe]
  · rw [next.children_parent, first.children_parent, hNumbered, Forest.tops_append, List.map_append,
      List.append_assoc]
  · rw [hNumbered]
    refine holds_append (first.holds.congr fun label hLabel => ?_) next.holds
    obtain ⟨hLower, hUpper⟩ := first.index_of_mem_labels label hLabel
    have hNe : label.1 ≠ parent := by
      intro hEq
      rw [hEq] at hLower
      omega
    exact ⟨next.value?_eq _ hUpper, next.children_eq _ hUpper hNe⟩

/-- Trees that are planted below a node that was planted itself. -/
theorem below (node : a.Planted parent (.cons value .nil .nil) b)
    (next : b.Planted ⟨a.size⟩ forest c) (hParent : parent.index < a.size) :
    a.Planted parent (.cons value forest .nil) c := by
  have hSize : b.size = a.size + 1 := node.size_eq
  obtain ⟨hValue, hLeaf, -, -⟩ := node.holds
  have hOld : ∀ id : NodeId, id.index < a.size → id.index < b.size ∧ id ≠ ⟨a.size⟩ := by
    intro id hId
    refine ⟨by omega, ?_⟩
    rintro rfl
    exact Nat.lt_irrefl _ hId
  have hNumbered : (Forest.cons value forest .nil).numbered a.size =
      .cons (⟨a.size⟩, value) (forest.numbered b.size) .nil := by
    rw [Forest.numbered, hSize]
    rfl
  refine ⟨?_, fun id hId => ?_, fun id hId hNe => ?_, ?_, ?_⟩
  · rw [next.size_eq, hSize, Forest.labels, List.length_cons, List.length_append]
    simp only [Forest.labels, List.length_nil]
    omega
  · rw [next.value?_eq id (hOld id hId).1, node.value?_eq id hId]
  · rw [next.children_eq id (hOld id hId).1 (hOld id hId).2, node.children_eq id hId hNe]
  · rw [next.children_eq parent (hOld parent hParent).1 (hOld parent hParent).2, node.children_parent,
      hNumbered]
    rfl
  · rw [hNumbered]
    have hRoot : (⟨a.size⟩ : NodeId).index < b.size := by
      rw [hSize]
      exact Nat.lt_succ_self _
    refine ⟨(next.value?_eq _ hRoot).trans hValue, ?_, next.holds, trivial⟩
    rw [next.children_parent, hLeaf]
    rfl

end Planted

end Arena

end ClassScript
