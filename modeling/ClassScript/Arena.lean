import ClassScript.Forest

/-!
Trees that are built and rearranged through node ids. Nodes are numbered in the order of their
creation and never freed, so an id stays good after its node is taken out of a tree.
-/

namespace ClassScript

/-- A node, by how many were created before it. -/
@[ext] structure NodeId where
  index : Nat
deriving DecidableEq, Repr, Inhabited

namespace NodeId

/-- Nodes are numbered from one. -/
def number (id : NodeId) : Nat := id.index + 1

def ofNumber (number : Nat) : NodeId := ⟨number - 1⟩

@[simp] theorem ofNumber_number (id : NodeId) : ofNumber id.number = id := rfl

def render (id : NodeId) : String :=
  "NodeId \x7b index1: " ++ toString id.number ++ ", stamp: NodeStamp(0) \x7d"

end NodeId

namespace Arena

/-- A value, the node above it, and the nodes below it in order. -/
structure Node (α : Type) where
  value : α
  parent : Option NodeId := none
  children : List NodeId := []
deriving Repr

end Arena

/-- Nodes in the order of their creation. -/
structure Arena (α : Type) where
  nodes : Array (Arena.Node α) := #[]
deriving Repr

namespace Arena

variable {α : Type}

def size (a : Arena α) : Nat := a.nodes.size

def node? (a : Arena α) (id : NodeId) : Option (Node α) := a.nodes[id.index]?

def value? (a : Arena α) (id : NodeId) : Option α := (a.node? id).map (·.value)

def parent? (a : Arena α) (id : NodeId) : Option NodeId := (a.node? id).bind (·.parent)

def children (a : Arena α) (id : NodeId) : List NodeId :=
  match a.node? id with
  | some node => node.children
  | none => []

def create (a : Arena α) (value : α) : NodeId × Arena α :=
  (⟨a.size⟩, { nodes := a.nodes.push { value } })

/-- Changes one node; an unknown id changes nothing. -/
def modify (a : Arena α) (id : NodeId) (f : Node α → Node α) : Arena α :=
  { nodes := a.nodes.modify id.index f }

def setValue (a : Arena α) (id : NodeId) (value : α) : Arena α :=
  a.modify id fun node => { node with value }

/-- The nodes above `id`, nearest first, as far as `fuel` steps lead. -/
def climb (a : Arena α) : Nat → NodeId → List NodeId
  | 0, _ => []
  | fuel + 1, id =>
    match a.parent? id with
    | none => []
    | some parent => parent :: a.climb fuel parent

/-- The nodes above `id`, nearest first. A tree is no deeper than the arena is large. -/
def ancestors (a : Arena α) (id : NodeId) : List NodeId := a.climb a.size id

/-- Takes a node out of its parent's children. What is below it stays below it. -/
def detach (a : Arena α) (id : NodeId) : Arena α :=
  match a.parent? id with
  | none => a
  | some parent =>
    (a.modify parent fun node => { node with children := node.children.erase id }).modify id
      fun node => { node with parent := none }

/-- Makes a node the last child of another, after taking it out of its old place. -/
def attach (a : Arena α) (parent child : NodeId) : Arena α :=
  ((a.detach child).modify parent fun node => { node with children := node.children ++ [child] }).modify
    child fun node => { node with parent := some parent }

/-- Puts `id` in front of the first occurrence of `mark`, or last where `mark` does not occur. -/
def insertInFront (mark id : NodeId) : List NodeId → List NodeId
  | [] => [id]
  | first :: rest => if first = mark then id :: first :: rest else first :: insertInFront mark id rest

/-- Makes a node the sibling just before another; without a parent there is no such place. -/
def attachBefore (a : Arena α) (mark id : NodeId) : Arena α :=
  match a.parent? mark with
  | none => a
  | some parent =>
    ((a.detach id).modify parent fun node =>
      { node with children := insertInFront mark id node.children }).modify id
        fun node => { node with parent := some parent }

/-- The trees with the given roots, each label a node's id and value, to a depth of `fuel`. -/
def unfold (a : Arena α) : Nat → List NodeId → Forest (NodeId × α)
  | 0, _ => .nil
  | fuel + 1, ids => ids.foldr (fun id rest =>
      match a.node? id with
      | none => rest
      | some node => .cons (id, node.value) (a.unfold fuel node.children) rest) .nil

/-- The trees with the given roots. A tree is no deeper than the arena is large. -/
def forest (a : Arena α) (ids : List NodeId) : Forest (NodeId × α) := a.unfold (a.size + 1) ids

def below (a : Arena α) (id : NodeId) : Forest (NodeId × α) := a.forest (a.children id)

/-- The nodes below `id`: each before its children, and those before its later siblings. -/
def descendants (a : Arena α) (id : NodeId) : List NodeId := (a.below id).labels.map (·.1)

/-- A new node is the last one, with nothing above it and nothing below it. -/
theorem node?_create (a : Arena α) (value : α) (id : NodeId) :
    (a.create value).2.node? id = if id = ⟨a.size⟩ then some { value } else a.node? id := by
  simp only [create, node?, size, Array.getElem?_push, NodeId.ext_iff]

/-- Only the node that is modified becomes another. -/
theorem node?_modify (a : Arena α) (target : NodeId) (f : Node α → Node α) (id : NodeId) :
    (a.modify target f).node? id = if target = id then (a.node? id).map f else a.node? id := by
  simp only [modify, node?, Array.getElem?_modify, NodeId.ext_iff]

@[simp] theorem size_modify (a : Arena α) (id : NodeId) (f : Node α → Node α) :
    (a.modify id f).size = a.size := by
  simp [modify, size]

@[simp] theorem size_detach (a : Arena α) (id : NodeId) : (a.detach id).size = a.size := by
  unfold detach; split <;> simp

@[simp] theorem size_attach (a : Arena α) (parent child : NodeId) :
    (a.attach parent child).size = a.size := by
  simp [attach]

end Arena

end ClassScript
