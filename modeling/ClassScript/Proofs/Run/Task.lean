import ClassScript.Run
import ClassScript.Proofs.Operation.Builtin

/-!
Updates together with the elements that ask for them. What a list of them makes of a document can be
said node by node: an element's attributes and its place depend only on what was asked of itself.
-/

namespace ClassScript

structure Task where
  element : NodeId
  update : Update
deriving Repr, DecidableEq

namespace Update

/-- What an update makes of the attributes of its element. A name that no operation has makes
nothing of them. -/
def onAttributes (update : Update) (attributes : Attributes) : Attributes :=
  match Builtin.ofName? update.operation with
  | some builtin => builtin.onAttributes update.arguments attributes
  | none => attributes

def allOnAttributes (updates : List Update) (attributes : Attributes) : Attributes :=
  updates.foldl (fun attributes update => update.onAttributes attributes) attributes

/-- Whether an element is taken out by one of the updates that it asks for. -/
def TakeOut (updates : List Update) : Prop := ∃ update ∈ updates, update.operation = "remove"

instance (updates : List Update) : Decidable (TakeOut updates) :=
  inferInstanceAs (Decidable (∃ update ∈ updates, update.operation = "remove"))

end Update

/-- A node with the attributes that updates make of its own. Only elements have attributes. -/
def NodeData.updated (updates : List Update) : NodeData → NodeData
  | element tag attributes => element tag (Update.allOnAttributes updates attributes)
  | data => data

def asked (tasks : List Task) (element : NodeId) : List Update :=
  (tasks.filter (·.element = element)).map (·.update)

/-- What tasks have made of a document, node by node. No node is created, every node keeps its kind
and its tag, and lists of children lose the elements that were taken out. -/
structure Effect (d : Document) (tasks : List Task) (changed : Document) : Prop where
  size_eq : changed.size = d.size
  value?_eq : ∀ id, changed.value? id = (d.value? id).map (NodeData.updated (asked tasks id))
  parent?_eq : ∀ id,
    changed.parent? id = if Update.TakeOut (asked tasks id) then none else d.parent? id
  children_eq : ∀ id,
    changed.children id = (d.children id).filter fun child => ¬ Update.TakeOut (asked tasks child)

/-- What is asked of an element by tasks in a row is asked in this order. -/
theorem asked_append (tasks more : List Task) (element : NodeId) :
    asked (tasks ++ more) element = asked tasks element ++ asked more element := by
  rw [asked, List.filter_append, List.map_append]
  rfl

theorem asked_singleton (task : Task) (element : NodeId) :
    asked [task] element = if task.element = element then [task.update] else [] := by
  rw [asked, List.filter_singleton]
  by_cases h : task.element = element <;> simp [h]

theorem Update.takeOut_append (updates more : List Update) :
    TakeOut (updates ++ more) ↔ TakeOut updates ∨ TakeOut more := by
  simp only [TakeOut, List.mem_append, or_and_right, exists_or]

/-- An element is to be taken out once one of its updates says so. -/
theorem takeOut_asked_snoc (tasks : List Task) (task : Task) (id : NodeId) :
    Update.TakeOut (asked (tasks ++ [task]) id) ↔
      Update.TakeOut (asked tasks id) ∨ task.element = id ∧ task.update.operation = "remove" := by
  rw [asked_append, Update.takeOut_append, asked_singleton]
  by_cases h : task.element = id <;> simp [h, Update.TakeOut]

namespace NodeData

theorem updated_nil (data : NodeData) : data.updated [] = data := by
  cases data <;> rfl

/-- Updates are made of a node one after the other. -/
theorem updated_append (updates more : List Update) (data : NodeData) :
    data.updated (updates ++ more) = (data.updated updates).updated more := by
  cases data <;> simp [updated, Update.allOnAttributes]

/-- An update that has no effect on attributes changes nothing about a node itself. -/
theorem updated_singleton_of_onAttributes {update : Update}
    (h : ∀ attributes, update.onAttributes attributes = attributes) (data : NodeData) :
    data.updated [update] = data := by
  cases data with
  | element tag attributes => exact congrArg (element tag) (h attributes)
  | document | text | comment => rfl

/-- Updates make no element of another node, and no other node of an element. -/
theorem isElement_updated (updates : List Update) (data : NodeData) :
    (data.updated updates).isElement = data.isElement := by
  cases data <;> rfl

end NodeData

namespace Effect

/-- Without tasks the document is as it was. -/
theorem refl (d : Document) : Effect d [] d where
  size_eq := rfl
  value?_eq id := by
    have hSame : NodeData.updated [] = fun data => data := funext NodeData.updated_nil
    rw [asked, List.filter_nil, List.map_nil, hSame, Option.map_id']
  parent?_eq id := by simp [asked, Update.TakeOut]
  children_eq id := by simp [asked, Update.TakeOut]

variable {d before : Document} {tasks : List Task} {task : Task}

/-- A node of which nothing was asked is as it was. -/
theorem value?_of_asked_eq_nil (effect : Effect d tasks before) {id : NodeId}
    (h : asked tasks id = []) : before.value? id = d.value? id := by
  rw [effect.value?_eq, h]
  cases d.value? id with
  | none => rfl
  | some data => exact congrArg some data.updated_nil

/-- One more task shows in its own element only. -/
theorem value?_snoc (effect : Effect d tasks before) (task : Task) (id : NodeId) :
    (d.value? id).map (NodeData.updated (asked (tasks ++ [task]) id)) =
      if task.element = id then (before.value? id).map (NodeData.updated [task.update])
      else before.value? id := by
  rw [effect.value?_eq, asked_append, asked_singleton]
  split
  · rw [Option.map_map]
    exact congrArg (Option.map · (d.value? id)) (funext (NodeData.updated_append _ _))
  · rw [List.append_nil]

/-- A task of an operation other than removal changes at most the attributes of its element. -/
theorem setValue (effect : Effect d tasks before) {tag : String} {attributes : Attributes}
    (hOperation : task.update.operation ≠ "remove")
    (hElement : before.value? task.element = some (.element tag attributes)) :
    Effect d (tasks ++ [task])
      (before.setValue task.element (.element tag (task.update.onAttributes attributes))) := by
  have hTakeOut : ∀ id, Update.TakeOut (asked (tasks ++ [task]) id) ↔
      Update.TakeOut (asked tasks id) := by
    intro id
    rw [takeOut_asked_snoc]
    exact or_iff_left fun h => hOperation h.2
  refine ⟨?_, fun id => ?_, fun id => ?_, fun id => ?_⟩
  · rw [Arena.setValue, Arena.size_modify, effect.size_eq]
  · rw [effect.value?_snoc, Arena.value?_setValue]
    split
    · next hEq =>
        rw [← hEq, hElement]
        rfl
    · rfl
  · rw [Arena.parent?_setValue, effect.parent?_eq]
    simp only [hTakeOut]
  · rw [Arena.children_setValue, effect.children_eq]
    simp only [hTakeOut]

/-- Removal leaves the attributes as they are. -/
theorem onAttributes_of_remove {update : Update} (h : update.operation = "remove")
    (attributes : Attributes) : update.onAttributes attributes = attributes := by
  have hName : Builtin.ofName? update.operation = some .remove := h ▸ Builtin.ofName?_name .remove
  rw [Update.onAttributes, hName]
  rfl

/-- Tasks keep the links of a document well formed. -/
theorem wellFormed (wf : d.WellFormed) (effect : Effect d tasks before) : before.WellFormed :=
  wf.takeOut effect.parent?_eq effect.children_eq

/-- Taking an element out changes its place and the list that it stood in. -/
theorem detach (wf : d.WellFormed) (effect : Effect d tasks before)
    (hOperation : task.update.operation = "remove") :
    Effect d (tasks ++ [task]) (before.detach task.element) := by
  have hTakeOut : ∀ id, Update.TakeOut (asked (tasks ++ [task]) id) ↔
      Update.TakeOut (asked tasks id) ∨ task.element = id := by
    intro id
    rw [takeOut_asked_snoc, and_iff_left hOperation]
  refine ⟨?_, fun id => ?_, fun id => ?_, fun id => ?_⟩
  · rw [Arena.size_detach, effect.size_eq]
  · have hSame : NodeData.updated [task.update] = fun data => data :=
      funext (NodeData.updated_singleton_of_onAttributes (onAttributes_of_remove hOperation))
    rw [effect.value?_snoc, Arena.value?_detach, hSame, Option.map_id', ite_self]
  · rw [Arena.parent?_detach, effect.parent?_eq]
    by_cases hEq : id = task.element
    · simp [hTakeOut, hEq]
    · simp [hTakeOut, hEq, Ne.symm hEq]
  · rw [(effect.wellFormed wf).children_detach_eq_filter, effect.children_eq, List.filter_filter]
    refine List.filter_congr fun child _ => ?_
    simp [hTakeOut, eq_comm, and_comm]

/-- What tasks have made of a document goes on with one more task that succeeds. -/
theorem snoc (wf : d.WellFormed) (effect : Effect d tasks before) {builtin : Builtin}
    (hName : Builtin.ofName? task.update.operation = some builtin) {after : Document}
    (hChange : builtin.change before task.element task.update.arguments = .ok after) :
    Effect d (tasks ++ [task]) after := by
  rcases Builtin.change_cases hChange with ⟨rfl, -, rfl⟩ | ⟨hOther, tag, attributes, hElement, rfl⟩
  · exact effect.detach wf (Builtin.name_of_ofName? hName).symm
  · have hOperation : task.update.operation ≠ "remove" := by
      intro h
      rw [h] at hName
      cases hName
      exact hOther rfl
    have hEffect := effect.setValue hOperation hElement
    rw [Update.onAttributes, hName] at hEffect
    exact hEffect

/-- Elements stay elements, whatever tasks are carried out. -/
theorem isElement_eq (effect : Effect d tasks before) (id : NodeId) :
    before.isElement id = d.isElement id := by
  rw [Document.isElement, effect.value?_eq, Document.isElement]
  cases d.value? id with
  | none => rfl
  | some data => exact NodeData.isElement_updated _ data

/-- An element that was taken out has no element above it any more. No other one has lost it. -/
theorem elementParent?_eq_none_iff (effect : Effect d tasks before) (id : NodeId) :
    before.elementParent? id = none ↔
      d.elementParent? id = none ∨ Update.TakeOut (asked tasks id) := by
  have hElement : before.isElement = d.isElement := funext effect.isElement_eq
  rw [Document.elementParent?, effect.parent?_eq, hElement, Document.elementParent?]
  split <;> simp [*]

/-- A task is refused for its arguments, or because its element has no element above it, be it from
the beginning or since an earlier task. -/
theorem change_eq_error_iff (effect : Effect d tasks before) {builtin : Builtin} {tag : String}
    {attributes : Attributes} {cause : OperationError}
    (hElement : d.value? task.element = some (.element tag attributes))
    (hArguments : ∀ argument ∈ task.update.arguments, Unbroken argument) :
    builtin.change before task.element task.update.arguments = .error cause ↔
      Builtin.Refusal task.element task.update.arguments
        (d.elementParent? task.element = none ∨ Update.TakeOut (asked tasks task.element))
        builtin cause := by
  have hBefore := effect.value?_eq task.element
  rw [hElement] at hBefore
  have hOrphan := propext (effect.elementParent?_eq_none_iff task.element)
  rw [Builtin.change_eq_error_iff hBefore hArguments, hOrphan]

end Effect

end ClassScript
