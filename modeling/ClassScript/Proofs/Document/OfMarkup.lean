import ClassScript.Proofs.Arena.Planted
import ClassScript.Proofs.Run.Calls

/-!
Documents made from parsed markup. Every tree can be put into a document: nodes are put in their places
before the nodes below them are made, so that no node is ever put below itself, and what a document has a
place for is all kept. The nodes are numbered in document order.
-/

namespace ClassScript

namespace Attributes

/-- The attributes of a tag whose names are allowed, with these names as they are kept. -/
def allowed (source : List (String × String)) : List (String × String) :=
  (source.filter fun entry => isValidName entry.1).map fun entry => (Ascii.lower entry.1, entry.2)

/-- Each name once, in the place where it is first given, with the value that it is given last. -/
def settled (given : List (String × String)) : List (String × String) :=
  (given.map (·.1)).eraseDups.map fun name => (name, (given.reverse.lookup name).getD "")

/-- Attributes with one more of a tag, unless its name is not allowed. -/
def give (attributes : Attributes) (entry : String × String) : Attributes :=
  if isValidName entry.1 then attributes.set (Ascii.lower entry.1) entry.2 else attributes

/-- A name that comes last is kept only where it is new. -/
theorem eraseDups_concat (names : List String) (name : String) :
    (names ++ [name]).eraseDups =
      if name ∈ names then names.eraseDups else names.eraseDups ++ [name] := by
  rw [List.eraseDups_append]
  split
  · next hOld => simp [List.removeAll, hOld]
  · next hNew => simp [List.removeAll, hNew, List.eraseDups_cons]

theorem nodup_eraseDups (names : List String) : names.eraseDups.Nodup := by
  induction names using List.reverseRecOn with
  | nil => exact List.nodup_nil
  | append_singleton names name ih =>
      rw [eraseDups_concat]
      split
      · exact ih
      · next hNew => exact ih.append (List.nodup_singleton name) (by simpa using hNew)

/-- The names are those that were given, at their first places. -/
theorem names_settled (given : List (String × String)) :
    (settled given).map (·.1) = (given.map (·.1)).eraseDups := by
  rw [settled, List.map_map]
  exact List.map_id _

/-- One more attribute is set among those that are settled. -/
theorem settled_concat (given : List (String × String)) (name value : String) :
    settled (given ++ [(name, value)]) = setIn name value (settled given) := by
  have hLookup : ∀ other, (given ++ [(name, value)]).reverse.lookup other =
      if other = name then some value else given.reverse.lookup other := by
    intro other
    rw [List.reverse_concat, lookup_cons_eq]
  have hMem : name ∈ (settled given).map (·.1) ↔ name ∈ given.map (·.1) := by
    rw [names_settled, List.mem_eraseDups]
  rw [settled, List.map_append, List.map_singleton, eraseDups_concat]
  by_cases hOld : name ∈ given.map (·.1)
  · have hNodup : ((settled given).map (·.1)).Nodup := by
      rw [names_settled]
      exact nodup_eraseDups _
    rw [if_pos hOld, setIn_of_mem hNodup (hMem.mpr hOld), settled, List.map_map]
    refine List.map_congr_left fun other _ => ?_
    rw [Function.comp_apply, hLookup]
    by_cases hName : other = name
    · rw [if_pos hName, if_pos hName, Option.getD_some]
    · rw [if_neg hName, if_neg hName]
  · rw [if_neg hOld, setIn_of_not_mem (fun h => hOld (hMem.mp h)), List.map_append, settled]
    congr 1
    · refine List.map_congr_left fun other hOther => ?_
      have hName : other ≠ name := by
        rintro rfl
        exact hOld (List.mem_eraseDups.mp hOther)
      rw [hLookup, if_neg hName]
    · rw [List.map_singleton, hLookup, if_pos rfl, Option.getD_some]

/-- Attributes that are given one after the other are those that are settled. -/
theorem foldl_give (source : List (String × String)) :
    source.foldl give {} = { entries := settled (allowed source) } := by
  have hSet : ∀ given : List (String × String),
      given.foldl (fun (attributes : Attributes) entry => attributes.set entry.1 entry.2) {} =
        { entries := settled given } := by
    intro given
    induction given using List.reverseRecOn with
    | nil => rfl
    | append_singleton given entry ih =>
        rw [List.foldl_append, ih, settled_concat]
        rfl
  rw [← hSet, allowed, List.foldl_map, List.foldl_filter]
  rfl

example : settled (allowed [("Id", "1"), ("b", ""), ("x=y", ""), ("ID", "2")]) = [("id", "2"), ("b", "")] := by
  decide +kernel

end Attributes

/-- A node that is given a value at once could have been created with it. -/
theorem Arena.setValue_create {α : Type} (a : Arena α) (first second : α) :
    (a.create first).2.setValue ⟨a.size⟩ second = (a.create second).2 := by
  have hNodes : ((a.nodes.push { value := first }).modify a.nodes.size
      fun node => { node with value := second }) = a.nodes.push { value := second } := by
    refine Array.ext_getElem? fun i => ?_
    rw [Array.getElem?_modify, Array.getElem?_push, Array.getElem?_push]
    by_cases h : i = a.nodes.size
    · rw [if_pos h.symm, if_pos h, if_pos h, Option.map_some]
    · rw [if_neg (Ne.symm h), if_neg h, if_neg h]
  exact congrArg Arena.mk hNodes

namespace Document

open Html (Item)

/-- What a document keeps of parsed trees. Document types and instructions have no place in it, nothing is
below a text or a comment, and what is below the top of parsed markup stands where the top stood. -/
def kept : Forest Item → Forest NodeData
  | .nil => .nil
  | .cons item children rest =>
    match item with
    | .root => (kept children).append (kept rest)
    | .doctype _ | .instruction .. => kept rest
    | .text text => .cons (.text text) .nil (kept rest)
    | .comment text => .cons (.comment text) .nil (kept rest)
    | .element tag attributes =>
      .cons (.element tag { entries := Attributes.settled (Attributes.allowed attributes) })
        (kept children) (kept rest)

variable {σ : Type}

/-- An attribute of a new element is set or left out, and neither is a failure. -/
theorem ending_addAttribute (d : Document) (tag : String) (attributes : Attributes)
    (entry : String × String) (memory : σ) :
    (addAttribute ⟨d.size⟩ entry : Action σ AppendError Unit).ending
        ⟨(d.create (.element tag attributes)).2, memory⟩ =
      (.ok (), ⟨(d.create (.element tag (attributes.give entry))).2, memory⟩) := by
  have hValue : (d.create (.element tag attributes)).2.value? ⟨d.size⟩ =
      some (.element tag attributes) := by
    rw [Arena.value?_create, if_pos rfl]
  rw [addAttribute, Action.ending_document_bind, setAttribute, Attributes.give]
  by_cases hName : Attributes.isValidName entry.1
  · rw [if_pos hName, if_pos hName, changeAttributes, hValue]
    simp only [Arena.setValue_create]
    rfl
  · rw [if_neg hName, if_neg hName]
    rfl

/-- The attributes of a new element are given to it one after the other, and none is refused. -/
theorem ending_forM_addAttribute (d : Document) (tag : String) (source : List (String × String))
    (attributes : Attributes) (memory : σ) :
    (source.forM (addAttribute ⟨d.size⟩) : Action σ AppendError Unit).ending
        ⟨(d.create (.element tag attributes)).2, memory⟩ =
      (.ok (), ⟨(d.create (.element tag (source.foldl Attributes.give attributes))).2, memory⟩) := by
  induction source generalizing attributes with
  | nil => rfl
  | cons entry rest ih =>
      have hFirst := ending_addAttribute d tag attributes entry memory
      exact (Action.ending_bind_of_ok hFirst _).trans (ih _)

/-- Nothing bars a new node from any place. -/
theorem not_barred_create {d : Document} (wf : d.WellFormed) {parent : NodeId}
    (hParent : parent.index < d.size) (data : NodeData) :
    ¬ Barred (d.create data).2 parent ⟨d.size⟩ := by
  have hSize : (d.create data).2.size = d.size + 1 := Array.size_push ..
  have hAbove : (d.create data).2.Above = d.Above := by
    funext upper lower
    rw [Arena.Above, Arena.parent?_create, Arena.Above]
  rintro (rfl | hBelow | hUnknown | hUnknown)
  · exact Nat.lt_irrefl _ hParent
  · rw [hAbove] at hBelow
    exact Nat.lt_irrefl _ (wf.exists_of_transGen hBelow)
  · exact Arena.value?_ne_none_iff.mpr (by omega) hUnknown
  · exact Arena.value?_ne_none_iff.mpr (hSize ▸ Nat.lt_succ_self _) hUnknown

/-- The action succeeds and plants the trees below a node. -/
def Plants (action : Action σ AppendError Unit) (parent : NodeId) (forest : Forest NodeData) : Prop :=
  ∀ session : Session σ, session.document.WellFormed → parent.index < session.document.size →
    ∃ d : Document, action.ending session = (.ok (), { session with document := d }) ∧ d.WellFormed ∧
      session.document.Planted parent forest d

/-- To do nothing plants nothing. -/
theorem plants_pure (parent : NodeId) : Plants (pure () : Action σ AppendError Unit) parent .nil :=
  fun session wf _ => ⟨session.document, rfl, wf, Arena.planted_nil _ _⟩

/-- What two actions plant in a row stands in a row. -/
theorem Plants.append {first next : Action σ AppendError Unit} {parent : NodeId}
    {forest others : Forest NodeData} (hFirst : Plants first parent forest)
    (hNext : Plants next parent others) :
    Plants (first >>= fun _ => next) parent (forest.append others) := by
  intro session wf hParent
  obtain ⟨d, hEnd, wfD, hForest⟩ := hFirst session wf hParent
  have hKnown : parent.index < d.size := by
    rw [hForest.size_eq]
    omega
  obtain ⟨e, hEndNext, wfE, hOthers⟩ := hNext { session with document := d } wfD hKnown
  exact ⟨e, (Action.ending_bind_of_ok hEnd _).trans hEndNext, wfE, hForest.append hOthers hParent⟩

/-- A new node gets its attributes before it is put in its place. -/
theorem ending_addNode {session : Session σ} {parent : NodeId} (wf : session.document.WellFormed)
    (hParent : parent.index < session.document.size) (data : NodeData)
    (source : List (String × String)) {given : NodeData}
    (hGiven : (source.forM (addAttribute ⟨session.document.size⟩) : Action σ AppendError Unit).ending
        { session with document := (session.document.create data).2 } =
      (.ok (), { session with document := (session.document.create given).2 })) :
    ∃ d : Document, (addNode parent data source : Action σ AppendError NodeId).ending session =
        (.ok ⟨session.document.size⟩, { session with document := d }) ∧ d.WellFormed ∧
      session.document.Planted parent (.cons given .nil .nil) d := by
  have hAppend := append_of_not_barred (wf.create given) (not_barred_create wf hParent given)
  refine ⟨_, ?_, (Change.append hAppend).wellFormed (wf.create given), Arena.planted_node hParent given⟩
  rw [addNode, Action.ending_document_bind]
  have hSet : (Action.setDocument (session.document.create data).2 : Action σ AppendError Unit).ending
      session = (.ok (), { session with document := (session.document.create data).2 }) := rfl
  have hEdit : (Action.edit fun d : Document => d.append parent ⟨session.document.size⟩).ending
      { session with document := (session.document.create given).2 } = _ := Action.ending_edit ..
  rw [hAppend] at hEdit
  -- Each step of the action in its turn: the node, its attributes, its place.
  refine (Action.ending_bind_of_ok hSet _).trans ?_
  refine (Action.ending_bind_of_ok hGiven _).trans ?_
  exact Action.ending_bind_of_ok hEdit _

/-- A text or a comment is planted without anything below it. -/
theorem plants_discard_addNode (parent : NodeId) (data : NodeData) :
    Plants (discard (addNode parent data []) : Action σ AppendError Unit) parent
      (.cons data .nil .nil) := by
  intro session wf hParent
  obtain ⟨d, hEnd, wfD, hNode⟩ := ending_addNode wf hParent data [] rfl
  exact ⟨d, Action.ending_bind_of_ok hEnd _, wfD, hNode⟩

/-- An element is put in its place, and then what is below it. -/
theorem plants_element (tag : String) (source : List (String × String)) {below : Forest NodeData}
    {add : NodeId → Action σ AppendError Unit} (hAdd : ∀ element, Plants (add element) element below)
    (parent : NodeId) :
    Plants (addNode parent (.element tag {}) source >>= add) parent
      (.cons (.element tag { entries := Attributes.settled (Attributes.allowed source) }) below .nil) := by
  intro session wf hParent
  have hGiven := ending_forM_addAttribute session.document tag source {} session.memory
  rw [Attributes.foldl_give] at hGiven
  obtain ⟨d, hEnd, wfD, hNode⟩ := ending_addNode wf hParent _ source hGiven
  have hKnown : session.document.size < d.size := by
    rw [hNode.size_eq]
    exact Nat.lt_succ_self _
  obtain ⟨e, hEndBelow, wfE, hBelow⟩ := hAdd ⟨session.document.size⟩ { session with document := d } wfD
    hKnown
  exact ⟨e, (Action.ending_bind_of_ok hEnd _).trans hEndBelow, wfE, hNode.below hBelow hParent⟩

/-- The trees that are kept are planted, with their attributes settled. -/
theorem plants_addForest (parent : NodeId) (forest : Forest Item) :
    Plants (addForest parent forest : Action σ AppendError Unit) parent (kept forest) := by
  induction forest generalizing parent with
  | nil => exact plants_pure parent
  | cons item children rest ihChildren ihRest =>
      unfold addForest
      cases item with
      | root => exact (ihChildren parent).append (ihRest parent)
      | doctype | instruction => exact (plants_pure parent).append (ihRest parent)
      | text | comment => exact (plants_discard_addNode parent _).append (ihRest parent)
      | element tag source =>
          have hElement := (plants_element tag source ihChildren parent).append (ihRest parent)
          rwa [bind_assoc] at hElement

/-- A document is what parsed trees make of the empty one: all that is kept of them stands below the
document node, and the nodes were created in document order, without others between them. -/
structure MadeFrom (d : Document) (forest : Forest Item) : Prop where
  wellFormed : d.WellFormed
  value?_root : d.value? root = some .document
  below_eq : (d.below root).map (·.2) = kept forest
  number_descendants : (d.descendants root).map NodeId.number = List.range' 2 (d.size - 1)

/-- Parsed trees, whatever they are, can be put into a document, and all of them is kept that has a place
in documents. -/
theorem madeFrom_ofForest (forest : Forest Item) :
    (ofForest forest).result = .ok () ∧ MadeFrom (ofForest forest).session.document forest := by
  obtain ⟨d, hEnd, wf, planted⟩ := plants_addForest root forest
    { document := empty, memory := () } wellFormed_empty Nat.zero_lt_one
  obtain ⟨hResult, hSession⟩ := Prod.mk.inj hEnd
  have hDocument : (ofForest forest).session.document = d := congrArg Session.document hSession
  have hChildren : d.children root = ((kept forest).numbered 1).tops.map (·.1) := planted.children_parent
  have hHolds : d.Holds ((kept forest).numbered 1) := planted.holds
  have hBelow : d.below root = (kept forest).numbered 1 := by
    rw [Arena.below, hChildren, wf.forest_tops hHolds]
  have hNumber : NodeId.number ∘ (Prod.fst : NodeId × NodeData → NodeId) =
      (1 + ·) ∘ fun label : NodeId × NodeData => label.1.index := by
    funext label
    exact Nat.add_comm _ _
  refine ⟨hResult, ?_⟩
  rw [hDocument]
  refine ⟨wf, planted.value?_eq root Nat.zero_lt_one, ?_, ?_⟩
  · rw [hBelow, Forest.map_numbered]
  · have hSize : d.size - 1 = (kept forest).labels.length := by
      rw [planted.size_eq]
      exact Nat.add_sub_cancel_left ..
    rw [Arena.descendants, hBelow, List.map_map, hNumber, ← List.map_map, Forest.labels_numbered,
      List.map_add_range', hSize]

end Document

end ClassScript
