import ClassScript.Document.Basic
import ClassScript.Proofs.Arena.Ancestors

/-!
What one operation does to a document. An operation that is refused changes nothing, and one that
succeeds creates a node, moves one, or replaces the attributes of an element. Each of them leaves a
well-formed tree.
-/

namespace ClassScript.Document

open Relation

/-- One successful operation on a document. A refused one changes nothing. -/
inductive Change : Document → Document → Prop where
  | createElement (d : Document) (tag : String) : Change d (d.createElement tag).2
  | createText (d : Document) (text : String) : Change d (d.createText text).2
  | createComment (d : Document) (text : String) : Change d (d.createComment text).2
  | append {d changed : Document} {parent child : NodeId}
      (h : d.append parent child = .ok changed) : Change d changed
  | detach (d : Document) (id : NodeId) : Change d (d.detach id)
  | setAttribute {d changed : Document} {id : NodeId} {name value : String}
      (h : d.setAttribute id name value = .ok changed) : Change d changed
  | removeAttribute {d changed : Document} {id : NodeId} {name : String} {found : Bool}
      (h : d.removeAttribute id name = .ok (found, changed)) : Change d changed
  | addClasses {d changed : Document} {id : NodeId} {tokens : List String}
      (h : d.addClasses id tokens = .ok changed) : Change d changed
  | removeClasses {d changed : Document} {id : NodeId} {tokens : List String}
      (h : d.removeClasses id tokens = .ok changed) : Change d changed

/-- A successful change of attributes replaces the attributes of an element. -/
theorem changeAttributes_cases {d changed : Document} {id : NodeId} {change : Attributes → Attributes}
    (h : d.changeAttributes id change = .ok changed) :
    ∃ tag attributes, d.value? id = some (.element tag attributes) ∧
      changed = d.setValue id (.element tag (change attributes)) := by
  rw [changeAttributes] at h
  split at h
  · next tag attributes hValue =>
      cases h
      exact ⟨tag, attributes, hValue, rfl⟩
  · cases h

/-- An attribute is set only under a valid name, in lower case. -/
theorem setAttribute_cases {d changed : Document} {id : NodeId} {name value : String}
    (h : d.setAttribute id name value = .ok changed) :
    Attributes.isValidName name = true ∧
      d.changeAttributes id (fun attributes => attributes.set (Ascii.lower name) value) =
        .ok changed := by
  rw [setAttribute] at h
  split at h
  · next hName => exact ⟨hName, h⟩
  · cases h

/-- Where two steps in a row succeed, both do. -/
theorem exists_ok_of_bind {ε α β : Type} {first : Except ε α} {next : α → Except ε β} {result : β}
    (h : first >>= next = .ok result) : ∃ value, first = .ok value ∧ next value = .ok result := by
  cases first with
  | error error => cases h
  | ok value => exact ⟨value, rfl, h⟩

/-- An answer that is changed on success comes from a success. -/
theorem exists_ok_of_map {ε α β : Type} {first : Except ε α} {f : α → β} {result : β}
    (h : first.map f = .ok result) : ∃ value, first = .ok value ∧ f value = result := by
  cases first with
  | error error => cases h
  | ok value =>
      cases h
      exact ⟨value, rfl, rfl⟩

/-- Removing an attribute answers what was asked before it was removed. -/
theorem removeAttribute_cases {d changed : Document} {id : NodeId} {name : String} {found : Bool}
    (h : d.removeAttribute id name = .ok (found, changed)) :
    found = d.hasAttribute id name ∧
      d.changeAttributes id (fun attributes => attributes.erase (Ascii.lower name)) =
        .ok changed := by
  obtain ⟨other, hChange, h⟩ := exists_ok_of_bind h
  cases h
  exact ⟨rfl, hChange⟩

/-- Classes are added only if each of them is a word. -/
theorem addClasses_cases {d changed : Document} {id : NodeId} {tokens : List String}
    (h : d.addClasses id tokens = .ok changed) :
    tokens.forM checkToken = .ok () ∧
      d.changeAttributes id (withClasses (·.addAll tokens)) = .ok changed := by
  obtain ⟨_, hTokens, hChange⟩ := exists_ok_of_bind h
  exact ⟨hTokens, hChange⟩

/-- Classes are removed only if each of them is a word. -/
theorem removeClasses_cases {d changed : Document} {id : NodeId} {tokens : List String}
    (h : d.removeClasses id tokens = .ok changed) :
    tokens.forM checkToken = .ok () ∧
      d.changeAttributes id (withClasses (·.removeAll tokens)) = .ok changed := by
  obtain ⟨_, hTokens, hChange⟩ := exists_ok_of_bind h
  exact ⟨hTokens, hChange⟩

/-- A node is appended to another existing one that is neither itself nor below it. -/
theorem append_cases {d changed : Document} {parent child : NodeId}
    (h : d.append parent child = .ok changed) :
    parent.index < d.size ∧ child.index < d.size ∧ child ≠ parent ∧ child ∉ d.ancestors parent ∧
      changed = d.attach parent child := by
  simp only [append] at h
  split at h
  · cases h
  · next hNe =>
      split at h
      · cases h
      · next hExist =>
          split at h
          · cases h
          · next hAbove =>
              simp only [Bool.not_eq_true, Bool.or_eq_false_iff, Option.isNone_eq_false_iff,
                Option.isSome_iff_ne_none, Arena.value?_ne_none_iff] at hExist
              cases h
              exact ⟨hExist.1, hExist.2, hNe, by simpa using hAbove, rfl⟩

/-- The empty document has one node, and no links. -/
theorem node?_empty (id : NodeId) :
    empty.node? id = if id = root then some { value := .document } else none := by
  by_cases h : id = root
  · rw [if_pos h, h]
    rfl
  · rw [if_neg h, Arena.node?_eq_none_iff]
    exact Nat.one_le_iff_ne_zero.mpr (mt (NodeId.ext (y := root)) h)

/-- One node with no links is well formed. -/
theorem wellFormed_empty : empty.WellFormed := by
  have hChildren : ∀ id, empty.children id = [] := by
    intro id
    rw [Arena.children_eq, node?_empty]
    split <;> rfl
  have hParent : ∀ id, empty.parent? id = none := by
    intro id
    rw [Arena.parent?, node?_empty]
    split <;> rfl
  refine ⟨?_, ?_, ⟨fun id => Acc.intro id fun upper h => ?_⟩⟩
  · simp [hChildren, Arena.Above, hParent]
  · simp [hChildren]
  · rw [Arena.Above, hParent] at h
    cases h

/-- A change makes a new node, puts a node elsewhere or gives an element other attributes. -/
theorem Change.cases {d changed : Document} (h : Change d changed) :
    (∃ data, changed = (d.create data).2) ∨ (∃ parent child, d.append parent child = .ok changed) ∨
      (∃ id, changed = d.detach id) ∨
        ∃ id tag attributes given, d.value? id = some (.element tag attributes) ∧
          changed = d.setValue id (.element tag given) := by
  have hAttributes : ∀ {id change}, d.changeAttributes id change = .ok changed →
      ∃ id tag attributes given, d.value? id = some (.element tag attributes) ∧
        changed = d.setValue id (.element tag given) := by
    intro id change h
    obtain ⟨tag, attributes, hValue, rfl⟩ := changeAttributes_cases h
    exact ⟨id, tag, attributes, _, hValue, rfl⟩
  cases h with
  | createElement | createText | createComment => exact .inl ⟨_, rfl⟩
  | append h => exact .inr (.inl ⟨_, _, h⟩)
  | detach id => exact .inr (.inr (.inl ⟨id, rfl⟩))
  | setAttribute h => exact .inr (.inr (.inr (hAttributes (setAttribute_cases h).2)))
  | removeAttribute h => exact .inr (.inr (.inr (hAttributes (removeAttribute_cases h).2)))
  | addClasses h => exact .inr (.inr (.inr (hAttributes (addClasses_cases h).2)))
  | removeClasses h => exact .inr (.inr (.inr (hAttributes (removeClasses_cases h).2)))

/-- Every change keeps the links of the document well formed. -/
theorem Change.wellFormed {d changed : Document} (h : Change d changed) (wf : d.WellFormed) :
    changed.WellFormed := by
  rcases h.cases with ⟨data, rfl⟩ | ⟨parent, child, h⟩ | ⟨id, rfl⟩ | ⟨id, tag, attributes, given, -, rfl⟩
  · exact wf.create data
  · obtain ⟨hParent, hChild, hNe, hAbove, rfl⟩ := append_cases h
    refine wf.attach hParent hChild fun hReach => ?_
    rcases reflTransGen_iff_eq_or_transGen.1 hReach with h | h
    · exact hNe h.symm
    · exact hAbove (wf.mem_ancestors_iff.2 h)
  · exact wf.detach id
  · exact wf.setValue id _

/-- The document node stays what it is. -/
theorem Change.value?_root {d changed : Document} (h : Change d changed)
    (hRoot : d.value? root = some .document) : changed.value? root = some .document := by
  rcases h.cases with ⟨data, rfl⟩ | ⟨parent, child, h⟩ | ⟨id, rfl⟩ |
    ⟨id, tag, attributes, given, hValue, rfl⟩
  · have hOld : root ≠ ⟨d.size⟩ := by
      intro h
      have hSize := Arena.value?_ne_none_iff.mp (Option.ne_none_iff_exists'.mpr ⟨_, hRoot⟩)
      rw [h] at hSize
      exact Nat.lt_irrefl _ hSize
    rw [Arena.value?_create, if_neg hOld, hRoot]
  · obtain ⟨-, -, -, -, rfl⟩ := append_cases h
    rw [Arena.value?_attach, hRoot]
  · rw [Arena.value?_detach, hRoot]
  · rw [Arena.value?_setValue, if_neg, hRoot]
    rintro rfl
    cases hRoot.symm.trans hValue

section Attributes

variable {d changed : Document} {id : NodeId}

theorem attributes_eq {tag : String} {attributes : Attributes}
    (h : d.value? id = some (.element tag attributes)) : d.attributes id = attributes := by
  rw [Document.attributes, h]
  rfl

/-- Attributes stay with an element that is detached. -/
theorem attributes_detach (d : Document) (id other : NodeId) :
    Document.attributes (d.detach id) other = d.attributes other := by
  rw [Document.attributes, Arena.value?_detach]
  rfl

/-- Attributes stay with an element that is moved. -/
theorem attributes_attach (d : Document) (parent child other : NodeId) :
    Document.attributes (d.attach parent child) other = d.attributes other := by
  rw [Document.attributes, Arena.value?_attach]
  rfl

/-- Only the element that is set has other attributes. -/
theorem attributes_setValue_element {tag : String} {attributes : Attributes}
    (h : d.value? id = some (.element tag attributes)) (given : Attributes) (other : NodeId) :
    Document.attributes (d.setValue id (.element tag given)) other =
      if other = id then given else d.attributes other := by
  rw [Document.attributes, Arena.value?_setValue]
  by_cases hOther : other = id
  · rw [if_pos hOther.symm, if_pos hOther, hOther, h]
    rfl
  · rw [if_neg (Ne.symm hOther), if_neg hOther]
    rfl

/-- A change of attributes is one of the attributes of its node. -/
theorem attributes_of_changeAttributes {change : Attributes → Attributes}
    (h : d.changeAttributes id change = .ok changed) (other : NodeId) :
    changed.attributes other = if other = id then change (d.attributes id) else d.attributes other := by
  obtain ⟨tag, attributes, hValue, rfl⟩ := changeAttributes_cases h
  rw [attributes_setValue_element hValue, attributes_eq hValue]

/-- Nothing that is created changes the attributes of other nodes. -/
theorem attributes_create (d : Document) {data : NodeData} (h : data.attributes = {}) (other : NodeId) :
    Document.attributes (d.create data).2 other = d.attributes other := by
  rw [Document.attributes, Arena.value?_create]
  by_cases hNew : other = ⟨d.size⟩
  · have hNone : d.value? other = none := by
      rw [Arena.value?, (Arena.node?_eq_none_iff d other).mpr (by rw [hNew]), Option.map_none]
    rw [if_pos hNew, Document.attributes, hNone]
    exact h
  · rw [if_neg hNew, Document.attributes]

end Attributes

end ClassScript.Document
