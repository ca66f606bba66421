import ClassScript.Document.Markup
import ClassScript.Document.Query
import ClassScript.Document.Snapshot
import ClassScript.Proofs.Arena.Enclosed
import ClassScript.Proofs.Selector.Chain
import Mathlib.Data.List.Find

/-!
What is seen of a node. Markup, snapshots, texts and selectors look down, up and sideways from a node, but
never out of the tree that it is in. So a node is seen as before wherever work was done among enclosed
nodes only and the node is an outer one.
-/

namespace ClassScript.Document

open Relation Selector

/-- A node that is as it was in every respect: its kind and attributes, its place, and what is written,
told and found of it. -/
structure Unchanged (d changed : Document) (id : NodeId) : Prop where
  value?_eq : changed.value? id = d.value? id
  parent?_eq : changed.parent? id = d.parent? id
  children_eq : changed.children id = d.children id
  toHtml_eq : changed.toHtml id = d.toHtml id
  toJson_eq : changed.toJson id = d.toJson id
  textContent_eq : changed.textContent id = d.textContent id
  queryAll_eq : ∀ selector, changed.queryAll id selector = d.queryAll id selector
  query_eq : ∀ selector, changed.query id selector = d.query id selector
  matchesSelector_eq : ∀ selector, changed.matchesSelector id selector = d.matchesSelector id selector

section Outside

variable {d changed : Document} {inside : NodeId → Prop} {id : NodeId}

section Value

variable (hValue : changed.value? id = d.value? id)

include hValue

/-- Whether a node outside is an element is not changed by work inside. -/
theorem isElement_congr : changed.isElement id = d.isElement id := by
  rw [isElement, hValue, isElement]

/-- The attributes of a node outside are not changed by work inside. -/
theorem attribute?_congr (name : String) : changed.attribute? id name = d.attribute? id name := by
  rw [attribute?, attributes, hValue, attribute?, attributes]

/-- A condition looks at nothing but the node itself. -/
theorem meets_congr (simple : Selector.Simple) : changed.meets id simple = d.meets id simple := by
  cases simple with
  | universal => rfl
  | tag name => rw [meets, tag?, hValue, meets, tag?]
  | cls name => rw [meets, hasClass, attribute?_congr hValue, meets, hasClass]
  | id name => rw [meets, attribute?_congr hValue, meets]
  | «attribute» name => rw [meets, attribute?_congr hValue, meets]
  | attributeValue name comparison value => rw [meets, attribute?_congr hValue, meets]

end Value

variable (wf : d.WellFormed) (wfChanged : changed.WellFormed) (enclosed : d.Enclosed inside)
  (same : d.SameOutside inside changed)

include enclosed

/-- The parent of a node outside is outside as well. -/
theorem elementParent?_congr (same : d.SameOutside inside changed) (hId : ¬ inside id) :
    changed.elementParent? id = d.elementParent? id := by
  rw [elementParent?, same.parent?_eq id hId, elementParent?]
  cases hParent : d.parent? id with
  | none => rfl
  | some parent =>
      have hOuter : ¬ inside parent := enclosed.not_inside_of_above hId (TransGen.single hParent)
      rw [Option.filter_some, Option.filter_some, isElement_congr (same.value?_eq parent hOuter)]

include wf

/-- No combinator leads from an outer node to an inner one. -/
theorem StandsTo.not_inside {combinator : Combinator} {left right : NodeId}
    (h : d.StandsTo combinator left right) (hRight : ¬ inside right) : ¬ inside left := by
  have hSibling : ∀ {parent before between after}, d.Above parent right →
      d.children parent = before ++ left :: between ++ right :: after → ¬ inside left := by
    intro parent before between after hParent hChildren
    have hLeft : left ∈ d.children parent := by
      rw [hChildren]
      simp
    have hOuter := enclosed.not_inside_of_above hRight (TransGen.single hParent)
    exact enclosed.not_inside_of_below hOuter
      (ReflTransGen.single ((wf.mem_children_iff parent left).mp hLeft))
  cases h with
  | child h => exact enclosed.not_inside_of_above hRight (TransGen.single h.1)
  | descendant h => exact enclosed.not_inside_of_above hRight (TransGen.mono (fun _ _ h => h.1) _ _ h)
  | adjacentSibling hParent hChildren => exact hSibling hParent hChildren
  | generalSibling hParent hChildren => exact hSibling hParent hChildren

include same

/-- The siblings of a node outside are outside as well. -/
theorem earlierElements_congr (hId : ¬ inside id) :
    changed.earlierElements id = d.earlierElements id := by
  rw [earlierElements, same.parent?_eq id hId, earlierElements]
  cases hParent : d.parent? id with
  | none => rfl
  | some parent =>
      have hOuter : ¬ inside parent := enclosed.not_inside_of_above hId (TransGen.single hParent)
      simp only [same.children_eq parent hOuter]
      refine List.filter_congr fun sibling hSibling => isElement_congr (same.value?_eq sibling ?_)
      have hChild := (List.takeWhile_sublist _).mem (List.mem_reverse.mp hSibling)
      exact enclosed.not_inside_of_below hOuter
        (ReflTransGen.single ((wf.mem_children_iff parent sibling).mp hChild))

include wfChanged

/-- The induction follows the way up, one element parent after the other. -/
theorem elementAncestors_congr (hId : ¬ inside id) :
    changed.elementAncestors id = d.elementAncestors id := by
  induction wf.wellFounded_above.apply id with
  | intro id _ ih =>
      rw [elementAncestors_eq wfChanged, elementAncestors_eq wf,
        elementParent?_congr enclosed same hId]
      cases hParent : d.elementParent? id with
      | none => rfl
      | some parent =>
          have hAbove := ((elementParent?_eq_some_iff d parent id).mp hParent).1
          have hOuter := enclosed.not_inside_of_above hId (TransGen.single hAbove)
          exact congrArg _ (ih parent hAbove hOuter)

/-- Whatever a combinator leads to from outside is outside. -/
theorem related_congr (hId : ¬ inside id) (combinator : Combinator) :
    changed.related id combinator = d.related id combinator := by
  have hEarlier := earlierElements_congr wf enclosed same hId
  cases combinator with
  | descendant => exact elementAncestors_congr wf wfChanged enclosed same hId
  | child => rw [related, elementParent?_congr enclosed same hId, related]
  | adjacentSibling => rw [related, previousElement?, hEarlier, related, previousElement?]
  | generalSibling => exact hEarlier

/-- A search to the left that begins outside stays outside. -/
theorem satisfiesLeftward_congr (leftmost : Compound) (left : List (Combinator × Compound))
    (hId : ¬ inside id) :
    changed.satisfiesLeftward leftmost left id = d.satisfiesLeftward leftmost left id := by
  have hMeets : ∀ {id}, ¬ inside id → ∀ compound, changed.meetsAll id compound = d.meetsAll id compound :=
    fun hId compound => List.all_congr rfl fun simple => meets_congr (same.value?_eq _ hId) simple
  induction left generalizing id with
  | nil => exact hMeets hId leftmost
  | cons first rest ih =>
      obtain ⟨combinator, compound⟩ := first
      rw [satisfiesLeftward, satisfiesLeftward, hMeets hId,
        related_congr wf wfChanged enclosed same hId]
      congr 1
      rw [Bool.eq_iff_iff, List.any_eq_true, List.any_eq_true]
      refine exists_congr fun other => and_congr_right fun hOther => ?_
      rw [ih (((mem_related_iff wf combinator).mp hOther).not_inside wf enclosed hId)]

/-- A selector holds of a node outside as before. -/
theorem selected_congr (group : List Selector) (hId : ¬ inside id) :
    changed.selected group id = d.selected group id := by
  rw [selected, isElement_congr (same.value?_eq id hId), selected, satisfiesAny, satisfiesAny]
  exact congrArg _ (List.any_congr rfl fun selector =>
    satisfiesLeftward_congr wf wfChanged enclosed same _ _ hId)

/-- An outer node is as it was in every respect. -/
theorem unchanged_of_sameOutside (hId : ¬ inside id) : d.Unchanged changed id := by
  have hValue := same.value?_eq id hId
  have hBelow := enclosed.below_eq wf wfChanged same hId
  have hDescendants := enclosed.descendants_eq wf wfChanged same hId
  have hSelected : ∀ group, ∀ lower ∈ d.descendants id,
      changed.selected group lower = d.selected group lower := by
    intro group lower hLower
    refine selected_congr wf wfChanged enclosed same group ?_
    exact enclosed.not_inside_of_below hId (wf.mem_descendants_iff.mp hLower).to_reflTransGen
  refine ⟨hValue, same.parent?_eq id hId, same.children_eq id hId, ?_, ?_, ?_, fun text => ?_,
    fun text => ?_, fun text => ?_⟩
  · rw [toHtml, enclosed.forest_eq wf wfChanged same hId, toHtml]
  · rw [toJson, hValue, hBelow, toJson]
  · rw [textContent, hBelow, textContent]
  · rw [queryAll, hDescendants, queryAll]
    exact bind_congr fun group => congrArg pure (List.filter_congr (hSelected group))
  · rw [query, hDescendants, query]
    exact bind_congr fun group => congrArg pure (List.find?_congr (hSelected group))
  · rw [matchesSelector, matchesSelector]
    exact bind_congr fun group =>
      congrArg pure (selected_congr wf wfChanged enclosed same group hId)

end Outside

end ClassScript.Document
