import ClassScript.Document.Query
import ClassScript.Proofs.Arena.DocumentOrder
import ClassScript.Proofs.Selector.Chain

/-!
Queries. The three ways to ask with the text of a selector refuse the same texts. For a text that is read,
a query finds the elements below its node of which the selector holds, in document order. Where the query
begins decides only which nodes are looked at; the chain of nodes that a selector asks for may run anywhere
in the document.
-/

namespace ClassScript.Document

open Relation Selector

variable {d : Document} {text : String} {group : List Selector}

/-- A text that cannot be read is named in the failure. -/
theorem readSelector_of_none (h : readGroup? text = none) :
    readSelector text = .error (.invalidSelector text) := by
  rw [readSelector, h]

theorem readSelector_of_some (h : readGroup? text = some group) : readSelector text = .ok group := by
  rw [readSelector, h]

/-- To match is to be selected by some selector of the group. -/
theorem matchesSelector_of_some (h : readGroup? text = some group) (id : NodeId) :
    d.matchesSelector id text = .ok (d.selected group id) := by
  rw [matchesSelector, readSelector_of_some h]
  rfl

/-- What is found is what is selected among the descendants, in their order. -/
theorem queryAll_of_some (h : readGroup? text = some group) (root : NodeId) :
    d.queryAll root text = .ok ((d.descendants root).filter (d.selected group)) := by
  rw [queryAll, readSelector_of_some h]
  rfl

/-- The first that is found is the first of all that are found. -/
theorem query_of_some (h : readGroup? text = some group) (root : NodeId) :
    d.query root text = .ok ((d.descendants root).filter (d.selected group)).head? := by
  rw [query, readSelector_of_some h, List.head?_filter]
  rfl

/-- An element at which a chain for one of the selectors ends. The chain may come from above the node that
a query begins at, and from beside it. -/
def EndsChain (d : Document) (group : List Selector) (id : NodeId) : Prop :=
  d.isElement id = true ∧
    ∃ selector ∈ group, ∃ nodes, d.Chain selector nodes ∧ nodes.getLast? = some id

/-- A group selects an element exactly where a chain of elements leads to it as one selector asks. -/
theorem selected_iff_endsChain (wf : d.WellFormed) (group : List Selector) (id : NodeId) :
    d.selected group id = true ↔ d.EndsChain group id := by
  rw [selected, Bool.and_eq_true, satisfiesAny, List.any_eq_true, EndsChain]
  exact and_congr_right fun _ => exists_congr fun selector =>
    and_congr_right fun _ => satisfies_iff_chain wf id selector

/-- What a text finds below a node: each node below it that the text matches, once and in document order.
A query from a node further down finds those of them that are below that node. -/
structure Finds (d : Document) (root : NodeId) (text : String) (found : List NodeId) : Prop where
  queryAll_eq : d.queryAll root text = .ok found
  query_eq : d.query root text = .ok found.head?
  listsInOrder : d.ListsInOrder
    (fun id => TransGen d.Above root id ∧ d.matchesSelector id text = .ok true) found
  further : ∀ lower, ReflTransGen d.Above root lower → ∃ inner, d.queryAll lower text = .ok inner ∧
    inner.Sublist found ∧ ∀ id, id ∈ inner ↔ id ∈ found ∧ TransGen d.Above lower id

/-- The listed answers are all the right ones, in document order, and each of them once. -/
theorem finds_of_some (wf : d.WellFormed) (h : readGroup? text = some group) (root : NodeId) :
    d.Finds root text ((d.descendants root).filter (d.selected group)) where
  queryAll_eq := queryAll_of_some h root
  query_eq := query_of_some h root
  listsInOrder := (wf.listsInOrder_descendants root).filter fun id => by
    rw [matchesSelector_of_some h, Except.ok.injEq]
  further lower hLower := by
    refine ⟨_, queryAll_of_some h lower, ?_, fun id => ?_⟩
    · rw [wf.descendants_eq_filter hLower]
      exact List.filter_sublist.filter _
    · have hRoot : TransGen d.Above lower id → TransGen d.Above root id := TransGen.trans_right hLower
      rw [List.mem_filter, List.mem_filter, wf.mem_descendants_iff, wf.mem_descendants_iff]
      tauto

/-- The three ways to ask with a text agree: all of them refuse it with the same error, or all of them
answer, and then they answer by the same elements. -/
structure Answers (d : Document) (root : NodeId) (text : String) : Prop where
  refused : readGroup? text = none →
    d.queryAll root text = .error (.invalidSelector text) ∧
      d.query root text = .error (.invalidSelector text) ∧
        ∀ id, d.matchesSelector id text = .error (.invalidSelector text)
  answered : ∀ group, readGroup? text = some group →
    (∀ id, ∃ holds, d.matchesSelector id text = .ok holds ∧ (holds = true ↔ d.EndsChain group id)) ∧
      ∃ found, d.Finds root text found

/-- In every document that can be made, queries from any node and with any text agree. -/
theorem Reachable.answers (hReachable : d.Reachable) (root : NodeId) (text : String) :
    d.Answers root text where
  refused h := by
    refine ⟨?_, ?_, fun id => ?_⟩
    · rw [queryAll, readSelector_of_none h]
      rfl
    · rw [query, readSelector_of_none h]
      rfl
    · rw [matchesSelector, readSelector_of_none h]
      rfl
  answered group h := by
    have wf := hReachable.wellFormed
    refine ⟨fun id => ⟨_, matchesSelector_of_some h id, selected_iff_endsChain wf group id⟩, ?_⟩
    exact ⟨_, finds_of_some wf h root⟩

/-- A section of two paragraphs with bold text, in no place of the document. -/
def looseSection : Document where
  nodes := #[
    { value := .document },
    { value := .element "section" {}, children := [⟨2⟩, ⟨4⟩] },
    { value := .element "p" {}, parent := some ⟨1⟩, children := [⟨3⟩] },
    { value := .element "b" {}, parent := some ⟨2⟩ },
    { value := .element "p" {}, parent := some ⟨1⟩, children := [⟨5⟩] },
    { value := .element "b" {}, parent := some ⟨4⟩ }]

theorem reachable_looseSection : looseSection.Reachable := by
  have hSection := Reachable.empty.change (.createElement _ "section")
  have hFirst := (hSection.change (.createElement _ "p")).change (.createElement _ "b")
  have hSecond := (hFirst.change (.createElement _ "p")).change (.createElement _ "b")
  have hBold := (hSecond.change (@Change.append _ _ ⟨2⟩ ⟨3⟩ rfl)).change (@Change.append _ _ ⟨4⟩ ⟨5⟩ rfl)
  exact (hBold.change (@Change.append _ _ ⟨1⟩ ⟨2⟩ rfl)).change (@Change.append _ _ ⟨1⟩ ⟨4⟩ rfl)

/-- From the second paragraph its bold text is found for what comes before the paragraph and above it,
and the paragraph itself is not looked at. -/
theorem answers_looseSection :
    looseSection.Reachable ∧ readGroup? "section > p + p b, p" ≠ none ∧
      (∃ found, looseSection.Finds ⟨4⟩ "section > p + p b, p" found ∧ found = [⟨5⟩]) ∧
      looseSection.queryAll ⟨1⟩ "section > p + p b, p" = .ok [⟨2⟩, ⟨4⟩, ⟨5⟩] ∧
      looseSection.queryAll ⟨4⟩ "p >" = .error (.invalidSelector "p >") := by
  have hRead : readGroup? "section > p + p b, p" ≠ none := by decide +kernel
  obtain ⟨group, hGroup⟩ := Option.ne_none_iff_exists'.mp hRead
  obtain ⟨found, hFound⟩ := ((reachable_looseSection.answers ⟨4⟩ _).answered group hGroup).2
  have hAll : looseSection.queryAll ⟨4⟩ "section > p + p b, p" = .ok [⟨5⟩] := by decide +kernel
  refine ⟨reachable_looseSection, hRead, ⟨found, hFound, ?_⟩, by decide +kernel, ?_⟩
  · exact Except.ok.inj (hFound.queryAll_eq.symm.trans hAll)
  · exact ((reachable_looseSection.answers ⟨4⟩ "p >").refused (by decide +kernel)).1

end ClassScript.Document
