import ClassScript.Proofs.Document.Seen
import ClassScript.Proofs.Json.Same
import ClassScript.Proofs.Run.Calls

/-!
What snapshots tell. A snapshot shows all that is seen of an element or of a document and of what is below
it, and nothing else, so that two of them are the same value just when the same is seen.
-/

namespace ClassScript

def SeenData.kind : SeenData → String
  | document => "document"
  | element .. => "element"
  | .text _ => "text"
  | .comment _ => "comment"

namespace Document

open Json (Same)

/-- What is told of a node in its snapshot, with the snapshots of its children. -/
def fields (data : NodeData) (children : List Json) : List (String × Json) :=
  match data with
  | .document => [("children", .array children)]
  | .element tag attributes =>
    [("tag", .string (LowerCase.lower tag)), ("attrs", attributesJson attributes),
      ("children", .array children)]
  | .text text | .comment text => [("text", .string text)]

def nodeJson (data : NodeData) (children : List Json) : Json :=
  .object (("type", .string data.seen.kind) :: fields data children)

/-- The snapshots of trees in which nothing is left out. -/
def treesJson : Forest NodeData → List Json
  | .nil => []
  | .cons data children rest => nodeJson data (treesJson children) :: treesJson rest

/-- A text of nothing but white space is left out. -/
theorem treesJson_text (text : String) (forest : Forest NodeData) :
    treesJson ((Forest.cons (.text text) .nil forest).without NodeData.isBlank) =
      seenText text ++ treesJson (forest.without NodeData.isBlank) := by
  have hBlank : (NodeData.text text).isBlank = text.toList.all Blank.isWide := rfl
  rw [Forest.without, hBlank, seenText]
  split
  · rfl
  · rfl

/-- A snapshot shows the nodes that are left when texts are joined and those without ink are left out. -/
theorem snapshots_eq_treesJson (before : String) (forest : Forest (NodeId × NodeData)) :
    snapshots before forest =
      treesJson ((withText before (joined (forest.map (·.2)))).without NodeData.isBlank) := by
  induction forest generalizing before with
  | nil => exact ((treesJson_text before .nil).trans (List.append_nil _)).symm
  | cons label children rest ihChildren ihRest =>
      obtain ⟨id, data⟩ := label
      have hApart := fun trees => treesJson_text before (.cons data (joined (children.map (·.2))) trees)
      rw [Forest.map, joined_cons]
      cases data with
      | text text =>
          rw [withText_withText]
          exact ihRest (before ++ text)
      | comment => exact ihRest before
      | document | element =>
          rw [snapshots, ihChildren, ihRest, without_withText_empty, without_withText_empty]
          exact (hApart _).symm

/-- Objects have no order, so attributes are told but for theirs. -/
theorem attributesJson_same_iff {attributes other : Attributes} (h : attributes.names.Nodup)
    (hOther : other.names.Nodup) :
    (attributesJson attributes).Same (attributesJson other) ↔
      attributes.entries.Perm other.entries := by
  have hSorted : ∀ entries : List (String × String),
      (entries.mergeSort fun a b => a.1 ≤ b.1).Perm entries := fun entries => List.mergeSort_perm entries _
  have hNames : ∀ entries : List (String × String), (entries.map (·.1)).Nodup →
      ((entries.mergeSort fun a b => a.1 ≤ b.1).map (·.1)).Nodup :=
    fun entries hNodup => ((hSorted entries).map _).nodup_iff.mpr hNodup
  refine Json.same_object_string_iff.trans ?_
  rw [forall_lookup_eq_iff_perm (hNames _ h) (hNames _ hOther), (hSorted _).congr_left,
    (hSorted _).congr_right]

/-- Every object says what kind of node it is for. -/
theorem kind_eq_of_same {data other : NodeData} {children others : List Json}
    (h : (nodeJson data children).Same (nodeJson other others)) : data.seen.kind = other.seen.kind := by
  rw [nodeJson, nodeJson, Json.same_object_iff] at h
  have hType := h "type"
  rwa [Attributes.lookup_cons_eq, Attributes.lookup_cons_eq, if_pos rfl, if_pos rfl, Option.rel_some_some,
    Json.same_string_iff] at hType

/-- Nodes of one kind are shown alike when the same is told of them. -/
theorem nodeJson_same_iff_fields {data other : NodeData} {children others : List Json}
    (hKind : data.seen.kind = other.seen.kind) :
    (nodeJson data children).Same (nodeJson other others) ↔
      List.Forall₂ (fun field other => Same field.2 other.2) (fields data children)
        (fields other others) := by
  have hNames : (fields data children).map (·.1) = (fields other others).map (·.1) ∧
      ("type" :: (fields data children).map (·.1)).Nodup := by
    cases data <;> cases other <;> simp_all [NodeData.seen, SeenData.kind, fields]
  rw [nodeJson, nodeJson, Json.same_object_iff_forall₂, List.forall₂_cons, Json.same_string_iff]
  · exact and_iff_right hKind
  · exact congrArg ("type" :: ·) hNames.1
  · exact hNames.2

/-- Objects of nodes are the same exactly where the nodes and what is below them are seen alike. -/
theorem nodeJson_same_iff {data other : NodeData} (hData : data.attributes.names.Nodup)
    (hOther : other.attributes.names.Nodup) (children others : List Json) :
    (nodeJson data children).Same (nodeJson other others) ↔
      data.seen = other.seen ∧ (data.isContainer = true → List.Forall₂ Same children others) := by
  by_cases hKind : data.seen.kind = other.seen.kind
  · rw [nodeJson_same_iff_fields hKind]
    cases data with
    | document =>
        cases other with
        | document =>
            simp [fields, NodeData.isContainer, NodeData.seen, SeenData.isContainer, Json.same_array_iff]
        | element | text | comment => simp [NodeData.seen, SeenData.kind] at hKind
    | element tag attributes =>
        cases other with
        | element tag' attributes' =>
            have hAttributes : (attributesJson attributes).Same (attributesJson attributes') ↔ _ :=
              attributesJson_same_iff hData hOther
            simp [fields, NodeData.isContainer, NodeData.seen, SeenData.isContainer, Json.same_string_iff,
              Json.same_array_iff, hAttributes, and_assoc]
        | document | text | comment => simp [NodeData.seen, SeenData.kind] at hKind
    | text text =>
        cases other with
        | text =>
            simp [fields, NodeData.isContainer, NodeData.seen, SeenData.isContainer, Json.same_string_iff]
        | document | element | comment => simp [NodeData.seen, SeenData.kind] at hKind
    | comment text =>
        cases other with
        | comment =>
            simp [fields, NodeData.isContainer, NodeData.seen, SeenData.isContainer, Json.same_string_iff]
        | document | element | text => simp [NodeData.seen, SeenData.kind] at hKind
  · refine iff_of_false (fun h => hKind (kind_eq_of_same h)) fun h => hKind ?_
    rw [h.1]

/-- Trees in which attributes have distinct names and nodes are only below elements and documents. -/
def Tidy : Forest NodeData → Prop
  | .nil => True
  | .cons data children rest =>
    data.attributes.names.Nodup ∧ (data.isContainer = false → children = .nil) ∧ Tidy children ∧ Tidy rest

/-- Without ids nothing is lost that a snapshot shows. -/
theorem tidy_bare {forest : Forest NodeData} (h : ∀ data ∈ forest.labels, data.attributes.names.Nodup) :
    Tidy (bare forest) := by
  induction forest with
  | nil => trivial
  | cons data children rest ihChildren ihRest =>
      simp only [Forest.labels, List.forall_mem_cons, List.forall_mem_append] at h
      obtain ⟨hData, hChildren, hRest⟩ := h
      refine ⟨hData, fun hLeaf => ?_, ?_, ihRest hRest⟩
      · rw [hLeaf]
        rfl
      · split
        · exact ihChildren hChildren
        · trivial

namespace Tidy

variable {forest other : Forest NodeData}

/-- Leaving nodes out brings no texts together in tidy trees. -/
theorem without (h : Tidy forest) (gone : NodeData → Bool) : Tidy (forest.without gone) := by
  induction forest with
  | nil => trivial
  | cons data children rest ihChildren ihRest =>
      obtain ⟨hData, hLeaf, hChildren, hRest⟩ := h
      rw [Forest.without]
      split
      · exact ihRest hRest
      · refine ⟨hData, fun hNot => ?_, ihChildren hChildren, ihRest hRest⟩
        rw [hLeaf hNot]
        rfl

/-- A text in front of tidy trees is joined with one that is there. -/
theorem withText (h : Tidy forest) (text : String) : Tidy (withText text forest) := by
  have hText : Tidy (.cons (.text text) .nil forest) :=
    ⟨List.nodup_nil, fun _ => rfl, trivial, h⟩
  match forest with
  | .nil | .cons .document .. | .cons (.element ..) .. | .cons (.comment _) .. => exact hText
  | .cons (.text next) children rest => exact h

/-- Merging makes trees tidy if their attributes have distinct names. -/
theorem merged (h : Tidy forest) : Tidy (merged forest) := by
  induction forest with
  | nil => trivial
  | cons data children rest ihChildren ihRest =>
      obtain ⟨hData, hLeaf, hChildren, hRest⟩ := h
      cases data with
      | text text => exact (ihRest hRest).withText text
      | comment =>
          refine ⟨hData, fun hNot => ?_, ihChildren hChildren, ihRest hRest⟩
          rw [hLeaf hNot]
          rfl
      | document | element => exact ⟨hData, nofun, ihChildren hChildren, ihRest hRest⟩

/-- Snapshots show trees up to what is not seen. -/
theorem treesJson_same_iff (h : Tidy forest) (hOther : Tidy other) :
    List.Forall₂ Same (treesJson forest) (treesJson other) ↔
      forest.map NodeData.seen = other.map NodeData.seen := by
  induction forest generalizing other with
  | nil =>
      cases other with
      | nil => exact iff_of_true .nil rfl
      | cons => exact iff_of_false nofun nofun
  | cons data children rest ihChildren ihRest =>
      cases other with
      | nil => exact iff_of_false nofun nofun
      | cons data' children' rest' =>
          obtain ⟨hData, hLeaf, hChildren, hRest⟩ := h
          obtain ⟨hData', hLeaf', hChildren', hRest'⟩ := hOther
          rw [treesJson, treesJson, List.forall₂_cons, nodeJson_same_iff hData hData', ihRest hRest hRest',
            ihChildren hChildren hChildren', Forest.map, Forest.map, Forest.cons.injEq, and_assoc]
          refine and_congr_right fun hSeen => and_congr_left fun _ => ?_
          have hKind : data'.isContainer = data.isContainer := congrArg SeenData.isContainer hSeen.symm
          cases hContainer : data.isContainer with
          | true => simp
          | false => simp [hLeaf hContainer, hLeaf' (hKind.trans hContainer)]

end Tidy

def subtree (d : Document) (id : NodeId) : Forest NodeData := (d.forest [id]).map (·.2)

def isContainer (d : Document) (id : NodeId) : Bool := (d.value? id).any NodeData.isContainer

variable {d e : Document} {id other : NodeId}

/-- What a snapshot is made of is tidy, in any document that can be made. -/
theorem Reachable.tidy_subtree (h : d.Reachable) (id : NodeId) :
    Tidy ((joined (d.subtree id)).without NodeData.isBlank) := by
  have hNames : ∀ data ∈ (d.subtree id).labels, data.attributes.names.Nodup := by
    intro data hData
    rw [subtree, Forest.labels_map] at hData
    obtain ⟨label, hLabel, rfl⟩ := List.mem_map.mp hData
    have hOrdered := h.ordered_attributes label.1
    rw [Document.attributes, Arena.value?_of_mem_labels_unfold hLabel] at hOrdered
    exact hOrdered.nodup
  exact ((tidy_bare hNames).without _).merged.without _

/-- A snapshot shows the trees with their texts joined and without the blank ones. -/
theorem Reachable.toJson_eq (h : d.Reachable) (hId : d.isContainer id = true) :
    [d.toJson id] = treesJson ((joined (d.subtree id)).without NodeData.isBlank) := by
  obtain ⟨data, hValue, hContainer⟩ := (Option.any_eq_true _ _).mp hId
  rw [subtree, h.wellFormed.forest_cons_of_value? hValue, Forest.map, joined_cons, toJson, hValue]
  cases data with
  | document | element =>
      simp only [snapshots_eq_treesJson, without_withText_empty]
      rfl
  | text | comment => cases hContainer

/-- The snapshots of two elements or documents are the same value exactly when the same is seen of them and
of what is below them. So texts may be cut, comments put in and attributes reordered. -/
theorem toJson_same_iff (hD : d.Reachable) (hE : e.Reachable) (hId : d.isContainer id = true)
    (hOther : e.isContainer other = true) :
    ((d.toJson id).Same (e.toJson other) ↔ seen (d.subtree id) = seen (e.subtree other)) ∧
      (Relation.EqvGen Retouch (d.subtree id) (e.subtree other) →
        (d.toJson id).Same (e.toJson other)) := by
  have hSeen : (d.toJson id).Same (e.toJson other) ↔
      seen (d.subtree id) = seen (e.subtree other) := by
    rw [seen, seen, ← (hD.tidy_subtree id).treesJson_same_iff (hE.tidy_subtree other), ← hD.toJson_eq hId,
      ← hE.toJson_eq hOther, List.forall₂_cons]
    exact (and_iff_left .nil).symm
  exact ⟨hSeen, fun hRetouched => hSeen.mpr (seen_eq_of_eqvGen hRetouched)⟩

/-- Calls on an empty document that put a text into an element in two pieces around a comment, and a blank
text behind a line break. -/
def inPieces : List (Call Unit) :=
  [.createElement "P", .createText "a ", .createComment "c", .createText "b", .createElement "br",
    .createText "\n", .append ⟨1⟩ ⟨2⟩, .append ⟨1⟩ ⟨3⟩, .append ⟨1⟩ ⟨4⟩, .append ⟨1⟩ ⟨5⟩, .append ⟨1⟩ ⟨6⟩,
    .setAttribute ⟨1⟩ "id" "1", .setAttribute ⟨1⟩ "title" "t"]

/-- Calls on an empty document that put the text into an element as a whole, without the blank one. -/
def inOnePiece : List (Call Unit) :=
  [.createText "a b", .createElement "br", .createElement "p", .append ⟨3⟩ ⟨1⟩, .append ⟨3⟩ ⟨2⟩,
    .setAttribute ⟨3⟩ "title" "t", .setAttribute ⟨3⟩ "id" "1"]

/-- A text in two pieces with a comment between them is seen as one text. -/
theorem toJson_same_inPieces :
    let start : Session Unit := { document := .empty, memory := () }
    let d := (start.after inPieces).document
    let e := (start.after inOnePiece).document
    d.Reachable ∧ e.Reachable ∧ d.isContainer ⟨1⟩ = true ∧ e.isContainer ⟨3⟩ = true ∧
      (d.toJson ⟨1⟩).Same (e.toJson ⟨3⟩) := by
  intro start d e
  have hD : d.Reachable := Session.reachable_after .empty (by simp [inPieces, Call.Fair])
  have hE : e.Reachable := Session.reachable_after .empty (by simp [inOnePiece, Call.Fair])
  have hId : d.isContainer ⟨1⟩ = true := by decide +kernel
  have hOther : e.isContainer ⟨3⟩ = true := by decide +kernel
  let shown (attributes : List (String × String)) : Forest SeenData :=
    .cons (.element "p" attributes)
      (.cons (.text "a b") .nil (.cons (.element "br" (Multiset.ofList [])) .nil .nil)) .nil
  have hSeen : seen (d.subtree ⟨1⟩) = shown [("id", "1"), ("title", "t")] := by decide +kernel
  have hSeenWhole : seen (e.subtree ⟨3⟩) = shown [("title", "t"), ("id", "1")] := by decide +kernel
  have hOrder : ([("id", "1"), ("title", "t")] : Multiset (String × String)) =
      [("title", "t"), ("id", "1")] := Multiset.coe_eq_coe.mpr (by decide)
  refine ⟨hD, hE, hId, hOther, (toJson_same_iff hD hE hId hOther).1.mpr ?_⟩
  rw [hSeen, hSeenWhole]
  simp only [shown, hOrder]

end Document

end ClassScript
