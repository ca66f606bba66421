import ClassScript.Document.Snapshot
import ClassScript.Proofs.Document.Attributes
import Mathlib.Data.Multiset.Defs

/-!
Trees as readers see them. How a text is cut into nodes, comments, the case of tags and the order of
attributes are not seen, and neither are texts of white space only. What is seen is worked out in steps,
each of which takes one of these away.
-/

namespace ClassScript

namespace Forest

variable {α β : Type}

/-- Trees without some of their nodes, and without what is below these. -/
def without (gone : α → Bool) : Forest α → Forest α
  | nil => nil
  | cons label children siblings =>
    if gone label then siblings.without gone
    else cons label (children.without gone) (siblings.without gone)

/-- Leaving nodes out does not depend on what else is forgotten of the others. -/
theorem map_without (f : α → β) (gone : β → Bool) (forest : Forest α) :
    (forest.without fun label => gone (f label)).map f = (forest.map f).without gone := by
  induction forest with
  | nil => rfl
  | cons label children siblings ihChildren ihSiblings =>
      rw [without, map, without]
      split
      · exact ihSiblings
      · rw [map, ihChildren, ihSiblings]

end Forest

inductive SeenData where
  | document
  | element (tag : String) (attributes : Multiset (String × String))
  | text (text : String)
  | comment (text : String)
deriving DecidableEq

namespace SeenData

def isContainer : SeenData → Bool
  | document | element .. => true
  | .text _ | .comment _ => false

def isBlank : SeenData → Bool
  | .text content => content.toList.all Blank.isWide
  | document | element .. | .comment _ => false

def isComment : SeenData → Bool
  | .comment _ => true
  | document | element .. | .text _ => false

end SeenData

namespace NodeData

/-- The case of a tag is not seen, and neither is the order of attributes. -/
def seen : NodeData → SeenData
  | document => .document
  | element tag attributes => .element (LowerCase.lower tag) attributes.entries
  | .text content => .text content
  | .comment content => .comment content

def isContainer (data : NodeData) : Bool := data.seen.isContainer

def isBlank (data : NodeData) : Bool := data.seen.isBlank

def isComment (data : NodeData) : Bool := data.seen.isComment

end NodeData

namespace Document

/-- Trees without what is below texts and comments. -/
def bare : Forest NodeData → Forest NodeData
  | .nil => .nil
  | .cons data children rest =>
    .cons data (if data.isContainer then bare children else .nil) (bare rest)

/-- Trees with a text in front of them, which goes on with a text that they begin with. -/
def withText (text : String) : Forest NodeData → Forest NodeData
  | .cons (.text next) children rest => .cons (.text (text ++ next)) children rest
  | forest => .cons (.text text) .nil forest

/-- Trees in which texts that stood one after the other are one text. Nothing is below texts here. -/
def merged : Forest NodeData → Forest NodeData
  | .nil => .nil
  | .cons data children rest =>
    match data with
    | .text text => withText text (merged rest)
    | data => .cons data (merged children) (merged rest)

/-- Trees without comments, in which no text stands next to another. -/
def joined (forest : Forest NodeData) : Forest NodeData :=
  merged ((bare forest).without NodeData.isComment)

/-- What is seen of trees. -/
def seen (forest : Forest NodeData) : Forest SeenData :=
  ((joined forest).without NodeData.isBlank).map NodeData.seen

/-- Texts are joined from the back, and comments between them do not keep them apart. -/
theorem joined_cons (data : NodeData) (children rest : Forest NodeData) :
    joined (.cons data children rest) =
      match data with
      | .text text => withText text (joined rest)
      | .comment _ => joined rest
      | data => .cons data (joined children) (joined rest) := by
  cases data <;> rfl

/-- A text that is put in front of another one goes on with it. -/
theorem withText_withText (first second : String) (forest : Forest NodeData) :
    withText first (withText second forest) = withText (first ++ second) forest := by
  match forest with
  | .nil | .cons .document .. | .cons (.element ..) .. | .cons (.comment _) .. => rfl
  | .cons (.text next) children rest => simp only [withText, String.append_assoc]

/-- An empty text is not seen. -/
theorem without_withText_empty (forest : Forest NodeData) :
    (withText "" forest).without NodeData.isBlank = forest.without NodeData.isBlank := by
  have hBlank : (NodeData.text "").isBlank = true := by decide
  match forest with
  | .nil | .cons .document .. | .cons (.element ..) .. | .cons (.comment _) .. => exact if_pos hBlank
  | .cons (.text next) children rest => rw [withText, String.empty_append]

/-- One way to change trees that is not seen. -/
inductive Retouch : Forest NodeData → Forest NodeData → Prop where
  | split (first second : String) (below belowFirst belowSecond rest : Forest NodeData) :
      Retouch (.cons (.text (first ++ second)) below rest)
        (.cons (.text first) belowFirst (.cons (.text second) belowSecond rest))
  | comment (text : String) (below rest : Forest NodeData) : Retouch rest (.cons (.comment text) below rest)
  | reorder (tag : String) {attributes other : Attributes} (h : attributes.entries.Perm other.entries)
      (children rest : Forest NodeData) :
      Retouch (.cons (.element tag attributes) children rest) (.cons (.element tag other) children rest)
  | inside (data : NodeData) {children changed : Forest NodeData} (h : Retouch children changed)
      (rest : Forest NodeData) : Retouch (.cons data children rest) (.cons data changed rest)
  | behind (data : NodeData) (children : Forest NodeData) {rest changed : Forest NodeData}
      (h : Retouch rest changed) : Retouch (.cons data children rest) (.cons data children changed)

/-- What is seen behind a text does not depend on more than what is seen without it. -/
theorem map_withText_congr (text : String) {forest other : Forest NodeData}
    (h : forest.map NodeData.seen = other.map NodeData.seen) :
    (withText text forest).map NodeData.seen = (withText text other).map NodeData.seen := by
  cases forest with
  | nil =>
      cases other with
      | nil => rfl
      | cons => cases h
  | cons data children rest =>
      cases other with
      | nil => cases h
      | cons data' children' rest' =>
          obtain ⟨hData, hChildren, hRest⟩ := Forest.cons.inj h
          cases data <;> cases data' <;> simp_all [withText, Forest.map, NodeData.seen]

/-- Retouching does not show once neighbouring texts are joined. -/
theorem Retouch.map_joined {forest changed : Forest NodeData} (h : Retouch forest changed) :
    (joined forest).map NodeData.seen = (joined changed).map NodeData.seen := by
  induction h with
  | split first second below belowFirst belowSecond rest =>
      simp only [joined_cons, withText_withText]
  | comment => rw [joined_cons]
  | reorder tag h children rest =>
      simp only [joined_cons, Forest.map, NodeData.seen, Multiset.coe_eq_coe.mpr h]
  | inside data h rest ih =>
      cases data <;> simp only [joined_cons, Forest.map, ih]
  | behind data children h ih =>
      cases data with
      | text text => exact map_withText_congr text ih
      | comment => exact ih
      | document | element => simp only [joined_cons, Forest.map, ih]

/-- Retouching does not show. -/
theorem Retouch.seen_eq {forest changed : Forest NodeData} (h : Retouch forest changed) :
    seen forest = seen changed := by
  have hSeen : ∀ trees : Forest NodeData, (trees.without NodeData.isBlank).map NodeData.seen =
      (trees.map NodeData.seen).without SeenData.isBlank :=
    Forest.map_without NodeData.seen SeenData.isBlank
  rw [seen, hSeen, h.map_joined, ← hSeen, seen]

/-- Nothing that is seen comes or goes in any number of such changes, made or taken back. -/
theorem seen_eq_of_eqvGen {forest changed : Forest NodeData}
    (h : Relation.EqvGen Retouch forest changed) : seen forest = seen changed := by
  induction h with
  | rel _ _ h => exact h.seen_eq
  | refl => rfl
  | symm _ _ _ ih => exact ih.symm
  | trans _ _ _ _ _ ihFirst ihNext => exact ihFirst.trans ihNext

end Document

end ClassScript
