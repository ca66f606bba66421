import ClassScript.Proofs.Document.Attributes
import ClassScript.Proofs.Document.ClassViews
import Mathlib.Data.List.Nodup

/-!
Classes that are changed again and again. The list of classes is kept nowhere: each call reads it from the
text of the class attribute and writes it back as text. Over any run of calls it is an ordered set all the
same, and nothing else of the document changes.
-/

namespace ClassScript

inductive ClassCall where
  | add (tokens : List String)
  | remove (tokens : List String)

namespace ClassCall

/-- What a call is to make of an ordered set, one of its tokens after the other: a token that is not there
is put last, and one that is to go is taken out of its place. -/
def onSet : ClassCall → List String → List String
  | add tokens, set => tokens.foldl (fun set token => if token ∈ set then set else set ++ [token]) set
  | remove tokens, set => tokens.foldl List.erase set

/-- The ordered set of a class text: its words in the order in which they are first seen. -/
def firstSeen : Option String → List String
  | some text => (Ascii.words text).eraseDups
  | none => []

def setAfter (text? : Option String) (calls : List ClassCall) : List String :=
  calls.foldl (fun set call => call.onSet set) (firstSeen text?)

end ClassCall

namespace ClassList

variable {classes : ClassList}

/-- Adding a token that is there changes nothing, not even the order. -/
theorem tokens_add (classes : ClassList) (token : String) :
    (classes.add token).2.tokens =
      if token ∈ classes.tokens then classes.tokens else classes.tokens ++ [token] := by
  rw [add, contains_eq_decide]
  by_cases h : token ∈ classes.tokens <;> simp [h]

/-- Tokens are added one after the other, as to the ordered set. -/
theorem tokens_addAll (classes : ClassList) (tokens : List String) :
    (classes.addAll tokens).tokens = (ClassCall.add tokens).onSet classes.tokens := by
  induction tokens generalizing classes with
  | nil => rfl
  | cons first rest ih =>
      rw [addAll_cons, ih, tokens_add]
      rfl

/-- Where tokens are distinct, one that is removed is gone. -/
theorem tokens_removeAll (hNodup : classes.tokens.Nodup) (tokens : List String) :
    (classes.removeAll tokens).tokens = (ClassCall.remove tokens).onSet classes.tokens := by
  induction tokens generalizing classes with
  | nil => rfl
  | cons first rest ih =>
      have hErase : (classes.remove first).2.tokens = classes.tokens.erase first := by
        rw [remove, hNodup.erase_eq_filter]
        exact List.filter_congr fun token _ => Bool.eq_iff_iff.mpr (by simp)
      rw [removeAll_cons, ih (hErase ▸ hNodup.erase first), hErase]
      rfl

/-- Tokens are added in the order in which they are first seen. -/
theorem tokens_addAll_eq_append (classes : ClassList) (tokens : List String) :
    (classes.addAll tokens).tokens =
      classes.tokens ++ (tokens.filter (· ∉ classes.tokens)).eraseDups := by
  induction tokens generalizing classes with
  | nil => simp [addAll]
  | cons first rest ih =>
      rw [addAll_cons, ih, tokens_add]
      by_cases hFirst : first ∈ classes.tokens
      · rw [if_pos hFirst, List.filter_cons_of_neg (by simpa using hFirst)]
      · rw [if_neg hFirst, List.filter_cons_of_pos (by simpa using hFirst), List.eraseDups_cons,
          List.filter_filter, List.append_assoc, List.singleton_append]
        congr 3
        refine List.filter_congr fun token _ => Bool.eq_iff_iff.mpr ?_
        simp [and_comm]

/-- A class text is read as the ordered set of its words. -/
theorem tokens_ofText? (text? : Option String) :
    (ofText? text?).tokens = ClassCall.firstSeen text? := by
  cases text? with
  | none => rfl
  | some text =>
      rw [ofText?, parse, tokens_addAll_eq_append, ClassCall.firstSeen]
      simp

end ClassList

namespace Attributes

def withText (attributes : Attributes) : Option String → Attributes
  | some text => attributes.set "class" text
  | none => attributes

/-- Writing the class text that is there changes nothing. -/
theorem withText_get? (attributes : Attributes) :
    attributes.withText (attributes.get? "class") = attributes := by
  cases h : attributes.get? "class" with
  | none => rfl
  | some text => exact congrArg Attributes.mk (setIn_of_lookup h)

end Attributes

namespace ClassCall

variable {d middle changed : Document} {id : NodeId} {call : ClassCall} {calls : List ClassCall}

def make (id : NodeId) (d : Document) : ClassCall → Except DomError Document
  | add tokens => d.addClasses id tokens
  | remove tokens => d.removeClasses id tokens

def onClasses : ClassCall → ClassList → ClassList
  | add tokens, classes => classes.addAll tokens
  | remove tokens, classes => classes.removeAll tokens

/-- A call does to the list of classes what it does to the ordered set. -/
theorem tokens_onClasses (call : ClassCall) {classes : ClassList} (h : classes.Sound) :
    (call.onClasses classes).tokens = call.onSet classes.tokens := by
  cases call with
  | add tokens => exact classes.tokens_addAll tokens
  | remove tokens => exact ClassList.tokens_removeAll h.nodup tokens

/-- A call that succeeds changes the attributes of one element. -/
theorem changeAttributes_of_make (h : call.make id d = .ok changed) :
    d.changeAttributes id (Document.withClasses call.onClasses) = .ok changed := by
  cases call with
  | add tokens => exact (Document.addClasses_cases h).2
  | remove tokens => exact (Document.removeClasses_cases h).2

/-- The classes behind a call are those in front of it, with the call made on them. -/
theorem classList_of_make (h : call.make id d = .ok changed) :
    changed.classList id = call.onClasses (d.classList id) := by
  cases call with
  | add tokens => exact (Document.classList_of_addClasses h id).trans (if_pos rfl)
  | remove tokens => exact (Document.classList_of_removeClasses h id).trans (if_pos rfl)

theorem change_of_make (h : call.make id d = .ok changed) : Document.Change d changed := by
  cases call with
  | add tokens => exact .addClasses h
  | remove tokens => exact .removeClasses h

/-- One call refines one step of the ordered set. -/
theorem tokens_of_make (h : call.make id d = .ok changed) :
    (changed.classList id).tokens = call.onSet (d.classList id).tokens := by
  rw [classList_of_make h]
  exact call.tokens_onClasses (d.attributes id).sound_classes

/-- How a call leaves an ordered set in the class attribute: not at all if it is empty and there was no
such attribute, and else as a text from which it is read again. -/
def Writes (d : Document) (id : NodeId) (set : List String) (changed : Document) : Prop :=
  (d.attribute? id "class" = none ∧ set = [] ∧ changed.attribute? id "class" = none) ∨
    (changed.attribute? id "class" = some (" ".intercalate set) ∧
      ClassList.parse (" ".intercalate set) = { tokens := set })

/-- The class attribute is written anew from the classes, or is not there and stays away. -/
theorem writes_of_make (h : call.make id d = .ok changed) :
    Writes d id (changed.classList id).tokens changed := by
  have hAttributes : changed.attributes id = Document.withClasses call.onClasses (d.attributes id) := by
    rw [Document.attributes_of_changeAttributes (changeAttributes_of_make h), if_pos rfl]
  have hClasses : changed.classList id = call.onClasses (d.attributes id).classes := classList_of_make h
  rcases (d.attributes id).withClasses_cases call.onClasses with ⟨hNone, hEmpty, hSame⟩ | hSet
  · rw [hSame] at hAttributes
    have hNew : changed.attribute? id "class" = none := by
      rw [Document.attribute?, hAttributes, hNone]
    refine .inl ⟨hNone, ?_, hNew⟩
    rw [Document.classList, hNew]
  · refine .inr ⟨?_, ?_⟩
    · rw [Document.attribute?, hAttributes, hSet, Attributes.get?_set, if_pos rfl, hClasses]
      rfl
    · exact ClassList.parse_text (changed.attributes id).sound_classes

/-- Nothing was changed but attributes of one element. -/
structure SameButAttributes (d : Document) (id : NodeId) (changed : Document) : Prop where
  tag?_eq : changed.tag? id = d.tag? id
  parent?_eq : changed.parent? id = d.parent? id
  children_eq : changed.children id = d.children id
  node?_eq : ∀ other, other ≠ id → changed.node? other = d.node? other

/-- An element that is given attributes is otherwise the same. -/
theorem sameButAttributes_setValue {tag : String} {attributes : Attributes}
    (hElement : d.value? id = some (.element tag attributes)) (given : Attributes) :
    SameButAttributes d id (d.setValue id (.element tag given)) where
  tag?_eq := by
    rw [Document.tag?, Arena.value?_setValue, if_pos rfl, Document.tag?, hElement]
    rfl
  parent?_eq := Arena.parent?_setValue d id _ id
  children_eq := Arena.children_setValue d id _ id
  node?_eq other hOther := by rw [Arena.setValue, Arena.node?_modify, if_neg (Ne.symm hOther)]

/-- Nothing was changed but the class text of one element. -/
structure OnlyText (d : Document) (id : NodeId) (changed : Document) : Prop
    extends SameButAttributes d id changed where
  attributes_eq : changed.attributes id = (d.attributes id).withText (changed.attribute? id "class")

theorem onlyText_refl (d : Document) (id : NodeId) : OnlyText d id d :=
  ⟨⟨rfl, rfl, rfl, fun _ _ => rfl⟩, ((d.attributes id).withText_get?).symm⟩

/-- Two runs in a row that change nothing but a class text change nothing else together. -/
theorem OnlyText.trans (first : OnlyText d id middle) (next : OnlyText middle id changed) :
    OnlyText d id changed where
  tag?_eq := next.tag?_eq.trans first.tag?_eq
  parent?_eq := next.parent?_eq.trans first.parent?_eq
  children_eq := next.children_eq.trans first.children_eq
  node?_eq other hOther := (next.node?_eq other hOther).trans (first.node?_eq other hOther)
  attributes_eq := by
    have hNext := next.attributes_eq
    cases hText : changed.attribute? id "class" with
    | none =>
        rw [hText] at hNext
        have hMiddle : middle.attribute? id "class" = none := by
          rw [← hText, Document.attribute?, Document.attribute?, hNext, Attributes.withText]
        rw [hNext, Attributes.withText, first.attributes_eq, hMiddle]
    | some text =>
        rw [hText] at hNext
        rw [hNext, first.attributes_eq]
        cases middle.attribute? id "class" with
        | none => rfl
        | some old => exact congrArg Attributes.mk (Attributes.setIn_setIn "class" old text _)

/-- One call changes nothing but the class text. -/
theorem onlyText_of_make (h : call.make id d = .ok changed) : OnlyText d id changed := by
  have hChange := changeAttributes_of_make h
  have hAttributes := Document.attributes_of_changeAttributes hChange id
  rw [if_pos rfl] at hAttributes
  obtain ⟨tag, attributes, hElement, hChanged⟩ := Document.changeAttributes_cases hChange
  refine ⟨?_, ?_⟩
  · rw [hChanged]
    exact sameButAttributes_setValue hElement _
  · rw [Document.attribute?, hAttributes]
    rcases (d.attributes id).withClasses_cases call.onClasses with ⟨hNone, -, hSame⟩ | hSet
    · rw [hSame, hNone, Attributes.withText]
    · rw [hSet, Attributes.get?_set, if_pos rfl, Attributes.withText]

def makeAll (id : NodeId) (d : Document) (calls : List ClassCall) : Except DomError Document :=
  calls.foldlM (make id) d

/-- A run that succeeds begins with a call that does. -/
theorem makeAll_cons_cases (h : makeAll id d (call :: calls) = .ok changed) :
    ∃ middle, call.make id d = .ok middle ∧ makeAll id middle calls = .ok changed := by
  rw [makeAll, List.foldlM_cons] at h
  exact Document.exists_ok_of_bind h

/-- A run that succeeds can be stopped anywhere. -/
theorem makeAll_append_cases {before after : List ClassCall}
    (h : makeAll id d (before ++ after) = .ok changed) :
    ∃ middle, makeAll id d before = .ok middle ∧ makeAll id middle after = .ok changed := by
  rw [makeAll, List.foldlM_append] at h
  exact Document.exists_ok_of_bind h

/-- The set that is kept as a text is the ordered set that the calls make, from any call on. -/
theorem tokens_of_makeAll (h : makeAll id d calls = .ok changed) :
    (changed.classList id).tokens = setAfter (d.attribute? id "class") calls := by
  have hRun : (changed.classList id).tokens =
      calls.foldl (fun set call => call.onSet set) (d.classList id).tokens := by
    induction calls generalizing d with
    | nil =>
        cases h
        rfl
    | cons call rest ih =>
        obtain ⟨middle, hCall, hRest⟩ := makeAll_cons_cases h
        rw [ih hRest, tokens_of_make hCall, List.foldl_cons]
  rw [hRun, setAfter, Document.classList_eq, Attributes.classes, ClassList.tokens_ofText?]
  rfl

/-- No run of calls changes anything but the class text. -/
theorem onlyText_of_makeAll (h : makeAll id d calls = .ok changed) : OnlyText d id changed := by
  induction calls generalizing d with
  | nil =>
      cases h
      exact onlyText_refl changed id
  | cons call rest ih =>
      obtain ⟨middle, hCall, hRest⟩ := makeAll_cons_cases h
      exact (onlyText_of_make hCall).trans (ih hRest)

/-- Calls are changes like others, so what they leave can be reached. -/
theorem reachable_of_makeAll (hReachable : d.Reachable) (h : makeAll id d calls = .ok changed) :
    changed.Reachable := by
  induction calls generalizing d with
  | nil =>
      cases h
      exact hReachable
  | cons call rest ih =>
      obtain ⟨middle, hCall, hRest⟩ := makeAll_cons_cases h
      exact ih (hReachable.change (change_of_make hCall)) hRest

/-- The class text keeps its place among the attributes, or comes behind them if it is new. All else is as
it was. -/
structure KeepsPlace (d : Document) (id : NodeId) (changed : Document) : Prop
    extends SameButAttributes d id changed where
  inPlace : ∀ text, d.attribute? id "class" ≠ none → changed.attribute? id "class" = some text →
    (changed.attributes id).entries = (d.attributes id).entries.map fun entry =>
      if entry.1 = "class" then (entry.1, text) else entry
  last : ∀ text, d.attribute? id "class" = none → changed.attribute? id "class" = some text →
    (changed.attributes id).entries = (d.attributes id).entries ++ [("class", text)]
  absent : changed.attribute? id "class" = none → changed.attributes id = d.attributes id

/-- A document in which only a class text has changed keeps its trees and its order. -/
theorem OnlyText.keepsPlace (h : OnlyText d id changed) (hReachable : d.Reachable) :
    KeepsPlace d id changed := by
  have hAttributes := h.attributes_eq
  have hMem : "class" ∈ (d.attributes id).names ↔ d.attribute? id "class" ≠ none :=
    Attributes.mem_names_iff.trans Option.isSome_iff_ne_none
  refine ⟨h.toSameButAttributes, fun text hOld hText => ?_, fun text hNone hText => ?_, fun hNone => ?_⟩
  · rw [hAttributes, hText]
    exact Attributes.setIn_of_mem (hReachable.ordered_attributes id).nodup (hMem.mpr hOld) text
  · rw [hAttributes, hText]
    exact Attributes.setIn_of_not_mem (fun hOld => hMem.mp hOld hNone) text
  · rw [hAttributes, hNone, Attributes.withText]

/-- A run of calls does to the classes of an element what it does to an ordered set. Each of the calls
writes the set that it and those before it make. -/
structure Refines (d : Document) (id : NodeId) (calls : List ClassCall) (changed : Document) : Prop where
  tokens_eq : (changed.classList id).tokens = setAfter (d.attribute? id "class") calls
  eachCall : ∀ before call after, calls = before ++ call :: after → ∃ middle next,
    makeAll id d before = .ok middle ∧ call.make id middle = .ok next ∧
      makeAll id next after = .ok changed ∧
        Writes middle id (setAfter (d.attribute? id "class") (before ++ [call])) next ∧
          KeepsPlace middle id next
  keepsPlace : KeepsPlace d id changed

/-- In every document that can be made, for every node and every run of calls none of which is refused. -/
theorem refines_of_makeAll (hReachable : d.Reachable) (h : makeAll id d calls = .ok changed) :
    Refines d id calls changed where
  tokens_eq := tokens_of_makeAll h
  eachCall before call after hCalls := by
    subst hCalls
    obtain ⟨middle, hBefore, hRest⟩ := makeAll_append_cases h
    obtain ⟨next, hCall, hAfter⟩ := makeAll_cons_cases hRest
    have hSet : (next.classList id).tokens =
        setAfter (d.attribute? id "class") (before ++ [call]) := by
      rw [tokens_of_make hCall, tokens_of_makeAll hBefore, setAfter, setAfter, List.foldl_append]
      rfl
    refine ⟨middle, next, hBefore, hCall, hAfter, ?_, ?_⟩
    · rw [← hSet]
      exact writes_of_make hCall
    · exact (onlyText_of_make hCall).keepsPlace (reachable_of_makeAll hReachable hBefore)
  keepsPlace := (onlyText_of_makeAll h).keepsPlace hReachable

/-- A paragraph whose class text has blanks and repetitions, between two other attributes. -/
def wornParagraph : Document where
  nodes := #[
    { value := .document },
    { value := .element "p" { entries := [("id", "x"), ("class", " b\ta  b"), ("title", "y")] } }]

theorem reachable_wornParagraph : wornParagraph.Reachable := by
  have hParagraph := Document.Reachable.empty.change (.createElement _ "p")
  have hId := hParagraph.change (@Document.Change.setAttribute _ _ ⟨1⟩ "id" "x" rfl)
  have hClass := hId.change (@Document.Change.setAttribute _ _ ⟨1⟩ "class" " b\ta  b" rfl)
  exact hClass.change (@Document.Change.setAttribute _ _ ⟨1⟩ "title" "y" rfl)

/-- A class that is taken out and added again comes behind the others. The text stands where it stood. -/
theorem refines_wornParagraph :
    wornParagraph.Reachable ∧ ∃ changed,
      makeAll ⟨1⟩ wornParagraph [.add ["c", "a"], .remove ["b", "d"], .add ["b"]] = .ok changed ∧
      (changed.classList ⟨1⟩).tokens = ["a", "c", "b"] ∧
      (changed.attributes ⟨1⟩).entries = [("id", "x"), ("class", "a c b"), ("title", "y")] := by
  have hRun : makeAll ⟨1⟩ wornParagraph [.add ["c", "a"], .remove ["b", "d"], .add ["b"]] = .ok _ := rfl
  have hRefines := refines_of_makeAll reachable_wornParagraph hRun
  refine ⟨reachable_wornParagraph, _, hRun, ?_, ?_⟩
  · rw [hRefines.tokens_eq]
    decide +kernel
  · rw [hRefines.keepsPlace.inPlace "a c b" (by decide +kernel) (by decide +kernel)]
    decide +kernel

end ClassCall

end ClassScript
