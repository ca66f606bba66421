import ClassScript.Proofs.Document.Classes
import ClassScript.Proofs.Operation.Builtin

/-!
What a builtin operation makes of the classes of an element. An operation on attributes meets them as the
text of the class attribute, and an operation on classes as a list that is written back as text.
-/

namespace ClassScript

namespace Builtin

variable {builtin : Builtin} {arguments : List String}

def onClasses (builtin : Builtin) (arguments : List String) (classes : ClassList) : ClassList :=
  match builtin with
  | remove => classes
  | addAttribute =>
    if Ascii.lower (argument arguments 0) = "class" then .parse (argument arguments 1) else classes
  | removeAttribute => if Ascii.lower (argument arguments 0) = "class" then {} else classes
  | addClass => classes.addAll arguments
  | removeClass => classes.removeAll arguments

/-- A builtin operation does to the classes what it does to the attribute. -/
theorem classes_onAttributes (hWords : builtin = .addClass → ∀ argument ∈ arguments, IsWord argument)
    (attributes : Attributes) :
    (builtin.onAttributes arguments attributes).classes =
      builtin.onClasses arguments attributes.classes := by
  cases builtin with
  | remove => rfl
  | addAttribute => exact attributes.classes_set _ _
  | removeAttribute => exact attributes.classes_erase _
  | addClass => exact Attributes.classes_withClasses (attributes.sound_classes.addAll (hWords rfl))
  | removeClass => exact Attributes.classes_withClasses (attributes.sound_classes.removeAll arguments)

variable {d changed : Document} {target : NodeId}

/-- Only words have been added where adding succeeded. -/
theorem isWord_of_change (h : addClass.change d target arguments = .ok changed) :
    ∀ argument ∈ arguments, IsWord argument :=
  Document.isWord_of_forM_checkToken (Document.addClasses_cases (ok_of_mapError h)).1

/-- An operation changes the classes of its element at most. -/
theorem classList_change (h : builtin.change d target arguments = .ok changed) (id : NodeId) :
    changed.classList id = d.classList id ∨
      changed.classList id = builtin.onClasses arguments (d.classList id) := by
  have hWords : builtin = .addClass → ∀ argument ∈ arguments, IsWord argument := by
    rintro rfl
    exact isWord_of_change h
  rcases change_cases h with ⟨-, -, rfl⟩ | ⟨-, tag, attributes, hElement, rfl⟩
  · left
    rw [Document.classList_eq, Document.attributes_detach, Document.classList_eq]
  · rw [Document.classList_eq, Document.attributes_setValue_element hElement, Document.classList_eq]
    by_cases hTarget : id = target
    · right
      rw [if_pos hTarget, hTarget, Document.attributes_eq hElement]
      exact classes_onAttributes hWords attributes
    · left
      rw [if_neg hTarget]

end Builtin

end ClassScript
