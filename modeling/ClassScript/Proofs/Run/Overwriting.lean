import ClassScript.Proofs.Operation.Classes
import ClassScript.Proofs.Run.Task

/-!
The last write counts. Each thing that can be asked about the attributes of an element is either decided
by an update or left as it was, so updates that were carried out once have nothing more to decide when
they are carried out again. Only the order of attributes and of classes is not such a thing.
-/

namespace ClassScript

/-- What is seen of attributes after a change is the same for all of them, or is what was seen before. -/
def Overwrites {β : Type} (view : Attributes → β) (change : Attributes → Attributes) : Prop :=
  (∃ value, ∀ attributes, view (change attributes) = value) ∨
    ∀ attributes, view (change attributes) = view attributes

namespace Overwrites

variable {β : Type} {view : Attributes → β} {change next : Attributes → Attributes}

/-- Two overwriting changes in a row overwrite as one. -/
theorem comp (hFirst : Overwrites view change) (hNext : Overwrites view next) :
    Overwrites view (next ∘ change) := by
  rcases hNext with ⟨value, hValue⟩ | hSame
  · exact .inl ⟨value, fun attributes => hValue (change attributes)⟩
  · rcases hFirst with ⟨value, hValue⟩ | hBefore
    · exact .inl ⟨value, fun attributes => (hSame _).trans (hValue attributes)⟩
    · exact .inr fun attributes => (hSame _).trans (hBefore attributes)

/-- A change that was made once decides nothing more when it is made again. -/
theorem again (h : Overwrites view change) (attributes : Attributes) :
    view (change (change attributes)) = view (change attributes) := by
  rcases h with ⟨value, hValue⟩ | hSame
  · rw [hValue, hValue]
  · exact hSame _

end Overwrites

namespace Attributes

variable {β : Type}

/-- An attribute that is set has the new value, and others are as they were. -/
theorem overwrites_set (read : Option String → β) (seen name value : String) :
    Overwrites (fun attributes => read (attributes.get? seen)) (·.set name value) := by
  by_cases h : seen = name
  · exact .inl ⟨read (some value), fun attributes => by simp only [get?_set, if_pos h]⟩
  · exact .inr fun attributes => by simp only [get?_set, if_neg h]

/-- An attribute that is erased is gone, and others are as they were. -/
theorem overwrites_erase (read : Option String → β) (seen name : String) :
    Overwrites (fun attributes => read (attributes.get? seen)) (·.erase name) := by
  by_cases h : seen = name
  · exact .inl ⟨read none, fun attributes => by simp only [get?_erase, if_pos h]⟩
  · exact .inr fun attributes => by simp only [get?_erase, if_neg h]

/-- A change of classes shows in the class attribute only. -/
theorem get?_withClasses {name : String} (h : name ≠ "class") (change : ClassList → ClassList)
    (attributes : Attributes) :
    (Document.withClasses change attributes).get? name = attributes.get? name := by
  rcases attributes.withClasses_cases change with ⟨-, -, hSame⟩ | hSet
  · rw [hSame]
  · rw [hSet, get?_set, if_neg h]

/-- There is a class attribute as soon as there was one or classes are created. -/
theorem isSome_withClasses (change : ClassList → ClassList) (attributes : Attributes) :
    ((Document.withClasses change attributes).get? "class").isSome =
      ((attributes.get? "class").isSome || !(change {}).isEmpty) := by
  rw [Document.withClasses]
  cases hText : attributes.get? "class" with
  | some text => simp
  | none => cases hEmpty : (change {}).isEmpty <;> simp [hEmpty, hText]

/-- Whether there is a class attribute is settled by a change of classes, or left as it is. -/
theorem overwrites_withClasses (change : ClassList → ClassList) :
    Overwrites (fun attributes => (attributes.get? "class").isSome) (Document.withClasses change) := by
  cases hEmpty : (change {}).isEmpty with
  | true => exact .inr fun attributes => by simp [isSome_withClasses, hEmpty]
  | false => exact .inl ⟨true, fun attributes => by simp [isSome_withClasses, hEmpty]⟩

end Attributes

namespace Builtin

variable (builtin : Builtin) (arguments : List String)

/-- Every builtin operation overwrites every attribute but the classes. -/
theorem overwrites_get? {name : String} (h : name ≠ "class") :
    Overwrites (·.get? name) (builtin.onAttributes arguments) := by
  cases builtin with
  | remove => exact .inr fun _ => rfl
  | addAttribute => exact Attributes.overwrites_set id name _ _
  | removeAttribute => exact Attributes.overwrites_erase id name _
  | addClass | removeClass => exact .inr (Attributes.get?_withClasses h _)

/-- Every builtin operation settles whether there is a class attribute, or leaves it as it is. -/
theorem overwrites_isSome :
    Overwrites (fun attributes => (attributes.get? "class").isSome)
      (builtin.onAttributes arguments) := by
  cases builtin with
  | remove => exact .inr fun _ => rfl
  | addAttribute => exact Attributes.overwrites_set Option.isSome "class" _ _
  | removeAttribute => exact Attributes.overwrites_erase Option.isSome "class" _
  | addClass | removeClass => exact Attributes.overwrites_withClasses _

/-- Every builtin operation settles whether a token is a class, or leaves it as it is. -/
theorem overwrites_mem_classes {builtin : Builtin} {arguments : List String}
    (hWords : builtin = .addClass → ∀ argument ∈ arguments, IsWord argument) (token : String) :
    Overwrites (token ∈ ·.classes.tokens) (builtin.onAttributes arguments) := by
  have hOn := classes_onAttributes hWords
  cases builtin with
  | remove => exact .inr fun _ => rfl
  | addAttribute =>
      exact Attributes.overwrites_set (fun text? => token ∈ (ClassList.ofText? text?).tokens) _ _ _
  | removeAttribute =>
      exact Attributes.overwrites_erase (fun text? => token ∈ (ClassList.ofText? text?).tokens) _ _
  | addClass =>
      by_cases hToken : token ∈ arguments
      · exact .inl ⟨True, fun attributes => by
          simp [hOn, onClasses, ClassList.mem_tokens_addAll_iff, hToken]⟩
      · exact .inr fun attributes => by
          simp [hOn, onClasses, ClassList.mem_tokens_addAll_iff, hToken]
  | removeClass =>
      by_cases hToken : token ∈ arguments
      · exact .inl ⟨False, fun attributes => by
          simp [hOn, onClasses, ClassList.mem_tokens_removeAll_iff, hToken]⟩
      · exact .inr fun attributes => by
          simp [hOn, onClasses, ClassList.mem_tokens_removeAll_iff, hToken]

end Builtin

namespace Update

/-- What all operations of a name overwrite is overwritten by the update. -/
theorem overwrites_onAttributes {β : Type} {view : Attributes → β} {update : Update}
    (h : ∀ builtin, Builtin.ofName? update.operation = some builtin →
      Overwrites view (builtin.onAttributes update.arguments)) :
    Overwrites view update.onAttributes := by
  cases hName : Builtin.ofName? update.operation with
  | none => exact .inr fun attributes => by rw [onAttributes, hName]
  | some builtin =>
      have hSame : update.onAttributes = builtin.onAttributes update.arguments := by
        funext attributes
        rw [onAttributes, hName]
      rw [hSame]
      exact h builtin hName

/-- Updates that overwrite something each overwrite it together. -/
theorem overwrites_allOnAttributes {β : Type} {view : Attributes → β} {updates : List Update}
    (h : ∀ update ∈ updates, Overwrites view update.onAttributes) :
    Overwrites view (allOnAttributes updates) := by
  induction updates with
  | nil => exact .inr fun _ => rfl
  | cons update rest ih =>
      obtain ⟨hUpdate, hRest⟩ := List.forall_mem_cons.mp h
      exact hUpdate.comp (ih hRest)

end Update

/-- Attributes that differ at most in the order of their names and of their classes. -/
structure Attributes.Alike (attributes other : Attributes) : Prop where
  mem_names_iff : ∀ name, name ∈ other.names ↔ name ∈ attributes.names
  get?_eq : ∀ name, name ≠ "class" → other.get? name = attributes.get? name
  mem_classes_iff : ∀ token, token ∈ other.classes.tokens ↔ token ∈ attributes.classes.tokens

theorem Attributes.Alike.refl (attributes : Attributes) : attributes.Alike attributes :=
  ⟨fun _ => Iff.rfl, fun _ _ => rfl, fun _ => Iff.rfl⟩

/-- Updates whose added classes are words decide nothing more when they are carried out again. -/
theorem Update.alike_allOnAttributes {updates : List Update}
    (h : ∀ update ∈ updates, update.operation = "addClass" →
      ∀ argument ∈ update.arguments, IsWord argument) (attributes : Attributes) :
    (allOnAttributes updates attributes).Alike
      (allOnAttributes updates (allOnAttributes updates attributes)) := by
  have hGet : ∀ name, name ≠ "class" → Overwrites (·.get? name) (allOnAttributes updates) :=
    fun name hName => overwrites_allOnAttributes fun update _ =>
      overwrites_onAttributes fun builtin _ => builtin.overwrites_get? _ hName
  have hClass : Overwrites (fun attributes => (attributes.get? "class").isSome)
      (allOnAttributes updates) :=
    overwrites_allOnAttributes fun update _ =>
      overwrites_onAttributes fun builtin _ => builtin.overwrites_isSome _
  have hTokens : ∀ token, Overwrites (token ∈ ·.classes.tokens) (allOnAttributes updates) := by
    refine fun token => overwrites_allOnAttributes fun update hUpdate =>
      overwrites_onAttributes fun builtin hName => Builtin.overwrites_mem_classes ?_ token
    rintro rfl
    exact h update hUpdate (Builtin.name_of_ofName? hName).symm
  refine ⟨fun name => ?_, fun name hName => (hGet name hName).again attributes, fun token => ?_⟩
  · rw [Attributes.mem_names_iff, Attributes.mem_names_iff]
    by_cases hName : name = "class"
    · rw [hName]
      exact iff_of_eq (congrArg (· = true) (hClass.again attributes))
    · rw [(hGet name hName).again attributes]
  · exact iff_of_eq ((hTokens token).again attributes)

end ClassScript
