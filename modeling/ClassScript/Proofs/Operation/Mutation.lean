import ClassScript.Proofs.Arena.OrderedForest
import ClassScript.Proofs.Document.ClassCalls
import ClassScript.Proofs.Operation.Builtin

/-!
Changes of one node. All arguments are checked before the node is looked at, and the node before anything is
written. So a change that is refused leaves no trace, wherever in its arguments the fault is, and one that
is made touches its node only.
-/

namespace ClassScript

variable {σ : Type}

inductive Mutation where
  | setAttribute (name value : String)
  | removeAttribute (name : String)
  | changeClasses (call : ClassCall)
  | perform (builtin : Builtin) (arguments : List String)

/-- The change of an element that a builtin operation is another name for. Only the removal of a node is
none. -/
def Builtin.mutation? (arguments : List String) : Builtin → Option Mutation
  | remove => none
  | addAttribute => some (.setAttribute (argument arguments 0) (argument arguments 1))
  | removeAttribute => some (.removeAttribute (argument arguments 0))
  | addClass => some (.changeClasses (.add arguments))
  | removeClass => some (.changeClasses (.remove arguments))

def ClassCall.tokens : ClassCall → List String
  | add tokens | remove tokens => tokens

namespace Mutation

def make (target : NodeId) : Mutation → Action σ OperationError Unit
  | setAttribute name value => Builtin.edit (·.setAttribute target name value)
  | removeAttribute name => Builtin.edit fun d => (d.removeAttribute target name).map (·.2)
  | changeClasses call => Builtin.edit fun d => call.make target d
  | perform builtin arguments => builtin.perform target arguments

inductive TokenFault : String → DomError → Prop where
  | empty : TokenFault "" .emptyToken
  | blank {token : String} {c : Char} (hMem : c ∈ token.toList) (hBlank : Ascii.isBlank c = true) :
      TokenFault token (.tokenWithBlank token)

/-- What is wrong with the first token that is no word. -/
inductive FirstFault : List String → DomError → Prop where
  | here {token : String} {rest : List String} {error : DomError} (h : TokenFault token error) :
      FirstFault (token :: rest) error
  | later {token : String} {rest : List String} {error : DomError} (hWord : IsWord token)
      (h : FirstFault rest error) : FirstFault (token :: rest) error

/-- A text that no attribute can have as its name. -/
def NoName (name : String) : Prop :=
  name = "" ∨ ∃ c ∈ name.toList, Attributes.isForbidden c = true

/-- Why a change is refused. What is wrong with the arguments comes before what is wrong with the node,
and a builtin operation is refused as the change that it is another name for. -/
inductive Fault (d : Document) (target : NodeId) : Mutation → OperationError → Prop where
  | noName {name value : String} (hName : NoName name) :
      Fault d target (.setAttribute name value) (.document (.invalidAttributeName name))
  | setOnNoElement {name value : String} (hName : ¬ NoName name) (hNode : d.isElement target = false) :
      Fault d target (.setAttribute name value) (.document (.notAnElement target))
  | removeOnNoElement {name : String} (hNode : d.isElement target = false) :
      Fault d target (.removeAttribute name) (.document (.notAnElement target))
  | noWord {call : ClassCall} {error : DomError} (hTokens : FirstFault call.tokens error) :
      Fault d target (.changeClasses call) (.document error)
  | classesOnNoElement {call : ClassCall} (hTokens : ∀ token ∈ call.tokens, IsWord token)
      (hNode : d.isElement target = false) :
      Fault d target (.changeClasses call) (.document (.notAnElement target))
  | noElementAbove {arguments : List String} (hAbove : ∀ upper, d.Above upper target →
      d.isElement upper = false) : Fault d target (.perform .remove arguments) (.noParent target)
  | performed {builtin : Builtin} {arguments : List String} {mutation : Mutation}
      {error : OperationError} (hSame : builtin.mutation? arguments = some mutation)
      (h : Fault d target mutation error) : Fault d target (.perform builtin arguments) error

def onAttributes : Mutation → Attributes → Attributes
  | setAttribute name value, attributes => attributes.set (Ascii.lower name) value
  | removeAttribute name, attributes => attributes.erase (Ascii.lower name)
  | changeClasses call, attributes => Document.withClasses call.onClasses attributes
  | perform builtin arguments, attributes => builtin.onAttributes arguments attributes

/-- Nothing is different but the attributes of one element, and these as the change says. -/
structure OnlyAttributes (mutation : Mutation) (d : Document) (target : NodeId) (changed : Document) :
    Prop extends ClassCall.SameButAttributes d target changed where
  size_eq : changed.size = d.size
  isElement : d.isElement target = true
  attributes_eq : changed.attributes target = mutation.onAttributes (d.attributes target)

/-- What is different after a change. A removal takes the node out from below its parent, and every other
change is one of attributes. -/
def Changes (d : Document) (target : NodeId) (changed : Document) : Mutation → Prop
  | .perform .remove _ => d.TakenOut target changed
  | mutation => mutation.OnlyAttributes d target changed

def result (d : Document) (target : NodeId) : Mutation → Except OperationError Document
  | setAttribute name value => (d.setAttribute target name value).mapError .document
  | removeAttribute name => ((d.removeAttribute target name).map (·.2)).mapError .document
  | changeClasses call => (call.make target d).mapError .document
  | perform builtin arguments => builtin.change d target arguments

/-- A mutation ends as its result says, and leaves the document alone where it fails. -/
theorem ending_make (mutation : Mutation) (target : NodeId) (session : Session σ) :
    (mutation.make target).ending session =
      session.conclude (mutation.result session.document target) := by
  cases mutation with
  | setAttribute | removeAttribute | changeClasses => exact Builtin.ending_edit _ session
  | perform builtin arguments => exact builtin.ending_perform target arguments session

variable {d changed : Document} {target : NodeId} {mutation : Mutation} {error : OperationError}

/-- A builtin operation with a mutation of its own is this mutation. -/
theorem result_perform {builtin : Builtin} {arguments : List String}
    (h : builtin.mutation? arguments = some mutation) (d : Document) (target : NodeId) :
    (perform builtin arguments).result d target = mutation.result d target := by
  cases builtin with
  | remove => cases h
  | addAttribute | removeAttribute | addClass | removeClass =>
      cases h
      rfl

/-- Two steps in a row fail where the first one fails, or the second one behind it. -/
theorem bind_eq_error_iff {ε α β : Type} {first : Except ε α} {next : α → Except ε β} {error : ε} :
    first >>= next = .error error ↔
      first = .error error ∨ ∃ value, first = .ok value ∧ next value = .error error := by
  cases first <;> simp [bind, Except.bind]

/-- A failure that is put in other words has a cause of its own. -/
theorem mapError_eq_error_iff {ε ε' α : Type} {f : ε → ε'} {result : Except ε α} {error : ε'} :
    result.mapError f = .error error ↔ ∃ cause, result = .error cause ∧ f cause = error := by
  cases result <;> simp [Except.mapError]

theorem map_eq_error_iff {ε α β : Type} {f : α → β} {result : Except ε α} {error : ε} :
    result.map f = .error error ↔ result = .error error := by
  cases result <;> simp [Except.map]

/-- A token is refused for being empty, or else for a blank in it. -/
theorem checkToken_eq_error_iff {token : String} {cause : DomError} :
    Document.checkToken token = .error cause ↔ TokenFault token cause := by
  constructor
  · intro h
    rw [Document.checkToken] at h
    split at h
    · next hEmpty =>
        cases h
        rw [String.isEmpty_iff.mp hEmpty]
        exact .empty
    · split at h
      · next hBlank =>
          cases h
          obtain ⟨c, hMem, hBlank⟩ := List.any_eq_true.mp hBlank
          exact .blank hMem hBlank
      · cases h
  · intro h
    cases h with
    | empty => rfl
    | blank hMem hBlank =>
        have hNe : token.isEmpty = false := by
          rw [← Bool.not_eq_true, String.isEmpty_iff]
          rintro rfl
          cases hMem
        rw [Document.checkToken, hNe, if_neg Bool.false_ne_true,
          if_pos (List.any_eq_true.mpr ⟨_, hMem, hBlank⟩)]

/-- Nothing is wrong with words. -/
theorem TokenFault.not_isWord {token : String} {cause : DomError} (h : TokenFault token cause) :
    ¬ IsWord token := by
  rw [← Document.checkToken_eq_ok_iff, checkToken_eq_error_iff.mpr h]
  exact nofun

/-- Checks end at the first token that is no word. -/
theorem forM_checkToken_eq_error_iff {tokens : List String} {cause : DomError} :
    tokens.forM Document.checkToken = .error cause ↔ FirstFault tokens cause := by
  induction tokens with
  | nil => exact iff_of_false nofun nofun
  | cons token rest ih =>
      have hCons : (token :: rest).forM Document.checkToken =
          Document.checkToken token >>= fun _ => rest.forM Document.checkToken := rfl
      rw [hCons]
      cases hToken : Document.checkToken token with
      | error first =>
          have hFault := checkToken_eq_error_iff.mp hToken
          constructor
          · intro h
            cases h
            exact .here hFault
          · intro h
            cases h with
            | here h => rw [← checkToken_eq_error_iff.mpr h, hToken]; rfl
            | later hWord => exact absurd hWord hFault.not_isWord
      | ok value =>
          have hWord := Document.checkToken_eq_ok_iff.mp hToken
          refine ih.trans ⟨.later hWord, fun h => ?_⟩
          cases h with
          | here h => exact absurd hWord h.not_isWord
          | later _ h => exact h

/-- Where there is a first fault, some token is not a word. -/
theorem FirstFault.exists_not_isWord {tokens : List String} {cause : DomError}
    (h : FirstFault tokens cause) : ∃ token ∈ tokens, ¬ IsWord token := by
  induction h with
  | here h => exact ⟨_, List.mem_cons_self, h.not_isWord⟩
  | later _ _ ih =>
      obtain ⟨token, hToken, hNot⟩ := ih
      exact ⟨token, List.mem_cons_of_mem _ hToken, hNot⟩

/-- All tokens pass exactly where all of them are words. -/
theorem forM_checkToken_eq_ok_iff {tokens : List String} :
    tokens.forM Document.checkToken = .ok () ↔ ∀ token ∈ tokens, IsWord token := by
  refine ⟨Document.isWord_of_forM_checkToken, fun h => ?_⟩
  cases hTokens : tokens.forM Document.checkToken with
  | ok => rfl
  | error cause =>
      obtain ⟨token, hToken, hNot⟩ := (forM_checkToken_eq_error_iff.mp hTokens).exists_not_isWord
      exact absurd (h token hToken) hNot

/-- Only elements have attributes that can be changed. -/
theorem changeAttributes_eq_error_iff {change : Attributes → Attributes} {cause : DomError} :
    d.changeAttributes target change = .error cause ↔
      d.isElement target = false ∧ cause = .notAnElement target := by
  rw [Document.changeAttributes, Document.isElement]
  cases d.value? target with
  | none => simp [eq_comm]
  | some data => cases data <;> simp [NodeData.isElement, eq_comm]

/-- A bad name is refused first, and then what is not an element. -/
theorem setAttribute_eq_error_iff {name value : String} {cause : DomError} :
    d.setAttribute target name value = .error cause ↔
      (NoName name ∧ cause = .invalidAttributeName name) ∨
        (¬ NoName name ∧ d.isElement target = false ∧ cause = .notAnElement target) := by
  rw [Document.setAttribute, NoName, ← Builtin.isValidName_eq_false_iff, Bool.not_eq_false]
  split
  · next hName => simp [hName, changeAttributes_eq_error_iff]
  · next hName => simp [hName, @eq_comm _ cause]

/-- No name is too bad to be removed, so only what is not an element is refused. -/
theorem removeAttribute_eq_error_iff {name : String} {cause : DomError} :
    d.removeAttribute target name = .error cause ↔
      d.isElement target = false ∧ cause = .notAnElement target := by
  rw [Document.removeAttribute, bind_eq_error_iff, changeAttributes_eq_error_iff]
  refine or_iff_left ?_
  rintro ⟨_, _, ⟨⟩⟩

/-- A token at fault is refused first, and then what is not an element. -/
theorem changeClasses_eq_error_iff {call : ClassCall} {cause : DomError} :
    call.make target d = .error cause ↔ FirstFault call.tokens cause ∨
      ((∀ token ∈ call.tokens, IsWord token) ∧ d.isElement target = false ∧
        cause = .notAnElement target) := by
  have hMake : call.make target d = call.tokens.forM Document.checkToken >>= fun _ =>
      d.changeAttributes target (Document.withClasses call.onClasses) := by
    cases call <;> rfl
  rw [hMake, bind_eq_error_iff, forM_checkToken_eq_error_iff]
  refine or_congr_right ?_
  rw [← forM_checkToken_eq_ok_iff, ← changeAttributes_eq_error_iff]
  exact ⟨fun ⟨_, hTokens, hNode⟩ => ⟨hTokens, hNode⟩, fun ⟨hTokens, hNode⟩ => ⟨(), hTokens, hNode⟩⟩

/-- Only an element above allows a node to be removed. -/
theorem removal_eq_error_iff (arguments : List String) :
    Builtin.remove.change d target arguments = .error error ↔
      (∀ upper, d.Above upper target → d.isElement upper = false) ∧ error = .noParent target := by
  have hNone : d.elementParent? target = none ↔
      ∀ upper, d.Above upper target → d.isElement upper = false := by
    rw [Document.elementParent?, Option.filter_eq_none_iff]
    exact forall₂_congr fun upper _ => by rw [Bool.not_eq_true]
  rw [← hNone, Builtin.change]
  cases d.elementParent? target with
  | none => simp [@eq_comm _ error]
  | some upper => simp

/-- Every fault is refused, with the error that belongs to it. -/
theorem result_of_fault (h : mutation.Fault d target error) :
    mutation.result d target = .error error := by
  induction h with
  | noName hName =>
      exact mapError_eq_error_iff.mpr ⟨_, setAttribute_eq_error_iff.mpr (.inl ⟨hName, rfl⟩), rfl⟩
  | setOnNoElement hName hNode =>
      exact mapError_eq_error_iff.mpr
        ⟨_, setAttribute_eq_error_iff.mpr (.inr ⟨hName, hNode, rfl⟩), rfl⟩
  | removeOnNoElement hNode =>
      refine mapError_eq_error_iff.mpr ⟨.notAnElement target, ?_, rfl⟩
      exact map_eq_error_iff.mpr (removeAttribute_eq_error_iff.mpr ⟨hNode, rfl⟩)
  | noWord hTokens =>
      exact mapError_eq_error_iff.mpr ⟨_, changeClasses_eq_error_iff.mpr (.inl hTokens), rfl⟩
  | classesOnNoElement hTokens hNode =>
      exact mapError_eq_error_iff.mpr
        ⟨_, changeClasses_eq_error_iff.mpr (.inr ⟨hTokens, hNode, rfl⟩), rfl⟩
  | @noElementAbove arguments hAbove =>
      exact (removal_eq_error_iff arguments).mpr ⟨hAbove, rfl⟩
  | performed hSame _ ih => rwa [result_perform hSame]

/-- A change is refused exactly for what is wrong with it. -/
theorem result_eq_error_iff :
    mutation.result d target = .error error ↔ mutation.Fault d target error := by
  refine ⟨fun h => ?_, result_of_fault⟩
  have hSet : ∀ name value, (setAttribute name value).result d target = .error error →
      (setAttribute name value).Fault d target error := by
    intro name value h
    obtain ⟨cause, hCause, rfl⟩ := mapError_eq_error_iff.mp h
    rcases setAttribute_eq_error_iff.mp hCause with ⟨hName, rfl⟩ | ⟨hName, hNode, rfl⟩
    · exact .noName hName
    · exact .setOnNoElement hName hNode
  have hRemove : ∀ name, (removeAttribute name).result d target = .error error →
      (removeAttribute name).Fault d target error := by
    intro name h
    obtain ⟨cause, hCause, rfl⟩ := mapError_eq_error_iff.mp h
    obtain ⟨hNode, rfl⟩ := removeAttribute_eq_error_iff.mp (map_eq_error_iff.mp hCause)
    exact .removeOnNoElement hNode
  have hClasses : ∀ call, (changeClasses call).result d target = .error error →
      (changeClasses call).Fault d target error := by
    intro call h
    obtain ⟨cause, hCause, rfl⟩ := mapError_eq_error_iff.mp h
    rcases changeClasses_eq_error_iff.mp hCause with hTokens | ⟨hTokens, hNode, rfl⟩
    · exact .noWord hTokens
    · exact .classesOnNoElement hTokens hNode
  cases mutation with
  | setAttribute name value => exact hSet name value h
  | removeAttribute name => exact hRemove name h
  | changeClasses call => exact hClasses call h
  | perform builtin arguments =>
      cases builtin with
      | remove =>
          obtain ⟨hAbove, rfl⟩ := (removal_eq_error_iff arguments).mp h
          exact .noElementAbove hAbove
      | addAttribute => exact .performed rfl (hSet _ _ h)
      | removeAttribute => exact .performed rfl (hRemove _ h)
      | addClass => exact .performed rfl (hClasses (.add arguments) h)
      | removeClass => exact .performed rfl (hClasses (.remove arguments) h)

/-- Giving an element new attributes changes nothing but them. -/
theorem onlyAttributes_setValue {tag : String} {attributes : Attributes}
    (hElement : d.value? target = some (.element tag attributes)) :
    mutation.OnlyAttributes d target
      (d.setValue target (.element tag (mutation.onAttributes attributes))) where
  toSameButAttributes := ClassCall.sameButAttributes_setValue hElement _
  size_eq := Arena.size_modify d target _
  isElement := by rw [Document.isElement, hElement]; rfl
  attributes_eq := by
    rw [Document.attributes_setValue_element hElement, if_pos rfl, Document.attributes_eq hElement]

/-- A mutation that succeeds changes what it is to change and nothing else. -/
theorem changes_of_result (wf : d.WellFormed) (h : mutation.result d target = .ok changed) :
    mutation.Changes d target changed := by
  have hAttributes : ∀ {mutation : Mutation},
      d.changeAttributes target mutation.onAttributes = .ok changed →
        mutation.OnlyAttributes d target changed := by
    intro mutation hChange
    obtain ⟨tag, attributes, hElement, rfl⟩ := Document.changeAttributes_cases hChange
    exact onlyAttributes_setValue hElement
  cases mutation with
  | setAttribute name value =>
      exact hAttributes (Document.setAttribute_cases (Builtin.ok_of_mapError h)).2
  | removeAttribute name =>
      obtain ⟨⟨found, other⟩, hRemove, rfl⟩ := Document.exists_ok_of_map (Builtin.ok_of_mapError h)
      exact hAttributes (Document.removeAttribute_cases hRemove).2
  | changeClasses call =>
      exact hAttributes (ClassCall.changeAttributes_of_make (Builtin.ok_of_mapError h))
  | perform builtin arguments =>
      rcases Builtin.change_cases h with ⟨rfl, -, rfl⟩ | ⟨hNe, tag, attributes, hElement, rfl⟩
      · exact wf.takenOut_detach target
      · cases builtin with
        | remove => exact absurd rfl hNe
        | addAttribute | removeAttribute | addClass | removeClass =>
            exact onlyAttributes_setValue hElement

/-- A change is refused exactly for what is wrong with it, and then nothing was done. Otherwise it is made,
and nothing else is. -/
structure AsWhole (mutation : Mutation) (target : NodeId) (session : Session σ) : Prop where
  error_iff : ∀ error, ((mutation.make target).ending session).1 = .error error ↔
    mutation.Fault session.document target error
  unchanged : ∀ error, ((mutation.make target).ending session).1 = .error error →
    ((mutation.make target).ending session).2 = session
  changed : ((mutation.make target).ending session).1 = .ok () → ∃ changed,
    ((mutation.make target).ending session).2 = { session with document := changed } ∧
      mutation.Changes session.document target changed

/-- In every document that can be made, for every change and at every node, known or unknown. -/
theorem asWhole {session : Session σ} (hReachable : session.document.Reachable) (mutation : Mutation)
    (target : NodeId) : mutation.AsWhole target session := by
  have hEnding := mutation.ending_make target session
  cases hResult : mutation.result session.document target with
  | error cause =>
      rw [hResult] at hEnding
      refine ⟨fun error => ?_, fun _ _ => ?_, fun hOk => ?_⟩
      · rw [← result_eq_error_iff, hResult, hEnding, Session.conclude, Except.error.injEq,
          Except.error.injEq]
      · rw [hEnding]
        rfl
      · rw [hEnding] at hOk
        cases hOk
  | ok changed =>
      rw [hResult] at hEnding
      refine ⟨fun error => ?_, fun error hError => ?_, fun _ => ⟨changed, ?_, ?_⟩⟩
      · rw [← result_eq_error_iff, hResult, hEnding]
        exact iff_of_false nofun nofun
      · rw [hEnding] at hError
        cases hError
      · rw [hEnding]
        rfl
      · exact changes_of_result hReachable.wellFormed hResult

/-- Of three tokens the second holds a blank and the third is empty. The second is what is wrong, and the
first was not added. Where nothing is wrong, the change is seen. -/
theorem asWhole_lateBlank :
    let session : Session Unit := { document := ClassCall.wornParagraph, memory := () }
    session.document.Reachable ∧
      ((perform .addClass ["c", "e f", ""]).make ⟨1⟩).ending session =
        (.error (.document (.tokenWithBlank "e f")), session) ∧
      ∃ changed, ((setAttribute "TITLE" "z").make ⟨1⟩).ending session =
          (.ok (), { session with document := changed }) ∧
        (changed.attributes ⟨1⟩).entries = [("id", "x"), ("class", " b\ta  b"), ("title", "z")] := by
  intro session
  have hReachable : session.document.Reachable := ClassCall.reachable_wornParagraph
  have hAdd := asWhole hReachable (perform .addClass ["c", "e f", ""]) ⟨1⟩
  have hSet := asWhole hReachable (setAttribute "TITLE" "z") ⟨1⟩
  have hFault : Fault session.document ⟨1⟩ (perform .addClass ["c", "e f", ""])
      (.document (.tokenWithBlank "e f")) := by
    have hFirst : IsWord "c" := Document.checkToken_eq_ok_iff.mp rfl
    have hSecond : TokenFault "e f" (.tokenWithBlank "e f") := checkToken_eq_error_iff.mp rfl
    exact .performed rfl (.noWord (.later hFirst (.here hSecond)))
  have hError := (hAdd.error_iff _).mpr hFault
  obtain ⟨changed, hSession, hChanges⟩ := hSet.changed rfl
  refine ⟨hReachable, Prod.ext hError (hAdd.unchanged _ hError), changed, Prod.ext rfl hSession, ?_⟩
  rw [hChanges.attributes_eq]
  decide +kernel

end Mutation

end ClassScript
