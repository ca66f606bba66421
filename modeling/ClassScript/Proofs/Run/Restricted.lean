import ClassScript.Config
import ClassScript.Proofs.Document.Attributes
import ClassScript.Proofs.Run.Apply
import ClassScript.Proofs.Run.Leads

/-!
Tables that are restricted to some names. Working with such a table is working with the whole table after
the updates of all other names were dropped, whatever the operations do. So what the operations that are
allowed leave alone is left alone.
-/

namespace ClassScript

variable {σ : Type}

/-- An update of an unknown name may as well not be there. -/
theorem ending_run_cons_of_unknown {table : OperationTable σ} {update : Update}
    (h : table.get? update.operation = none) (element : NodeId) (rest : List Update)
    (session : Session σ) :
    (run table element (update :: rest)).ending session = (run table element rest).ending session := by
  have hContains : table.contains update.operation = false := by
    rw [OperationTable.contains_eq_isSome, h]
    rfl
  rw [run_cons, Action.ending_bind_of_ok (ending_run_of_unknown hContains session)]

/-- One update is carried out alike by tables that have the same operation by its name. -/
theorem run_singleton_congr {table other : OperationTable σ} {update : Update}
    (h : other.get? update.operation = table.get? update.operation) (element : NodeId) :
    run other element [update] = run table element [update] := by
  simp only [run, h]

/-- A table works on updates as another one does on those that are kept, if it has the same operations by
the names of these and none by the names of the others. -/
theorem ending_run_filter {table other : OperationTable σ} {keep : Update → Bool}
    (hKept : ∀ update, keep update = true →
      other.get? update.operation = table.get? update.operation)
    (hDropped : ∀ update, keep update = false → other.get? update.operation = none)
    (element : NodeId) (updates : List Update) (session : Session σ) :
    (run other element updates).ending session =
      (run table element (updates.filter keep)).ending session := by
  induction updates generalizing session with
  | nil => rfl
  | cons update rest ih =>
      cases hKeep : keep update with
      | false =>
          rw [List.filter_cons_of_neg (by simp [hKeep]),
            ending_run_cons_of_unknown (hDropped update hKeep), ih]
      | true =>
          rw [List.filter_cons_of_pos hKeep, run_cons, run_cons element update (rest.filter keep),
            run_singleton_congr (hKept update hKeep)]
          exact Action.ending_bind_congr rfl fun _ after _ => ih after

/-- A restricted table does what the whole table does with the updates of the listed names. -/
theorem ending_run_restrictedTo (table : OperationTable σ) (names : List String) (element : NodeId)
    (updates : List Update) (session : Session σ) :
    (run (table.restrictedTo names) element updates).ending session =
      (run table element (updates.filter (·.operation ∈ names))).ending session := by
  refine ending_run_filter (fun update hKept => ?_) (fun update hDropped => ?_) element updates session
  · rw [OperationTable.get?_restrictedTo, if_pos (of_decide_eq_true hKept)]
  · rw [OperationTable.get?_restrictedTo, if_neg (of_decide_eq_false hDropped)]

/-- Updates whose names the table does not have leave no trace. -/
theorem ending_run_known (table : OperationTable σ) (element : NodeId) (updates : List Update)
    (session : Session σ) :
    (run table element updates).ending session =
      (run table element (updates.filter (table.contains ·.operation))).ending session := by
  refine ending_run_filter (fun _ _ => rfl) (fun update hUnknown => ?_) element updates session
  rw [OperationTable.contains_eq_isSome, Option.isSome_eq_false_iff, Option.isNone_iff_eq_none] at hUnknown
  exact hUnknown

/-- Carries out those updates among the classes that an element has now which have allowed names. -/
def applyAllowedToElement (names : List String) (table : OperationTable σ) (element : NodeId) :
    Action σ RunError Unit := do
  let updates := Update.ofElement (← Action.document) element
  run table element (updates.filter (·.operation ∈ names))

/-- Looks at the elements of a target, and drops each update that has no allowed name. -/
def applyAllowed (names : List String) (table : OperationTable σ) : Target → Action σ RunError Unit
  | .element element => applyAllowedToElement names table element
  | .selector text root? => do
    let elements ← (Action.queryAll (root?.getD Document.root) text).mapError (.target text)
    elements.forM (applyAllowedToElement names table)

/-- So it is on one element, whose classes are read from the document. -/
theorem ending_applyToElement_restrictedTo (table : OperationTable σ) (names : List String)
    (element : NodeId) (session : Session σ) :
    (applyToElement (table.restrictedTo names) element).ending session =
      (applyAllowedToElement names table element).ending session := by
  rw [applyToElement, Action.ending_document_bind, applyAllowedToElement, Action.ending_document_bind]
  exact ending_run_restrictedTo table names element _ session

/-- So it is on elements in a row, since both ways leave the same documents. -/
theorem ending_forM_restrictedTo (table : OperationTable σ) (names : List String)
    (elements : List NodeId) (session : Session σ) :
    (elements.forM (applyToElement (table.restrictedTo names))).ending session =
      (elements.forM (applyAllowedToElement names table)).ending session := by
  induction elements generalizing session with
  | nil => rfl
  | cons element rest ih =>
      exact Action.ending_bind_congr (ending_applyToElement_restrictedTo table names element session)
        fun _ after _ => ih after

/-- So it is on a target. -/
theorem ending_apply_restrictedTo (table : OperationTable σ) (names : List String) (target : Target)
    (session : Session σ) :
    (apply (table.restrictedTo names) target).ending session =
      (applyAllowed names table target).ending session := by
  cases target with
  | element element => exact ending_applyToElement_restrictedTo table names element session
  | selector text root? =>
      refine Action.ending_bind_congr rfl fun elements after _ => ?_
      rw [Action.ending_note_bind]
      exact ending_forM_restrictedTo table names elements after

/-- Warnings about a configuration are told and change nothing. -/
theorem ending_applyWithConfig (config : Config) (session : Session σ) :
    (applyWithConfig config : Action σ RunError Unit).ending session =
      (apply config.table config.target).ending session := by
  have hWarnings : ∀ events : List Event,
      (events.forM Action.note : Action σ RunError Unit).ending session = (.ok (), session) := by
    intro events
    induction events with
    | nil => rfl
    | cons event rest ih => exact (Action.ending_note_bind event _ session).trans ih
  exact Action.ending_bind_of_ok (hWarnings config.warnings) _

section Leads

variable {R : Document → Document → Prop} [IsPreorder Document R] {names : List String}

/-- What the listed operations keep is kept by the restricted table. -/
theorem leads_restrictedTo_builtin (h : ∀ builtin : Builtin, builtin.name ∈ names →
      builtin.Keeps R fun _ => True) :
    ((.builtin : OperationTable σ).restrictedTo names).Leads R fun _ => True := by
  intro name operation hGet target arguments hArguments
  rw [OperationTable.get?_restrictedTo] at hGet
  split at hGet
  · next hName =>
      rw [OperationTable.get?_builtin] at hGet
      obtain ⟨builtin, hBuiltin, rfl⟩ := Option.map_eq_some_iff.mp hGet
      rw [← Builtin.name_of_ofName? hBuiltin] at hName
      exact (h builtin hName).leads_perform target hArguments
  · cases hGet

/-- A configuration keeps what all operations keep that it allows. -/
theorem leads_applyWithConfig (h : ∀ builtin : Builtin, builtin.name ∈ names →
      builtin.Keeps R fun _ => True) (selector : String) :
    (applyWithConfig { selector, operations := some names } : Action σ RunError Unit).Leads R := by
  intro session
  have hEnding := ending_applyWithConfig { selector, operations := some names } session
  have hLeft := congrArg (·.2.document) hEnding
  simp only [Action.ending] at hLeft
  rw [hLeft]
  exact (leads_restrictedTo_builtin h).apply (fun _ _ _ _ _ _ => trivial) _ session

end Leads

def Document.SamePlaces (d changed : Document) : Prop :=
  ∀ id, changed.parent? id = d.parent? id ∧ changed.children id = d.children id

instance : IsPreorder Document Document.SamePlaces where
  refl _ _ := ⟨rfl, rfl⟩
  trans _ _ _ hFirst hNext id := ⟨(hNext id).1.trans (hFirst id).1, (hNext id).2.trans (hFirst id).2⟩

/-- Only removal moves nodes. -/
theorem Builtin.keeps_samePlaces {builtin : Builtin} (h : builtin ≠ .remove) :
    builtin.Keeps Document.SamePlaces fun _ => True := by
  intro d changed target arguments _ hChange id
  rcases change_cases hChange with ⟨hRemove, -⟩ | ⟨-, tag, attributes, -, rfl⟩
  · exact absurd hRemove h
  · exact ⟨Arena.parent?_setValue d target _ id, Arena.children_setValue d target _ id⟩

def Document.otherAttributes (d : Document) (id : NodeId) : List (String × String) :=
  (d.attributes id).entries.filter (·.1 ≠ "class")

def Document.SameAttributes (d changed : Document) : Prop :=
  ∀ id, changed.otherAttributes id = d.otherAttributes id

instance : IsPreorder Document Document.SameAttributes where
  refl _ _ := rfl
  trans _ _ _ hFirst hNext id := (hNext id).trans (hFirst id)

/-- Setting an attribute does not show where it is left out of account. -/
theorem Attributes.erase_set_self (attributes : Attributes) (name value : String) :
    (attributes.set name value).erase name = attributes.erase name := by
  have hSetIn : ∀ entries : List (String × String),
      (setIn name value entries).filter (·.1 ≠ name) = entries.filter (·.1 ≠ name) := by
    intro entries
    induction entries with
    | nil => simp [setIn]
    | cons entry rest ih =>
        by_cases hFirst : entry.1 = name
        · simp [setIn, hFirst]
        · rw [setIn, if_neg hFirst, List.filter_cons, ih, List.filter_cons]
  exact congrArg Attributes.mk (hSetIn attributes.entries)

/-- A change of classes does not show where the class attribute is left out of account. -/
theorem Attributes.erase_withClasses (change : ClassList → ClassList) (attributes : Attributes) :
    (Document.withClasses change attributes).erase "class" = attributes.erase "class" := by
  rcases attributes.withClasses_cases change with ⟨-, -, hSame⟩ | hSet
  · rw [hSame]
  · rw [hSet, erase_set_self]

/-- Operations on classes and places touch no other attribute. -/
theorem Builtin.keeps_sameAttributes {builtin : Builtin} (hAdd : builtin ≠ .addAttribute)
    (hRemove : builtin ≠ .removeAttribute) :
    builtin.Keeps Document.SameAttributes fun _ => True := by
  intro d changed target arguments _ hChange id
  rcases change_cases hChange with ⟨-, -, rfl⟩ | ⟨-, tag, attributes, hValue, rfl⟩
  · rw [Document.otherAttributes, Document.attributes_detach, Document.otherAttributes]
  · have hOther : (builtin.onAttributes arguments attributes).erase "class" =
        attributes.erase "class" := by
      cases builtin with
      | remove => rfl
      | addAttribute => exact absurd rfl hAdd
      | removeAttribute => exact absurd rfl hRemove
      | addClass | removeClass => exact Attributes.erase_withClasses _ attributes
    rw [Document.otherAttributes, Document.attributes_setValue_element hValue, Document.otherAttributes]
    split
    · next hTarget =>
        rw [hTarget, Document.attributes_eq hValue]
        exact congrArg Attributes.entries hOther
    · rfl

/-- What it means that only some names are allowed: as much as dropping the updates of all others. Where
the names do not allow to take nodes out or to change attributes, nothing does. -/
structure OperationTable.Sandboxes (table : OperationTable σ) (names : List String) : Prop where
  run_restrictedTo : ∀ element updates session,
    (run (table.restrictedTo names) element updates).ending session =
      (run table element (updates.filter (·.operation ∈ names))).ending session
  run_known : ∀ element updates session, (run table element updates).ending session =
    (run table element (updates.filter (table.contains ·.operation))).ending session
  applyWithConfig_eq : ∀ selector session,
    (applyWithConfig { selector, operations := some names } : Action σ RunError Unit).ending session =
      (applyAllowed names .builtin (.selector selector none)).ending session
  samePlaces : "remove" ∉ names → ∀ selector,
    (applyWithConfig { selector, operations := some names } : Action σ RunError Unit).Leads
      Document.SamePlaces
  sameAttributes : "addAttribute" ∉ names → "removeAttribute" ∉ names → ∀ selector,
    (applyWithConfig { selector, operations := some names } : Action σ RunError Unit).Leads
      Document.SameAttributes

/-- Restricting a table sandboxes what is run, whatever its operations are, and however often and in
whatever order names are listed. -/
theorem sandboxes_restrictedTo (table : OperationTable σ) (names : List String) :
    table.Sandboxes names where
  run_restrictedTo := ending_run_restrictedTo table names
  run_known := ending_run_known table
  applyWithConfig_eq selector session := by
    rw [ending_applyWithConfig]
    exact ending_apply_restrictedTo .builtin names _ session
  samePlaces hRemove selector := by
    refine leads_applyWithConfig (fun builtin hName => Builtin.keeps_samePlaces ?_) selector
    rintro rfl
    exact hRemove hName
  sameAttributes hAdd hRemove selector := by
    refine leads_applyWithConfig (fun builtin hName => Builtin.keeps_sameAttributes ?_ ?_) selector
    · rintro rfl
      exact hAdd hName
    · rintro rfl
      exact hRemove hName

/-- An item that asks for a class and for its removal. -/
def askingToLeave : Document := .nested "js-with-js--addClass__on js-with-js--remove" ""

/-- Where only classes may be added, the item gets its class and stays. -/
theorem sandboxes_askingToLeave :
    let ended := (applyWithConfig { operations := some ["addClass", "hide", "addClass"] }).run
      { document := askingToLeave, memory := () }
    ended.result = .ok () ∧ ended.session.document.parent? ⟨2⟩ = some ⟨1⟩ ∧
      ended.session.document.attribute? ⟨2⟩ "class" =
        some "js-with-js--addClass__on js-with-js--remove on" := by
  intro ended
  have sandboxes := sandboxes_restrictedTo (σ := Unit) .builtin ["addClass", "hide", "addClass"]
  refine ⟨by decide +kernel, ?_, by decide +kernel⟩
  have hSame := sandboxes.samePlaces (by decide) Target.defaultSelector
    { document := askingToLeave, memory := () } ⟨2⟩
  rw [hSame.1]
  decide

end ClassScript
