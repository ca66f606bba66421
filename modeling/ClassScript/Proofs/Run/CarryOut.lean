import ClassScript.Proofs.Arena.Descendants
import ClassScript.Proofs.Document.Reachable
import ClassScript.Proofs.Operation.Table
import ClassScript.Proofs.Run.Task

/-!
Working on the elements of a target is carrying out the tasks that their classes asked for before
anything was changed. An element's classes are read again when its turn comes, but until then no task
has touched them.
-/

namespace ClassScript

variable {σ : Type}

namespace OperationTable

def updates (table : OperationTable σ) (d : Document) (element : NodeId) : List Update :=
  (Update.ofElement d element).filter (table.contains ·.operation)

/-- The tasks of elements, in the order of the elements and then in that of their classes. -/
def tasks (table : OperationTable σ) (d : Document) (elements : List NodeId) : List Task :=
  elements.flatMap fun element => (table.updates d element).map (Task.mk element)

/-- The tasks of the first element come first. -/
theorem tasks_cons (table : OperationTable σ) (d : Document) (element : NodeId)
    (rest : List NodeId) :
    table.tasks d (element :: rest) =
      (table.updates d element).map (Task.mk element) ++ table.tasks d rest :=
  List.flatMap_cons

/-- Carries out tasks in order, up to the first that fails. -/
def carryOut (table : OperationTable σ) (tasks : List Task) : Action σ RunError Unit :=
  tasks.forM fun task => run table task.element [task.update]

end OperationTable

open OperationTable

variable {table : OperationTable σ}

/-- Updates are run one after the other. -/
theorem run_cons (element : NodeId) (update : Update) (rest : List Update) :
    run table element (update :: rest) =
      run table element [update] >>= fun _ => run table element rest := by
  cases h : table.get? update.operation with
  | none => simp [run, h]
  | some operation => simp [run, h]

/-- An update that the table does not know does nothing. -/
theorem ending_run_of_unknown {element : NodeId} {update : Update}
    (h : table.contains update.operation = false) (session : Session σ) :
    (run table element [update]).ending session = (.ok (), session) := by
  have hGet : table.get? update.operation = none := by
    rw [contains_eq_isSome] at h
    simpa using h
  rw [run, hGet]
  rfl

/-- An update that the table knows changes the document or is refused. -/
theorem ending_run_of_get? {element : NodeId} {update : Update} {builtin : Builtin}
    (h : table.get? update.operation = some builtin.perform) (session : Session σ) :
    (run table element [update]).ending session =
      session.conclude
        ((builtin.change session.document element update.arguments).mapError
          (.failed update element)) := by
  have hOperation : ((builtin.perform element update.arguments).mapError
      (RunError.failed update element) : Action σ RunError Unit).ending session = _ :=
    Action.ending_mapError _ _ session
  rw [Builtin.ending_perform, ← Action.conclude_mapError] at hOperation
  simp only [run, h]
  rw [Action.ending_note_bind, bind_pure_unit]
  exact hOperation

theorem carryOut_append (tasks more : List Task) :
    table.carryOut (tasks ++ more) = table.carryOut tasks >>= fun _ => table.carryOut more := by
  induction tasks with
  | nil => rfl
  | cons task rest ih =>
      have hCons : ∀ others, table.carryOut (task :: others) =
          run table task.element [task.update] >>= fun _ => table.carryOut others := fun _ => rfl
      rw [List.cons_append, hCons, ih, hCons, bind_assoc]

/-- To run updates is to carry out those that the table knows. -/
theorem ending_run (element : NodeId) (updates : List Update) (session : Session σ) :
    (run table element updates).ending session =
      (table.carryOut ((updates.filter (table.contains ·.operation)).map (Task.mk element))).ending
        session := by
  induction updates generalizing session with
  | nil => rfl
  | cons update rest ih =>
      rw [run_cons]
      cases h : table.contains update.operation with
      | false =>
          rw [List.filter_cons_of_neg (by simp [h]),
            Action.ending_bind_of_ok (ending_run_of_unknown h session)]
          exact ih session
      | true =>
          rw [List.filter_cons_of_pos (by simpa using h)]
          exact Action.ending_bind_congr rfl fun _ after _ => ih after

/-- A task from the classes of an element, of an operation that the table has. -/
structure Proper (table : OperationTable σ) (d : Document) (task : Task) : Prop where
  contains : table.contains task.update.operation = true
  exists_element : ∃ tag attributes, d.value? task.element = some (.element tag attributes)
  unbroken : ∀ argument ∈ task.update.arguments, Unbroken argument

/-- A task that is refused after others were carried out, and why. -/
def Refused (d : Document) (done : List Task) (task : Task) (cause : OperationError) : Prop :=
  ∃ builtin, Builtin.ofName? task.update.operation = some builtin ∧
    Builtin.Refusal task.element task.update.arguments
      (d.elementParent? task.element = none ∨ Update.TakeOut (asked done task.element)) builtin cause

def NoneRefused (d : Document) (done tasks : List Task) : Prop :=
  ∀ before task after cause, tasks = before ++ task :: after → ¬ Refused d (done ++ before) task cause

/-- The first task that is refused, why, and what was carried out before it. -/
structure FirstRefused (d : Document) (done tasks before : List Task) (task : Task)
    (cause : OperationError) : Prop where
  split : ∃ after, tasks = before ++ task :: after
  refused : Refused d (done ++ before) task cause
  earlier : NoneRefused d done before

variable {d : Document} {done : List Task} {task : Task} {session : Session σ}

/-- A task of a builtin operation ends as that operation changes the document. -/
theorem exists_builtin_of_proper (hTable : table.OfBuiltins) (proper : Proper table d task)
    (session : Session σ) :
    ∃ builtin, Builtin.ofName? task.update.operation = some builtin ∧
      (run table task.element [task.update]).ending session =
        session.conclude
          ((builtin.change session.document task.element task.update.arguments).mapError
            (.failed task.update task.element)) := by
  obtain ⟨builtin, hName, hGet⟩ := hTable.get?_of_contains proper.contains
  exact ⟨builtin, hName, ending_run_of_get? hGet session⟩

/-- A refused task fails with its cause and leaves the document alone. -/
theorem ending_of_refused (hTable : table.OfBuiltins) (proper : Proper table d task)
    (effect : Effect d done session.document) {cause : OperationError}
    (h : Refused d done task cause) :
    (run table task.element [task.update]).ending session =
      (.error (.failed task.update task.element cause), session) := by
  obtain ⟨builtin, hName, hEnding⟩ := exists_builtin_of_proper hTable proper session
  obtain ⟨other, hOther, hRefusal⟩ := h
  rw [hName, Option.some_inj] at hOther
  subst hOther
  obtain ⟨tag, attributes, hElement⟩ := proper.exists_element
  rw [hEnding, (effect.change_eq_error_iff hElement proper.unbroken).mpr hRefusal]
  rfl

/-- A task that is not refused is carried out. -/
theorem exists_ending_of_not_refused (hTable : table.OfBuiltins) (wf : d.WellFormed)
    (proper : Proper table d task) (effect : Effect d done session.document)
    (h : ∀ cause, ¬ Refused d done task cause) :
    ∃ changed, Effect d (done ++ [task]) changed ∧
      (run table task.element [task.update]).ending session =
        (.ok (), { session with document := changed }) := by
  obtain ⟨builtin, hName, hEnding⟩ := exists_builtin_of_proper hTable proper session
  obtain ⟨tag, attributes, hElement⟩ := proper.exists_element
  cases hChange : builtin.change session.document task.element task.update.arguments with
  | error cause =>
      have hRefusal := (effect.change_eq_error_iff hElement proper.unbroken).mp hChange
      exact absurd ⟨builtin, hName, hRefusal⟩ (h cause)
  | ok changed =>
      rw [hChange] at hEnding
      exact ⟨changed, effect.snoc wf hName hChange, hEnding⟩

/-- Where no task is refused after those before it, all of them are carried out. -/
theorem exists_ending_carryOut (hTable : table.OfBuiltins) (wf : d.WellFormed) {tasks : List Task}
    (hProper : ∀ task ∈ tasks, Proper table d task) (effect : Effect d done session.document)
    (h : NoneRefused d done tasks) :
    ∃ changed, Effect d (done ++ tasks) changed ∧
      (table.carryOut tasks).ending session = (.ok (), { session with document := changed }) := by
  induction tasks generalizing done session with
  | nil => exact ⟨session.document, by rwa [List.append_nil], rfl⟩
  | cons task rest ih =>
      obtain ⟨hTask, hRest⟩ := List.forall_mem_cons.mp hProper
      have hFirst : ∀ cause, ¬ Refused d done task cause := by
        intro cause
        have hNot := h [] task rest cause rfl
        rwa [List.append_nil] at hNot
      obtain ⟨middle, hMiddle, hEnding⟩ :=
        exists_ending_of_not_refused hTable wf hTask effect hFirst
      have hLater : NoneRefused d (done ++ [task]) rest := by
        intro before other after cause hSplit
        rw [List.append_assoc]
        exact h (task :: before) other after cause (congrArg (task :: ·) hSplit)
      obtain ⟨changed, hChanged, hAll⟩ :=
        @ih (done ++ [task]) { session with document := middle } hRest hMiddle hLater
      refine ⟨changed, ?_, ?_⟩
      · rwa [List.append_assoc] at hChanged
      · exact (Action.ending_bind_of_ok hEnding fun _ => table.carryOut rest).trans hAll

/-- The first task that is refused stops the work. What was done before it stays. -/
theorem FirstRefused.exists_ending (hTable : table.OfBuiltins) (wf : d.WellFormed)
    {tasks before : List Task} {cause : OperationError}
    (hProper : ∀ task ∈ tasks, Proper table d task) (effect : Effect d done session.document)
    (h : FirstRefused d done tasks before task cause) :
    ∃ stopped : Session σ, (table.carryOut before).ending session = (.ok (), stopped) ∧
      (table.carryOut tasks).ending session =
        (.error (.failed task.update task.element cause), stopped) := by
  obtain ⟨after, rfl⟩ := h.split
  have hBefore : ∀ other ∈ before, Proper table d other :=
    fun other hOther => hProper other (List.mem_append_left _ hOther)
  have hTask : Proper table d task :=
    hProper task (List.mem_append_right _ List.mem_cons_self)
  obtain ⟨changed, hChanged, hEnding⟩ := exists_ending_carryOut hTable wf hBefore effect h.earlier
  have hStop := @ending_of_refused _ _ _ _ _ { session with document := changed } hTable hTask
    hChanged _ h.refused
  refine ⟨{ session with document := changed }, hEnding, ?_⟩
  rw [carryOut_append, Action.ending_bind_of_ok hEnding]
  exact Action.ending_bind_of_error hStop fun _ => table.carryOut after

/-- Among tasks of which one is refused there is a first one. -/
theorem exists_firstRefused {tasks before after : List Task} {cause : OperationError}
    (hSplit : tasks = before ++ task :: after) (hRefused : Refused d (done ++ before) task cause) :
    ∃ before task cause, FirstRefused d done tasks before task cause := by
  induction hLength : before.length using Nat.strong_induction_on
    generalizing before task after cause with
  | h n ih =>
      by_cases hFirst : NoneRefused d done before
      · exact ⟨before, task, cause, ⟨after, hSplit⟩, hRefused, hFirst⟩
      · rw [NoneRefused] at hFirst
        push Not at hFirst
        obtain ⟨sooner, other, later, reason, rfl, hSooner⟩ := hFirst
        rw [List.append_assoc] at hSplit
        refine ih sooner.length ?_ hSplit hSooner rfl
        rw [← hLength, List.length_append, List.length_cons]
        omega

/-- Of tasks that were all carried out, none was refused. -/
theorem noneRefused_of_ending (hTable : table.OfBuiltins) (wf : d.WellFormed) {tasks : List Task}
    (hProper : ∀ task ∈ tasks, Proper table d task) (effect : Effect d done session.document)
    {after : Session σ} (h : (table.carryOut tasks).ending session = (.ok (), after)) :
    NoneRefused d done tasks := by
  intro before task later cause hSplit hRefused
  obtain ⟨before, task, cause, hFirst⟩ := exists_firstRefused hSplit hRefused
  obtain ⟨stopped, -, hStop⟩ := hFirst.exists_ending hTable wf hProper effect
  rw [hStop] at h
  cases h

/-- Tasks that were all carried out have had their effect. -/
theorem effect_of_ending (hTable : table.OfBuiltins) (wf : d.WellFormed) {tasks : List Task}
    (hProper : ∀ task ∈ tasks, Proper table d task) (effect : Effect d done session.document)
    {after : Session σ} (h : (table.carryOut tasks).ending session = (.ok (), after)) :
    Effect d (done ++ tasks) after.document := by
  have hNone := noneRefused_of_ending hTable wf hProper effect h
  obtain ⟨changed, hChanged, hEnding⟩ := exists_ending_carryOut hTable wf hProper effect hNone
  rw [hEnding] at h
  cases h
  exact hChanged

/-- The updates of one element are asked of it alone. -/
theorem asked_map (updates : List Update) (element id : NodeId) :
    asked (updates.map (Task.mk element)) id = if element = id then updates else [] := by
  induction updates with
  | nil => simp [asked]
  | cons update rest ih =>
      rw [List.map_cons, ← List.singleton_append, asked_append, ih, asked_singleton]
      split <;> rfl

/-- Each element is asked for its own updates only. -/
theorem asked_tasks {d : Document} {elements : List NodeId} (hNodup : elements.Nodup)
    (id : NodeId) :
    asked (table.tasks d elements) id = if id ∈ elements then table.updates d id else [] := by
  induction elements with
  | nil => rfl
  | cons element rest ih =>
      obtain ⟨hNew, hRest⟩ := List.nodup_cons.mp hNodup
      rw [OperationTable.tasks, List.flatMap_cons, asked_append, asked_map]
      rw [OperationTable.tasks] at ih
      rw [ih hRest]
      by_cases hEq : element = id
      · subst hEq
        simp [hNew]
      · simp [hEq, Ne.symm hEq]

/-- Every task of elements is for an element and a name that the table knows. -/
theorem proper_of_mem_tasks {elements : List NodeId}
    (hElements : ∀ element ∈ elements, ∃ tag attributes,
      d.value? element = some (.element tag attributes))
    (h : task ∈ table.tasks d elements) : Proper table d task := by
  obtain ⟨element, hElement, hTask⟩ := List.mem_flatMap.mp h
  obtain ⟨update, hUpdate, rfl⟩ := List.mem_map.mp hTask
  obtain ⟨hMem, hContains⟩ := List.mem_filter.mp hUpdate
  exact ⟨hContains, hElements element hElement, Update.unbroken_of_mem_ofElement hMem⟩

/-- An element that no task has asked anything of has the classes that it had. -/
theorem Effect.ofElement_eq {changed : Document} (effect : Effect d done changed) {id : NodeId}
    (h : asked done id = []) : Update.ofElement changed id = Update.ofElement d id := by
  rw [Update.ofElement, Document.classList, Document.attribute?, Document.attributes,
    effect.value?_of_asked_eq_nil h]
  rfl

/-- The induction is over the elements. Each one's classes are read when its turn comes, and the
tasks of the elements before it have left them as they were. -/
theorem ending_forM_applyToElement (hTable : table.OfBuiltins) (wf : d.WellFormed)
    {elements : List NodeId} (hNodup : elements.Nodup)
    (hElements : ∀ element ∈ elements, ∃ tag attributes,
      d.value? element = some (.element tag attributes))
    (effect : Effect d done session.document)
    (hUntouched : ∀ element ∈ elements, asked done element = []) :
    (elements.forM (applyToElement table)).ending session =
      (table.carryOut (table.tasks d elements)).ending session := by
  induction elements generalizing done session with
  | nil => rfl
  | cons element rest ih =>
      obtain ⟨hNew, hRest⟩ := List.nodup_cons.mp hNodup
      have hTasks : table.tasks d (element :: rest) =
          table.tasks d [element] ++ table.tasks d rest := by
        simp [OperationTable.tasks]
      have hOwn : (applyToElement table element).ending session =
          (table.carryOut (table.tasks d [element])).ending session := by
        rw [applyToElement, Action.ending_document_bind, ending_run,
          effect.ofElement_eq (hUntouched element List.mem_cons_self)]
        simp [OperationTable.tasks, OperationTable.updates]
      rw [hTasks, carryOut_append]
      refine Action.ending_bind_congr hOwn fun _ after hAfter => ?_
      have hProper : ∀ task ∈ table.tasks d [element], Proper table d task :=
        fun _ hTask => proper_of_mem_tasks (by simpa using hElements element List.mem_cons_self) hTask
      have hEffect := effect_of_ending hTable wf hProper effect hAfter
      refine ih hRest (fun other hOther => hElements other (List.mem_cons_of_mem _ hOther)) hEffect ?_
      intro other hOther
      have hNe : other ≠ element := fun hEq => hNew (hEq ▸ hOther)
      rw [asked_append, hUntouched other (List.mem_cons_of_mem _ hOther),
        asked_tasks (List.nodup_singleton element)]
      simp [hNe]

theorem Document.exists_of_isElement {element : NodeId} (h : d.isElement element = true) :
    ∃ tag attributes, d.value? element = some (.element tag attributes) := by
  rw [isElement, Option.any_eq_true] at h
  obtain ⟨data, hValue, hIs⟩ := h
  cases data with
  | element tag attributes => exact ⟨tag, attributes, hValue⟩
  | document | text | comment => cases hIs

/-- What a query finds are elements, and each of them once. -/
theorem elements_of_queryAll (wf : d.WellFormed) {root : NodeId} {text : String}
    {elements : List NodeId} (h : d.queryAll root text = .ok elements) :
    elements.Nodup ∧ ∀ element ∈ elements, ∃ tag attributes,
      d.value? element = some (.element tag attributes) := by
  obtain ⟨group, -, hFound⟩ := Document.exists_ok_of_bind h
  cases hFound
  refine ⟨(wf.nodup_descendants root).filter _, fun element hElement => ?_⟩
  have hSelected := (List.mem_filter.mp hElement).2
  rw [Document.selected, Bool.and_eq_true] at hSelected
  exact Document.exists_of_isElement hSelected.1

/-- Finding elements changes nothing. -/
theorem ending_queryAll (root : NodeId) (text : String) (session : Session σ) :
    ((Action.queryAll root text).mapError (RunError.target text) :
        Action σ RunError (List NodeId)).ending session =
      ((session.document.queryAll root text).mapError (.target text), session) := by
  rw [Action.ending_mapError, Action.queryAll, Action.ending_document_bind]
  cases session.document.queryAll root text <;> rfl

/-- Where the elements cannot be found, nothing is done. -/
theorem ending_apply_of_error {text : String} {root? : Option NodeId} {error : DomError}
    (h : session.document.queryAll (root?.getD Document.root) text = .error error) :
    (apply table (.selector text root?)).ending session = (.error (.target text error), session) := by
  have hFound := ending_queryAll (root?.getD Document.root) text session
  rw [h] at hFound
  exact Action.ending_bind_of_error hFound _

/-- Working on a selected target ends as carrying out the tasks that were asked for before. -/
theorem ending_apply (hTable : table.OfBuiltins) (wf : session.document.WellFormed) {text : String}
    {root? : Option NodeId} {elements : List NodeId}
    (h : session.document.queryAll (root?.getD Document.root) text = .ok elements) :
    (apply table (.selector text root?)).ending session =
      (table.carryOut (table.tasks session.document elements)).ending session := by
  obtain ⟨hNodup, hElements⟩ := elements_of_queryAll wf h
  have hFound := ending_queryAll (root?.getD Document.root) text session
  rw [h] at hFound
  rw [apply, Action.ending_bind_of_ok hFound, Action.ending_note_bind]
  exact ending_forM_applyToElement hTable wf hNodup hElements (Effect.refl _) fun _ _ => rfl

end ClassScript
