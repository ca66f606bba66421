import ClassScript.Proofs.Run.Marked
import ClassScript.Proofs.Run.Overwriting

/-!
Work on a whole document that was done can be done again, and the second run changes nothing but orders.
What the second run finds was found by the first one and asks for the same updates: nothing in the
document could write new ones, and what asked to be taken out is not in the document any more.
-/

namespace ClassScript

open Relation

variable {σ : Type} {table : OperationTable σ} {d once : Document} {tasks : List Task}

/-- The elements in which the default selector finds the mark. -/
def Document.asking (d : Document) : List NodeId := d.elements.filter (d.selected Target.defaultGroup)

/-- The default selector finds the elements that ask for something. -/
theorem Document.queryAll_default (d : Document) :
    d.queryAll root Target.defaultSelector = .ok d.asking :=
  d.queryAll_defaultSelector

/-- An element of the document that holds updates asks for something. -/
theorem Document.mem_asking {id : NodeId} (wf : d.WellFormed) (hBelow : TransGen d.Above root id)
    (hUpdates : Update.ofElement d id ≠ []) : id ∈ d.asking := by
  have hSelected := selected_of_ofElement_ne_nil hUpdates
  have hElement : d.isElement id = true := by
    rw [selected, Bool.and_eq_true] at hSelected
    exact hSelected.1
  exact List.mem_filter.mpr
    ⟨List.mem_filter.mpr ⟨wf.mem_descendants_iff.mpr hBelow, hElement⟩, hSelected⟩

/-- Only what stands in the document is found. -/
theorem Document.transGen_of_mem_asking {id : NodeId} (wf : d.WellFormed) (h : id ∈ d.asking) :
    TransGen d.Above root id :=
  wf.mem_descendants_iff.mp (List.mem_filter.mp (List.mem_filter.mp h).1).1

/-- What is above a node was above it before, and the node was not taken out. -/
theorem Effect.above (effect : Effect d tasks once) {upper lower : NodeId}
    (h : once.Above upper lower) :
    d.Above upper lower ∧ ¬ Update.TakeOut (asked tasks lower) := by
  rw [Arena.Above, effect.parent?_eq] at h
  split at h
  · cases h
  · next hStays => exact ⟨h, hStays⟩

/-- If an element still asks for known updates, it asks for those that it asked for before. -/
theorem OperationTable.updates_of_ofElement {first second : Document} {id : NodeId}
    (h : Update.ofElement second id = Update.ofElement first id ∨ Update.ofElement second id = [])
    (hUpdates : table.updates second id ≠ []) :
    Update.ofElement first id ≠ [] ∧ table.updates second id = table.updates first id := by
  have hSome : Update.ofElement second id ≠ [] := by
    intro hNone
    rw [OperationTable.updates, hNone] at hUpdates
    exact hUpdates rfl
  have hSame := h.resolve_right hSome
  rw [OperationTable.updates, OperationTable.updates, hSame]
  exact ⟨hSame ▸ hSome, rfl⟩

/-- An element is asked for its own updates, if it is found at all. -/
theorem asked_tasks_asking (wf : d.WellFormed) (id : NodeId) :
    asked (table.tasks d d.asking) id = if id ∈ d.asking then table.updates d id else [] :=
  asked_tasks (((wf.nodup_descendants Document.root).filter _).filter _) id

/-- A first run that succeeded: what was asked for in the document has been done, nothing of it was
refused, and nothing asks for more than before. -/
structure OperationTable.Done (table : OperationTable σ) (d once : Document) : Prop where
  wellFormed : d.WellFormed
  wellFormed_once : once.WellFormed
  effect : Effect d (table.tasks d d.asking) once
  noneRefused : NoneRefused d [] (table.tasks d d.asking)
  marksNothing : d.MarksNothing once

/-- An element that is found again with updates was found before with the same updates, and none of them
takes it out. -/
theorem OperationTable.Done.foundAgain (done : table.Done d once) {id : NodeId}
    (hFound : id ∈ once.asking) (hUpdates : table.updates once id ≠ []) :
    id ∈ d.asking ∧ table.updates once id = table.updates d id ∧
      ¬ Update.TakeOut (table.updates d id) := by
  obtain ⟨hSome, hSame⟩ :=
    OperationTable.updates_of_ofElement (done.marksNothing.asksNoMore.updates id) hUpdates
  have hBelow := Document.transGen_of_mem_asking done.wellFormed_once hFound
  have hBefore : TransGen d.Above Document.root id :=
    TransGen.mono (fun _ _ hAbove => (done.effect.above hAbove).1) _ _ hBelow
  have hAsking := Document.mem_asking done.wellFormed hBefore hSome
  obtain ⟨upper, -, hLast⟩ := TransGen.tail'_iff.mp hBelow
  have hStays := (done.effect.above hLast).2
  rw [asked_tasks_asking done.wellFormed, if_pos hAsking] at hStays
  exact ⟨hAsking, hSame, hStays⟩

/-- The tasks are the known updates of the elements. -/
theorem OperationTable.mem_tasks_iff {elements : List NodeId} {task : Task} :
    task ∈ table.tasks d elements ↔
      task.element ∈ elements ∧ task.update ∈ table.updates d task.element := by
  simp only [OperationTable.tasks, List.mem_flatMap, List.mem_map]
  constructor
  · rintro ⟨element, hElement, update, hUpdate, rfl⟩
    exact ⟨hElement, hUpdate⟩
  · rintro ⟨hElement, hUpdate⟩
    exact ⟨task.element, hElement, task.update, hUpdate, rfl⟩

/-- For anything but removal, it does not matter what is above the element. -/
theorem Builtin.Refusal.of_ne_remove {target : NodeId} {arguments : List String} {orphan other : Prop}
    {builtin : Builtin} {cause : OperationError} (h : Refusal target arguments orphan builtin cause)
    (hOther : builtin ≠ .remove) : Refusal target arguments other builtin cause := by
  cases h with
  | invalidName hName => exact .invalidName hName
  | emptyAdded hEmpty => exact .emptyAdded hEmpty
  | emptyRemoved hEmpty => exact .emptyRemoved hEmpty
  | noParent => exact absurd rfl hOther

/-- A task that was not refused among others is refused nowhere for its arguments. -/
theorem NoneRefused.not_refusal (h : NoneRefused d [] tasks) {task : Task} (hTask : task ∈ tasks)
    {builtin : Builtin} (hName : Builtin.ofName? task.update.operation = some builtin)
    (hOther : builtin ≠ .remove) (orphan : Prop) (cause : OperationError) :
    ¬ Builtin.Refusal task.element task.update.arguments orphan builtin cause := by
  obtain ⟨before, after, hSplit⟩ := List.append_of_mem hTask
  exact fun hRefusal => h before task after cause hSplit ⟨builtin, hName, hRefusal.of_ne_remove hOther⟩

/-- Every task is for an element and a name that the table knows. -/
theorem proper_of_mem_tasks_asking (wf : d.WellFormed) {task : Task}
    (h : task ∈ table.tasks d d.asking) : Proper table d task :=
  proper_of_mem_tasks (elements_of_queryAll wf d.queryAll_default).2 h

namespace OperationTable.Done

/-- Classes that were added are words. -/
theorem isWord (done : table.Done d once) {task : Task} (hTask : task ∈ table.tasks d d.asking)
    (hOperation : task.update.operation = "addClass") :
    ∀ argument ∈ task.update.arguments, IsWord argument := by
  intro argument hArgument
  refine ⟨?_, (proper_of_mem_tasks_asking done.wellFormed hTask).unbroken argument hArgument⟩
  rintro rfl
  have hName : Builtin.ofName? task.update.operation = some .addClass :=
    hOperation ▸ Builtin.ofName?_name .addClass
  exact done.noneRefused.not_refusal hTask hName nofun False _ (.emptyAdded hArgument)

/-- Where nothing was refused, nothing is refused again. -/
theorem noneRefused_again (done : table.Done d once) :
    NoneRefused once [] (table.tasks once once.asking) := by
  intro before task after cause hSplit hRefused
  obtain ⟨builtin, hName, hRefusal⟩ := hRefused
  have hTask : task ∈ table.tasks once once.asking :=
    hSplit ▸ List.mem_append_right before List.mem_cons_self
  obtain ⟨hFound, hUpdate⟩ := mem_tasks_iff.mp hTask
  obtain ⟨hAsking, hSame, hStays⟩ := done.foundAgain hFound (List.ne_nil_of_mem hUpdate)
  rw [hSame] at hUpdate
  have hOther : builtin ≠ .remove := by
    rintro rfl
    exact hStays ⟨task.update, hUpdate, (Builtin.name_of_ofName? hName).symm⟩
  exact done.noneRefused.not_refusal (mem_tasks_iff.mpr ⟨hAsking, hUpdate⟩) hName hOther _ _ hRefusal

/-- No element is taken out that was not taken out before. -/
theorem not_takeOut_again (done : table.Done d once) (id : NodeId) :
    ¬ Update.TakeOut (asked (table.tasks once once.asking) id) := by
  rintro ⟨update, hUpdate, hOperation⟩
  rw [asked_tasks_asking done.wellFormed_once] at hUpdate
  split at hUpdate
  · next hFound =>
      obtain ⟨-, hSame, hStays⟩ := done.foundAgain hFound (List.ne_nil_of_mem hUpdate)
      exact hStays ⟨update, hSame ▸ hUpdate, hOperation⟩
  · cases hUpdate

end OperationTable.Done

/-- The attributes of an element are those that its own updates make of the old ones. -/
theorem Effect.attributes_eq (effect : Effect d tasks once) {id : NodeId} {tag : String}
    {attributes : Attributes} (h : d.value? id = some (.element tag attributes)) :
    once.attributes id = Update.allOnAttributes (asked tasks id) (d.attributes id) := by
  rw [Document.attributes, effect.value?_eq, h, Document.attributes, h]
  rfl

/-- What is asked of an element again was asked of it before, and was done then. -/
theorem OperationTable.Done.alike_attributes (done : table.Done d once) {twice : Document}
    (effect : Effect once (table.tasks once once.asking) twice) (id : NodeId) :
    (once.attributes id).Alike (twice.attributes id) := by
  by_cases hAsked : asked (table.tasks once once.asking) id = []
  · have hSame : twice.attributes id = once.attributes id := by
      rw [Document.attributes, effect.value?_of_asked_eq_nil hAsked, Document.attributes]
    rw [hSame]
    exact .refl _
  · have hAskedOnce := @asked_tasks_asking _ table once done.wellFormed_once id
    have hFound : id ∈ once.asking := by
      by_contra hNot
      exact hAsked (hAskedOnce.trans (if_neg hNot))
    rw [if_pos hFound] at hAskedOnce
    rw [hAskedOnce] at hAsked
    obtain ⟨hAsking, hSame, -⟩ := done.foundAgain hFound hAsked
    obtain ⟨_, _, hValue⟩ := (elements_of_queryAll done.wellFormed d.queryAll_default).2 id hAsking
    obtain ⟨_, _, hOnce⟩ :=
      (elements_of_queryAll done.wellFormed_once once.queryAll_default).2 id hFound
    rw [effect.attributes_eq hOnce, hAskedOnce, done.effect.attributes_eq hValue,
      asked_tasks_asking done.wellFormed, if_pos hAsking, hSame]
    refine Update.alike_allOnAttributes (fun update hUpdate hOperation => ?_) _
    have hTask : Task.mk id update ∈ table.tasks d d.asking := mem_tasks_iff.mpr ⟨hAsking, hUpdate⟩
    exact done.isWord hTask hOperation

/-- Documents that differ at most in the order of attributes and of classes. -/
structure Document.Alike (d other : Document) : Prop where
  size_eq : other.size = d.size
  parent?_eq : ∀ id, other.parent? id = d.parent? id
  children_eq : ∀ id, other.children id = d.children id
  mem_names_iff : ∀ id name, name ∈ (other.attributes id).names ↔ name ∈ (d.attributes id).names
  attribute?_eq : ∀ id name, name ≠ "class" → other.attribute? id name = d.attribute? id name
  mem_classList_iff : ∀ id token,
    token ∈ (other.classList id).tokens ↔ token ∈ (d.classList id).tokens

/-- Running everything once more leaves all that can be seen as it is. -/
theorem OperationTable.Done.alike (done : table.Done d once) {twice : Document}
    (effect : Effect once (table.tasks once once.asking) twice) : once.Alike twice where
  size_eq := effect.size_eq
  parent?_eq id := by rw [effect.parent?_eq, if_neg (done.not_takeOut_again id)]
  children_eq id := by
    rw [effect.children_eq]
    simp [done.not_takeOut_again]
  mem_names_iff id := (done.alike_attributes effect id).mem_names_iff
  attribute?_eq id := (done.alike_attributes effect id).get?_eq
  mem_classList_iff id := (done.alike_attributes effect id).mem_classes_iff

/-- The default target is a run over the elements that ask for something. -/
theorem ending_apply_default (hTable : table.OfBuiltins) {session : Session σ}
    (wf : session.document.WellFormed) :
    (apply table .default).ending session =
      (table.carryOut (table.tasks session.document session.document.asking)).ending session :=
  @ending_apply _ table session hTable wf _ none _ session.document.queryAll_default

/-- Where a run succeeds, everything that was asked for is done. -/
theorem done_of_ending (hTable : table.OfBuiltins) {session once : Session σ}
    (hReachable : session.document.Reachable)
    (h : (apply table .default).ending session = (.ok (), once)) :
    table.Done session.document once.document := by
  have wf := hReachable.wellFormed
  have hProper := fun task => @proper_of_mem_tasks_asking _ table session.document wf task
  have hLeft : ((apply table .default).run session).session = once := congrArg Prod.snd h
  have hMarks := leads_marksNothing_apply hTable .default session
  rw [hLeft] at hMarks
  rw [ending_apply_default hTable wf] at h
  have hEffect := effect_of_ending hTable wf hProper (Effect.refl _) h
  exact {
    wellFormed := wf
    wellFormed_once := hEffect.wellFormed wf
    effect := hEffect
    noneRefused := noneRefused_of_ending hTable wf hProper (Effect.refl _) h
    marksNothing := hMarks }

/-- Work with the default selector on a whole document that succeeds can be done again. The second run
succeeds too, and the documents differ at most in the order of attributes and of classes. -/
theorem alike_applyAgain (hTable : table.OfBuiltins) {session once : Session σ}
    (hReachable : session.document.Reachable)
    (hOnce : (apply table .default).ending session = (.ok (), once)) :
    ∃ twice : Session σ, (apply table .default).ending once = (.ok (), twice) ∧
      once.document.Alike twice.document := by
  have done := done_of_ending hTable hReachable hOnce
  obtain ⟨twice, hTwice, hEnding⟩ := exists_ending_carryOut hTable done.wellFormed_once
    (fun _ => proper_of_mem_tasks_asking done.wellFormed_once) (Effect.refl once.document)
    done.noneRefused_again
  refine ⟨{ once with document := twice }, ?_, done.alike hTwice⟩
  rw [ending_apply_default hTable done.wellFormed_once]
  exact hEnding

/-- An item that asks for a class. What stands in it asks to be taken out. -/
def leavingOnce : Document := .nested "js-with-js--addClass__a" "js-with-js--remove"

/-- The second run does not try to take out again what the first one has taken out. -/
theorem alike_leavingOnce :
    let once := (apply .builtin .default).ending { document := leavingOnce, memory := () }
    leavingOnce.Reachable ∧ once.1 = .ok () ∧
      ∃ twice : Session Unit, (apply .builtin .default).ending once.2 = (.ok (), twice) ∧
        once.2.document.Alike twice.document ∧ twice.document.parent? ⟨3⟩ = none := by
  intro once
  have hReachable : leavingOnce.Reachable := Document.reachable_nested _ _
  have hSuccess : once.1 = .ok () := by decide +kernel
  have hOnce : (apply .builtin .default).ending { document := leavingOnce, memory := () } =
      (.ok (), once.2) := Prod.ext hSuccess rfl
  obtain ⟨twice, hTwice, hAlike⟩ := alike_applyAgain .builtin hReachable hOnce
  refine ⟨hReachable, hSuccess, twice, hTwice, hAlike, ?_⟩
  have hLeft : once.2.document.parent? ⟨3⟩ = none := by decide +kernel
  rw [hAlike.parent?_eq, hLeft]

end ClassScript
