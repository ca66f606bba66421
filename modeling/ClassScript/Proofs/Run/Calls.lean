import ClassScript.Proofs.Arena.OrderedForest
import ClassScript.Proofs.Document.Attributes
import ClassScript.Proofs.Run.Leads

/-!
Documents under any sequence of calls. Whatever is called, with whatever nodes and arguments, and whether
it succeeds or fails, a document stays an ordered forest in which a node can be put below any other one
that is not below it already, and its elements keep their attributes as ordered maps.
-/

namespace ClassScript

open Relation

variable {σ : Type}

inductive Call (σ : Type) where
  | createElement (tag : String)
  | createText (text : String)
  | createComment (text : String)
  | append (parent child : NodeId)
  | detach (id : NodeId)
  | setAttribute (id : NodeId) (name value : String)
  | removeAttribute (id : NodeId) (name : String)
  | addClasses (id : NodeId) (tokens : List String)
  | removeClasses (id : NodeId) (tokens : List String)
  | perform (builtin : Builtin) (target : NodeId) (arguments : List String)
  | run (table : OperationTable σ) (element : NodeId) (updates : List Update)
  | apply (table : OperationTable σ) (target : Target)

namespace Action

def append (parent child : NodeId) : Action σ AppendError Unit := edit (·.append parent child)

end Action

namespace Call

def left : Call σ → Session σ → Session σ
  | createElement tag, session =>
    { session with document := (session.document.createElement tag).2 }
  | createText text, session => { session with document := (session.document.createText text).2 }
  | createComment text, session =>
    { session with document := (session.document.createComment text).2 }
  | append parent child, session => ((Action.append parent child).run session).session
  | detach id, session =>
    ((Action.detach id : Action σ OperationError (Option NodeId)).run session).session
  | setAttribute id name value, session =>
    ((Action.edit (·.setAttribute id name value)).run session).session
  | removeAttribute id name, session =>
    ((Action.edit fun d => (d.removeAttribute id name).map (·.2)).run session).session
  | addClasses id tokens, session => ((Action.edit (·.addClasses id tokens)).run session).session
  | removeClasses id tokens, session => ((Action.edit (·.removeClasses id tokens)).run session).session
  | perform builtin target arguments, session =>
    ((builtin.perform target arguments).run session).session
  | run table element updates, session => ((ClassScript.run table element updates).run session).session
  | apply table target, session => ((ClassScript.apply table target).run session).session

/-- A call whose operations leave a reachable document where they find one, as they do when they have no
other ways to work on it than these calls. -/
def Fair : Call σ → Prop
  | run table _ _ | apply table _ => table.Leads Document.StaysReachable fun _ => True
  | _ => True

end Call

/-- The session after calls, each made whatever became of those before it. -/
def Session.after (session : Session σ) (calls : List (Call σ)) : Session σ :=
  calls.foldl (fun session call => call.left session) session

/-- Running builtin operations keeps the document one that can be made. -/
theorem OperationTable.OfBuiltins.leads_staysReachable {table : OperationTable σ}
    (h : table.OfBuiltins) : table.Leads Document.StaysReachable fun _ => True :=
  h.leads Builtin.keeps_staysReachable

/-- A change that can be made leads to a document that can be made. -/
theorem Action.leads_staysReachable_edit {ε : Type} {change : Document → Except ε Document}
    (h : ∀ d changed, change d = .ok changed → Document.Change d changed) :
    (edit change : Action σ ε Unit).Leads Document.StaysReachable :=
  leads_edit fun d changed hChange hReachable => hReachable.change (h d changed hChange)

theorem Action.ending_detach (id : NodeId) (session : Session σ) :
    (detach id : Action σ OperationError (Option NodeId)).ending session =
      (.ok (session.document.parent? id),
        { session with document := session.document.detach id }) := by
  rw [detach, ending_document_bind]
  cases hParent : session.document.parent? id with
  | none =>
      have hSame : session.document.detach id = session.document := by
        rw [Arena.detach, hParent]
      rw [hSame]
      rfl
  | some parent => rfl

/-- A fair call keeps the document one that can be made. -/
theorem Call.Fair.reachable {call : Call σ} (h : call.Fair) {session : Session σ}
    (hReachable : session.document.Reachable) : (call.left session).document.Reachable := by
  cases call with
  | createElement tag => exact hReachable.change (.createElement _ tag)
  | createText text => exact hReachable.change (.createText _ text)
  | createComment text => exact hReachable.change (.createComment _ text)
  | append => exact Action.leads_staysReachable_edit (fun _ _ => .append) session hReachable
  | detach id =>
      have hLeft : (detach id).left session =
          { session with document := session.document.detach id } :=
        congrArg Prod.snd (Action.ending_detach id session)
      rw [hLeft]
      exact hReachable.change (.detach _ id)
  | setAttribute =>
      exact Action.leads_staysReachable_edit (fun _ _ => .setAttribute) session hReachable
  | removeAttribute id name =>
      refine Action.leads_staysReachable_edit (fun d changed hChange => ?_) session hReachable
      exact Document.change_of_removeAttribute hChange
  | addClasses => exact Action.leads_staysReachable_edit (fun _ _ => .addClasses) session hReachable
  | removeClasses =>
      exact Action.leads_staysReachable_edit (fun _ _ => .removeClasses) session hReachable
  | perform builtin target arguments =>
      exact builtin.keeps_staysReachable.leads_perform target (fun _ _ => trivial) session hReachable
  | run table element updates =>
      exact OperationTable.Leads.run h element (fun _ _ _ _ => trivial) session hReachable
  | apply table target =>
      exact OperationTable.Leads.apply h (fun _ _ _ _ _ _ => trivial) target session hReachable

/-- So does any sequence of fair calls. -/
theorem Session.reachable_after {session : Session σ} (hReachable : session.document.Reachable)
    {calls : List (Call σ)} (hCalls : ∀ call ∈ calls, call.Fair) :
    (session.after calls).document.Reachable := by
  induction calls generalizing session with
  | nil => exact hReachable
  | cons call rest ih =>
      obtain ⟨hCall, hRest⟩ := List.forall_mem_cons.mp hCalls
      exact ih (hCall.reachable hReachable) hRest

namespace Document

variable {d : Document} {parent child : NodeId}

/-- Why a node cannot be put below another: it is that node or above it, or one of them is unknown. -/
def Barred (d : Document) (parent child : NodeId) : Prop :=
  parent = child ∨ TransGen d.Above child parent ∨ d.value? parent = none ∨ d.value? child = none

/-- A node that is barred from a place is refused there. -/
theorem exists_error_of_barred (wf : d.WellFormed) (h : d.Barred parent child) :
    ∃ error, d.append parent child = .error error := by
  cases hAppend : d.append parent child with
  | error error => exact ⟨error, rfl⟩
  | ok changed =>
      obtain ⟨hParent, hChild, hNe, hAncestor, -⟩ := append_cases hAppend
      rcases h with hSame | hAbove | hUnknown | hUnknown
      · exact absurd hSame.symm hNe
      · exact absurd (wf.mem_ancestors_iff.mpr hAbove) hAncestor
      · exact absurd hUnknown (Arena.value?_ne_none_iff.mpr hParent)
      · exact absurd hUnknown (Arena.value?_ne_none_iff.mpr hChild)

/-- A node that is not barred from a place is put there. -/
theorem append_of_not_barred (wf : d.WellFormed) (h : ¬ d.Barred parent child) :
    d.append parent child = .ok (d.attach parent child) := by
  simp only [Barred, not_or] at h
  obtain ⟨hNe, hAbove, hParent, hChild⟩ := h
  have hAncestor : (d.ancestors parent).contains child = false := by
    rw [← Bool.not_eq_true, List.contains_iff_mem, wf.mem_ancestors_iff]
    exact hAbove
  have hKnown : ((d.value? parent).isNone || (d.value? child).isNone) = false := by
    rw [Bool.or_eq_false_iff, Option.isNone_eq_false_iff, Option.isNone_eq_false_iff,
      Option.isSome_iff_ne_none, Option.isSome_iff_ne_none]
    exact ⟨hParent, hChild⟩
  rw [append, if_neg (Ne.symm hNe)]
  simp only [hKnown, hAncestor, Bool.false_eq_true, if_false]

end Document

/-- The document of a session is an ordered forest, and it is rearranged as one: a node is put below
another unless that is barred, and then nothing changes; and a node can always be taken out. -/
structure Session.AsForest (session : Session σ) : Prop where
  ordered : session.document.OrderedForest
  append_of_barred : ∀ parent child, session.document.Barred parent child →
    ∃ error, (Action.append parent child).ending session = (.error error, session)
  append_of_not_barred : ∀ parent child, ¬ session.document.Barred parent child →
    ∃ changed, (Action.append parent child).ending session =
        (.ok (), { session with document := changed }) ∧
      session.document.MovedLast parent child changed
  detach : ∀ id, ∃ changed,
    (Action.detach id : Action σ OperationError (Option NodeId)).ending session =
        (.ok (session.document.parent? id), { session with document := changed }) ∧
      session.document.TakenOut id changed

/-- In a document that can be made, the three calls do what they do to a forest. -/
theorem Document.Reachable.asForest {session : Session σ} (h : session.document.Reachable) :
    session.AsForest where
  ordered := h.wellFormed.orderedForest
  append_of_barred parent child hBarred := by
    obtain ⟨error, hError⟩ := exists_error_of_barred h.wellFormed hBarred
    rw [Action.append, Action.ending_edit, hError]
    exact ⟨error, rfl⟩
  append_of_not_barred parent child hNot := by
    have hKnown := hNot
    simp only [Barred, not_or] at hKnown
    rw [Action.append, Action.ending_edit, Document.append_of_not_barred h.wellFormed hNot]
    exact ⟨_, rfl, h.wellFormed.movedLast_attach (Arena.value?_ne_none_iff.mp hKnown.2.2.1)
      (Arena.value?_ne_none_iff.mp hKnown.2.2.2)⟩
  detach id := ⟨_, Action.ending_detach id session, h.wellFormed.takenOut_detach id⟩

/-- After any calls, made on any reachable document, the document is an ordered forest. -/
theorem asForest_after {session : Session σ} (hReachable : session.document.Reachable)
    {calls : List (Call σ)} (hCalls : ∀ call ∈ calls, call.Fair) : (session.after calls).AsForest :=
  (Session.reachable_after hReachable hCalls).asForest

/-- Calls on an empty document: an element with a class that asks for its removal is put below another
one and appended again, an ancestor is refused as a child, the document itself is put below a text, and
the work that is asked for takes the element out. -/
def rearranging : List (Call Unit) :=
  [.createElement "ul", .createElement "li", .append ⟨0⟩ ⟨1⟩, .append ⟨1⟩ ⟨2⟩, .append ⟨1⟩ ⟨2⟩,
    .append ⟨2⟩ ⟨0⟩, .addClasses ⟨2⟩ ["js-with-js--remove"], .createText "", .append ⟨3⟩ ⟨0⟩,
    .apply .builtin .default]

theorem asForest_rearranging :
    let ended := ({ document := .empty, memory := () } : Session Unit).after rearranging
    Document.Reachable .empty ∧ (∀ call ∈ rearranging, call.Fair) ∧ ended.AsForest ∧
      ended.document.descendants ⟨3⟩ = [⟨0⟩, ⟨1⟩] ∧ ended.document.parent? ⟨2⟩ = none := by
  intro ended
  have hTable := (OperationTable.OfBuiltins.builtin (σ := Unit)).leads_staysReachable
  have hCalls : ∀ call ∈ rearranging, call.Fair := by
    simp only [rearranging, List.forall_mem_cons]
    exact ⟨trivial, trivial, trivial, trivial, trivial, trivial, trivial, trivial, trivial, hTable,
      fun _ h => nomatch h⟩
  exact ⟨.empty, hCalls, asForest_after .empty hCalls, by decide +kernel, by decide +kernel⟩

/-- After any calls, made on any reachable document, its elements keep their attributes as ordered maps. -/
theorem keepsAttributes_after {session : Session σ} (hReachable : session.document.Reachable)
    {calls : List (Call σ)} (hCalls : ∀ call ∈ calls, call.Fair) :
    (session.after calls).document.KeepsAttributes :=
  (Session.reachable_after hReachable hCalls).keepsAttributes

/-- Calls on an empty document that put attributes of an element in four ways, and a name with an equals
sign that is refused. -/
def respelling : List (Call Unit) :=
  [.createElement "p", .addClasses ⟨1⟩ ["a"], .setAttribute ⟨1⟩ "Data-X" "1",
    .perform .addAttribute ⟨1⟩ ["CLASS", "js-with-js--addClass__b"], .setAttribute ⟨1⟩ "x=y" "",
    .run .builtin ⟨1⟩ [{ operation := "addClass", arguments := ["b"] }]]

/-- Another spelling of a name sets the same attribute in its place. -/
theorem keepsAttributes_respelling :
    let ended := ({ document := .empty, memory := () } : Session Unit).after respelling
    Document.Reachable .empty ∧ (∀ call ∈ respelling, call.Fair) ∧
      (ended.document.attributes ⟨1⟩).entries =
        [("class", "js-with-js--addClass__b b"), ("data-x", "1")] ∧
      ∃ changed, ended.document.setAttribute ⟨1⟩ "DATA-x" "2" = .ok changed ∧
        (changed.attributes ⟨1⟩).entries =
          [("class", "js-with-js--addClass__b b"), ("data-x", "2")] := by
  intro ended
  have hTable := (OperationTable.OfBuiltins.builtin (σ := Unit)).leads_staysReachable
  have hCalls : ∀ call ∈ respelling, call.Fair := by
    simp only [respelling, List.forall_mem_cons]
    exact ⟨trivial, trivial, trivial, trivial, trivial, hTable, fun _ h => nomatch h⟩
  have hEntries : (ended.document.attributes ⟨1⟩).entries =
      [("class", "js-with-js--addClass__b b"), ("data-x", "1")] := by decide +kernel
  have keeps : ended.document.KeepsAttributes := keepsAttributes_after .empty hCalls
  refine ⟨.empty, hCalls, hEntries, _, rfl, ?_⟩
  rw [(keeps.attributeSet ⟨1⟩ "DATA-x" "2" _ rfl).inPlace (by decide +kernel), hEntries]
  decide

end ClassScript
