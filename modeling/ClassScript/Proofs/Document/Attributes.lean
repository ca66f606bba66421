import ClassScript.Proofs.Document.Classes
import ClassScript.Proofs.Document.Reachable
import ClassScript.Proofs.Text.Ascii

/-!
Attributes as ordered maps. Whatever has put a name among the attributes of an element, it stands there
once and in the spelling in which names are looked up. So setting an attribute, finding it and taking it
out mean the same entry, and the entries keep the order in which their names came.
-/

namespace ClassScript

namespace Attributes

/-- A name as it is kept. It has characters, none of which is forbidden, and no upper-case letter of
ASCII is among them. -/
structure IsKept (name : String) : Prop where
  ne_empty : name ≠ ""
  allowed : ∀ c ∈ name.toList, isForbidden c = false
  lower : ∀ c ∈ name.toList, c.isUpper = false

/-- Attributes whose names are distinct and are kept as they are looked up. -/
structure Ordered (attributes : Attributes) : Prop where
  nodup : attributes.names.Nodup
  isKept : ∀ name ∈ attributes.names, IsKept name

/-- The case of a letter makes no difference to what a name may hold. -/
theorem isForbidden_toLower (c : Char) : isForbidden c.toLower = isForbidden c :=
  Ascii.toLower_induction (P := fun c lower => isForbidden lower = isForbidden c) (by decide +kernel)
    (fun _ _ => rfl) c

/-- A valid name in lower case is one that attributes are kept under. -/
theorem isKept_lower {name : String} (h : isValidName name = true) : IsKept (Ascii.lower name) := by
  rw [isValidName, Bool.and_eq_true, Bool.not_eq_true', Bool.not_eq_true', List.any_eq_false] at h
  refine ⟨fun hEmpty => ?_, fun c hc => ?_, fun c hc => ?_⟩
  · have hNone : name.toList = [] := by
      rw [← List.map_eq_nil_iff (f := Char.toLower), ← Ascii.toList_lower, hEmpty, String.toList_empty]
    rw [String.toList_eq_nil_iff.mp hNone] at h
    exact absurd h.1 (by decide)
  · rw [Ascii.toList_lower] at hc
    obtain ⟨given, hGiven, rfl⟩ := List.mem_map.mp hc
    rw [isForbidden_toLower]
    simpa using h.2 given hGiven
  · rw [Ascii.toList_lower] at hc
    obtain ⟨given, -, rfl⟩ := List.mem_map.mp hc
    exact Ascii.isUpper_toLower given

theorem isKept_class : IsKept "class" := by
  have hLower : Ascii.lower "class" = "class" := by decide
  rw [← hLower]
  exact isKept_lower (by decide)

/-- A new name is put last. -/
theorem setIn_of_not_mem {name : String} {entries : List (String × String)}
    (h : name ∉ entries.map (·.1)) (value : String) :
    setIn name value entries = entries ++ [(name, value)] := by
  induction entries with
  | nil => rfl
  | cons entry rest ih =>
      rw [List.map_cons, List.mem_cons, not_or] at h
      rw [setIn, if_neg (Ne.symm h.1), ih h.2, List.cons_append]

/-- A name that stands once gets its value where it stands. -/
theorem setIn_of_mem {name : String} {entries : List (String × String)}
    (hNodup : (entries.map (·.1)).Nodup) (h : name ∈ entries.map (·.1)) (value : String) :
    setIn name value entries =
      entries.map fun entry => if entry.1 = name then (entry.1, value) else entry := by
  induction entries with
  | nil => cases h
  | cons entry rest ih =>
      obtain ⟨hNew, hRest⟩ := List.nodup_cons.mp hNodup
      by_cases hFirst : entry.1 = name
      · have hOther : ∀ other ∈ rest, (if other.1 = name then (other.1, value) else other) = other := by
          intro other hOther
          refine if_neg fun hName => hNew ?_
          have hMem : other.1 ∈ rest.map (·.1) := List.mem_map_of_mem hOther
          rwa [hName, ← hFirst] at hMem
        rw [setIn, if_pos hFirst, List.map_cons, if_pos hFirst, List.map_congr_left hOther, List.map_id']
      · have hMem := (List.mem_cons.mp h).resolve_left (Ne.symm hFirst)
        rw [setIn, if_neg hFirst, List.map_cons, if_neg hFirst, ih hRest hMem]

/-- Of two values that are given in a row the second one stays. -/
theorem setIn_setIn (name first second : String) (entries : List (String × String)) :
    setIn name second (setIn name first entries) = setIn name second entries := by
  induction entries with
  | nil => simp [setIn]
  | cons entry rest ih =>
      by_cases hName : entry.1 = name
      · simp [setIn, hName]
      · rw [setIn, if_neg hName, setIn, if_neg hName, setIn, if_neg hName, ih]

/-- Giving an attribute the value that it has changes nothing. -/
theorem setIn_of_lookup {name value : String} {entries : List (String × String)}
    (h : entries.lookup name = some value) : setIn name value entries = entries := by
  induction entries with
  | nil => cases h
  | cons entry rest ih =>
      obtain ⟨other, old⟩ := entry
      rw [lookup_cons_eq] at h
      by_cases hName : name = other
      · rw [if_pos hName, Option.some.injEq] at h
        rw [setIn, if_pos hName.symm, h]
      · rw [if_neg hName] at h
        rw [setIn, if_neg (Ne.symm hName), ih h]

/-- Setting an attribute that is there leaves it in its place, and a new one comes last. -/
theorem names_set (attributes : Attributes) (name value : String) :
    (attributes.set name value).names =
      if name ∈ attributes.names then attributes.names else attributes.names ++ [name] := by
  have hSetIn : ∀ entries : List (String × String), (setIn name value entries).map (·.1) =
      if name ∈ entries.map (·.1) then entries.map (·.1) else entries.map (·.1) ++ [name] := by
    intro entries
    induction entries with
    | nil => rfl
    | cons entry rest ih =>
        by_cases hFirst : entry.1 = name
        · simp [setIn, hFirst]
        · rw [setIn, if_neg hFirst, List.map_cons, ih]
          by_cases hRest : name ∈ rest.map (·.1) <;> simp [hRest, Ne.symm hFirst]
  exact hSetIn attributes.entries

/-- Erasing an attribute leaves the others in their order. -/
theorem names_erase (attributes : Attributes) (name : String) :
    (attributes.erase name).names = attributes.names.filter (· ≠ name) := by
  rw [names, erase, names, List.filter_map]
  rfl

namespace Ordered

variable {attributes : Attributes}

theorem empty : Ordered {} := ⟨List.nodup_nil, fun _ h => nomatch h⟩

/-- A valid name may be set again and again without standing twice. -/
theorem set (h : attributes.Ordered) {name : String} (hName : IsKept name) (value : String) :
    (attributes.set name value).Ordered := by
  constructor
  · rw [names_set]
    split
    · exact h.nodup
    · next hNew => exact h.nodup.append (List.nodup_singleton name) (by simpa using hNew)
  · intro other hOther
    rw [names_set] at hOther
    split at hOther
    · exact h.isKept other hOther
    · rcases List.mem_append.mp hOther with hOther | hOther
      · exact h.isKept other hOther
      · rw [List.mem_singleton.mp hOther]
        exact hName

/-- The names that are left are as distinct as before. -/
theorem erase (h : attributes.Ordered) (name : String) : (attributes.erase name).Ordered := by
  constructor
  · rw [names_erase]
    exact h.nodup.filter _
  · intro other hOther
    rw [names_erase] at hOther
    exact h.isKept other (List.mem_of_mem_filter hOther)

/-- A change of classes writes to one attribute, whose name is a valid one. -/
theorem withClasses (h : attributes.Ordered) (change : ClassList → ClassList) :
    (Document.withClasses change attributes).Ordered := by
  rcases attributes.withClasses_cases change with ⟨-, -, hSame⟩ | hSet
  · rwa [hSame]
  · rw [hSet]
    exact h.set isKept_class _

/-- At most one entry goes when a name is erased: the one that is found. -/
theorem length_entries_erase (h : attributes.Ordered) (name : String) :
    attributes.entries.length =
      (attributes.erase name).entries.length + (attributes.get? name).isSome.toNat := by
  have hNames : attributes.names.length =
      (attributes.names.erase name).length + (attributes.get? name).isSome.toNat := by
    rw [List.length_erase]
    cases hFound : (attributes.get? name).isSome with
    | true =>
        have hMem := mem_names_iff.mpr hFound
        have hPos := List.length_pos_of_mem hMem
        rw [if_pos hMem, Bool.toNat_true]
        omega
    | false =>
        have hNot : name ∉ attributes.names := by
          rw [mem_names_iff, hFound]
          exact Bool.false_ne_true
        rw [if_neg hNot, Bool.toNat_false]
        omega
  have hErase : (attributes.erase name).names = attributes.names.erase name := by
    rw [names_erase, h.nodup.erase_eq_filter]
    exact List.filter_congr fun other _ => Bool.eq_iff_iff.mpr (by simp)
  rwa [← hErase, names, List.length_map, names, List.length_map] at hNames

end Ordered

end Attributes

namespace Document

open Relation

variable {d changed : Document} {id : NodeId} {name : String}

/-- No change puts a name in twice or one that is not kept. -/
theorem Change.ordered_attributes (h : Change d changed) (hOrdered : ∀ id, (d.attributes id).Ordered)
    (id : NodeId) : (changed.attributes id).Ordered := by
  have hCreate : ∀ data : NodeData, data.attributes = {} →
      (Document.attributes (d.create data).2 id).Ordered := by
    intro data hData
    rw [attributes_create d hData]
    exact hOrdered id
  have hChange : ∀ {target change}, d.changeAttributes target change = .ok changed →
      (change (d.attributes target)).Ordered → (changed.attributes id).Ordered := by
    intro target change h hTarget
    rw [attributes_of_changeAttributes h]
    split
    · exact hTarget
    · exact hOrdered id
  cases h with
  | createElement | createText | createComment => exact hCreate _ rfl
  | append h =>
      obtain ⟨-, -, -, -, rfl⟩ := append_cases h
      rw [attributes_attach]
      exact hOrdered id
  | detach target =>
      rw [attributes_detach]
      exact hOrdered id
  | @setAttribute _ target name value h =>
      obtain ⟨hName, h⟩ := setAttribute_cases h
      exact hChange h ((hOrdered target).set (Attributes.isKept_lower hName) value)
  | @removeAttribute _ target name found h =>
      exact hChange (removeAttribute_cases h).2 ((hOrdered target).erase _)
  | @addClasses _ target tokens h => exact hChange (addClasses_cases h).2 ((hOrdered target).withClasses _)
  | @removeClasses _ target tokens h =>
      exact hChange (removeClasses_cases h).2 ((hOrdered target).withClasses _)

theorem attributes_empty (id : NodeId) : empty.attributes id = {} := by
  rw [Document.attributes, Arena.value?, node?_empty]
  by_cases h : id = root
  · rw [if_pos h]
    rfl
  · rw [if_neg h]
    rfl

/-- Attributes have distinct names in lower case, whatever was done to the document. -/
theorem Reachable.ordered_attributes (h : d.Reachable) (id : NodeId) : (d.attributes id).Ordered := by
  refine h.induction (fun id => ?_) Change.ordered_attributes id
  rw [attributes_empty]
  exact .empty

/-- An attribute was set: where its name stood already, in the same place, and else behind the others. -/
structure AttributeSet (d : Document) (id : NodeId) (name value : String) (changed : Document) :
    Prop where
  getAttribute_eq : ∀ other, changed.getAttribute id other =
    if Ascii.lower other = Ascii.lower name then some value else d.getAttribute id other
  inPlace : d.hasAttribute id name = true → (changed.attributes id).entries =
    (d.attributes id).entries.map fun entry =>
      if entry.1 = Ascii.lower name then (entry.1, value) else entry
  last : d.hasAttribute id name = false → (changed.attributes id).entries =
    (d.attributes id).entries ++ [(Ascii.lower name, value)]
  elsewhere : ∀ other, other ≠ id → changed.attributes other = d.attributes other

/-- An attribute was taken out, if it was there. The others are left in their order. -/
structure AttributeRemoved (d : Document) (id : NodeId) (name : String) (found : Bool)
    (changed : Document) : Prop where
  found_eq : found = (d.getAttribute id name).isSome
  getAttribute_eq : ∀ other, changed.getAttribute id other =
    if Ascii.lower other = Ascii.lower name then none else d.getAttribute id other
  entries_eq : (changed.attributes id).entries =
    (d.attributes id).entries.filter fun entry => entry.1 ≠ Ascii.lower name
  length_eq : (d.attributes id).entries.length = (changed.attributes id).entries.length + found.toNat
  elsewhere : ∀ other, other ≠ id → changed.attributes other = d.attributes other

/-- An attribute that was set has the value, and its name keeps its place. -/
theorem Reachable.attributeSet (h : d.Reachable) {value : String}
    (hSet : d.setAttribute id name value = .ok changed) : d.AttributeSet id name value changed := by
  obtain ⟨-, hChange⟩ := setAttribute_cases hSet
  have hOwn : changed.attributes id = (d.attributes id).set (Ascii.lower name) value := by
    rw [attributes_of_changeAttributes hChange, if_pos rfl]
  have hHas : d.hasAttribute id name = true ↔ Ascii.lower name ∈ (d.attributes id).names :=
    Attributes.mem_names_iff.symm
  refine ⟨fun other => ?_, fun hOld => ?_, fun hNew => ?_, fun other hOther => ?_⟩
  · rw [getAttribute, attribute?, hOwn, Attributes.get?_set]
    rfl
  · rw [hOwn]
    exact Attributes.setIn_of_mem (h.ordered_attributes id).nodup (hHas.mp hOld) value
  · rw [hOwn]
    refine Attributes.setIn_of_not_mem (fun hMem => ?_) value
    rw [hHas.mpr hMem] at hNew
    cases hNew
  · rw [attributes_of_changeAttributes hChange, if_neg hOther]

/-- An attribute that was removed is gone, and the answer says whether it was there. -/
theorem Reachable.attributeRemoved (h : d.Reachable) {found : Bool}
    (hRemove : d.removeAttribute id name = .ok (found, changed)) :
    d.AttributeRemoved id name found changed := by
  obtain ⟨hFound, hChange⟩ := removeAttribute_cases hRemove
  have hOwn : changed.attributes id = (d.attributes id).erase (Ascii.lower name) := by
    rw [attributes_of_changeAttributes hChange, if_pos rfl]
  refine ⟨hFound, fun other => ?_, ?_, ?_, fun other hOther => ?_⟩
  · rw [getAttribute, attribute?, hOwn, Attributes.get?_erase]
    rfl
  · rw [hOwn]
    rfl
  · rw [hOwn, hFound]
    exact (h.ordered_attributes id).length_entries_erase _
  · rw [attributes_of_changeAttributes hChange, if_neg hOther]

/-- Only elements have attributes, kept as ordered maps by the lower-case spelling of their names. -/
structure KeepsAttributes (d : Document) : Prop where
  of_not_element : ∀ id, d.isElement id = false → (d.attributes id).entries = []
  ordered : ∀ id, (d.attributes id).Ordered
  attributeSet : ∀ id name value changed, d.setAttribute id name value = .ok changed →
    d.AttributeSet id name value changed
  attributeRemoved : ∀ id name found changed, d.removeAttribute id name = .ok (found, changed) →
    d.AttributeRemoved id name found changed

/-- All this holds of every attribute of every document that can be made. -/
theorem Reachable.keepsAttributes (h : d.Reachable) : d.KeepsAttributes where
  of_not_element id hNot := by
    rw [Document.isElement] at hNot
    rw [Document.attributes]
    cases hValue : d.value? id with
    | none => rfl
    | some data =>
        rw [hValue] at hNot
        cases data with
        | element => cases hNot
        | document | text | comment => rfl
  ordered := h.ordered_attributes
  attributeSet _ _ _ _ hSet := h.attributeSet hSet
  attributeRemoved _ _ _ _ hRemove := h.attributeRemoved hRemove

end Document

end ClassScript
