import ClassScript.Document.Attributes
import ClassScript.Json.Value
import Mathlib.Data.List.Forall2
import Mathlib.Data.List.Nodup

/-!
JSON values that are the same. The order of the fields of an object says nothing, the order of the items
of an array does.
-/

namespace ClassScript

open Attributes (lookup_cons_eq)

section

variable {α β : Type}

/-- A field that is not there has no value. -/
theorem lookup_eq_none_of_not_mem {name : String} {fields : List (String × α)}
    (h : name ∉ fields.map (·.1)) : fields.lookup name = none := by
  rw [List.lookup_eq_none_iff]
  rintro field hField
  rw [bne_iff_ne]
  rintro rfl
  exact h (List.mem_map_of_mem hField)

/-- Under distinct names, what is found is what is there. -/
theorem lookup_eq_some_iff_mem {name : String} {value : α} {fields : List (String × α)}
    (hNodup : (fields.map (·.1)).Nodup) : fields.lookup name = some value ↔ (name, value) ∈ fields := by
  induction fields with
  | nil => simp
  | cons field rest ih =>
      obtain ⟨first, old⟩ := field
      obtain ⟨hNew, hRest⟩ := List.nodup_cons.mp hNodup
      rw [lookup_cons_eq, List.mem_cons, Prod.mk.injEq, ← ih hRest]
      by_cases hName : name = first
      · have hNone : rest.lookup name = none := by
          rw [hName]
          exact lookup_eq_none_of_not_mem hNew
        rw [if_pos hName, hNone, Option.some.injEq, eq_comm]
        simp [hName]
      · simp [hName]

/-- Values that are changed are found under the same names. -/
theorem lookup_map_snd (f : α → β) (name : String) (fields : List (String × α)) :
    (fields.map fun field => (field.1, f field.2)).lookup name = (fields.lookup name).map f := by
  induction fields with
  | nil => rfl
  | cons field rest ih =>
      obtain ⟨first, value⟩ := field
      rw [List.map_cons, lookup_cons_eq, lookup_cons_eq, ih]
      split <;> rfl

/-- Under distinct names, the same is found in two lists only if they are one list in two orders. -/
theorem forall_lookup_eq_iff_perm {fields others : List (String × α)}
    (hFields : (fields.map (·.1)).Nodup) (hOthers : (others.map (·.1)).Nodup) :
    (∀ name, fields.lookup name = others.lookup name) ↔ fields.Perm others := by
  rw [List.perm_ext_iff_of_nodup hFields.of_map hOthers.of_map]
  constructor
  · rintro h ⟨name, value⟩
    rw [← lookup_eq_some_iff_mem hFields, h, lookup_eq_some_iff_mem hOthers]
  · intro h name
    refine Option.ext fun value => ?_
    rw [lookup_eq_some_iff_mem hFields, h, lookup_eq_some_iff_mem hOthers]

end

namespace Json

/-- The same value. In objects the same names have the same values, whatever their order. -/
inductive Same : Json → Json → Prop where
  | null : Same null null
  | string (text : String) : Same (string text) (string text)
  | array {items others : List Json} (h : List.Forall₂ Same items others) :
      Same (array items) (array others)
  | object {fields others : List (String × Json)}
      (h : ∀ name, Option.Rel Same (fields.lookup name) (others.lookup name)) :
      Same (object fields) (object others)

theorem same_string_iff {text other : String} : Same (string text) (string other) ↔ text = other := by
  constructor
  · rintro ⟨⟩
    rfl
  · rintro rfl
    exact .string text

/-- Arrays are the same item by item, in their order. -/
theorem same_array_iff {items others : List Json} :
    Same (array items) (array others) ↔ List.Forall₂ Same items others := by
  constructor
  · rintro (_ | _ | h)
    exact h
  · exact .array

/-- Objects are the same field by field, in whatever order. -/
theorem same_object_iff {fields others : List (String × Json)} :
    Same (object fields) (object others) ↔
      ∀ name, Option.Rel Same (fields.lookup name) (others.lookup name) := by
  constructor
  · rintro (_ | _ | _ | h)
    exact h
  · exact .object

/-- Objects with the same names in the same order are compared field by field. -/
theorem same_object_iff_forall₂ {fields others : List (String × Json)}
    (hNames : fields.map (·.1) = others.map (·.1)) (hNodup : (fields.map (·.1)).Nodup) :
    Same (object fields) (object others) ↔
      List.Forall₂ (fun field other => Same field.2 other.2) fields others := by
  rw [same_object_iff]
  induction fields generalizing others with
  | nil =>
      rw [List.map_eq_nil_iff.mp hNames.symm]
      exact iff_of_true (fun _ => .none) .nil
  | cons field rest ih =>
      obtain ⟨first, value⟩ := field
      obtain ⟨⟨other, value'⟩, rest', rfl, hFirst, hRest⟩ := List.map_eq_cons_iff.mp hNames.symm
      obtain rfl : other = first := hFirst
      obtain ⟨hNew, hNodup⟩ := List.nodup_cons.mp hNodup
      have hNone : rest.lookup other = none := lookup_eq_none_of_not_mem hNew
      have hNone' : rest'.lookup other = none := lookup_eq_none_of_not_mem (hRest ▸ hNew)
      rw [List.forall₂_cons, ← ih hRest.symm hNodup]
      constructor
      · intro h
        refine ⟨?_, fun name => ?_⟩
        · have hFirst := h other
          rwa [lookup_cons_eq, lookup_cons_eq, if_pos rfl, if_pos rfl,
            Option.rel_some_some] at hFirst
        · by_cases hName : name = other
          · rw [hName, hNone, hNone']
            exact .none
          · have hOther := h name
            rwa [lookup_cons_eq, lookup_cons_eq, if_neg hName, if_neg hName] at hOther
      · rintro ⟨hFirst, h⟩ name
        rw [lookup_cons_eq, lookup_cons_eq]
        split
        · exact .some hFirst
        · exact h name

/-- Objects of texts are the same when the same texts are found under the same names. -/
theorem same_object_string_iff {fields others : List (String × String)} :
    Same (object (fields.map fun field => (field.1, string field.2)))
        (object (others.map fun field => (field.1, string field.2))) ↔
      ∀ name, fields.lookup name = others.lookup name := by
  rw [same_object_iff]
  refine forall_congr' fun name => ?_
  rw [lookup_map_snd, lookup_map_snd]
  cases fields.lookup name <;> cases others.lookup name <;> simp [same_string_iff]

end Json

end ClassScript
