import ClassScript.Operation.Table

/-!
The tables that a document's own classes may use: all builtin operations, or some of them.
-/

namespace ClassScript.OperationTable

variable {σ : Type}

/-- The table of the builtin operations, and what is left of it after restrictions. -/
inductive OfBuiltins : OperationTable σ → Prop where
  | builtin : OfBuiltins .builtin
  | restrictedTo {table : OperationTable σ} (prior : OfBuiltins table) (names : List String) :
      OfBuiltins (table.restrictedTo names)

/-- A name is known exactly where it means something. -/
theorem contains_eq_isSome (table : OperationTable σ) (name : String) :
    table.contains name = (table.get? name).isSome := by
  rw [contains, get?, Std.TreeMap.isSome_getElem?_eq_contains]

theorem get?_empty (name : String) : (empty : OperationTable σ).get? name = none :=
  Std.TreeMap.getElem?_emptyc

/-- The builtin table knows the builtin operations by their names and nothing else. -/
theorem get?_builtin (name : String) :
    (builtin : OperationTable σ).get? name = (Builtin.ofName? name).map Builtin.perform := by
  cases h : Builtin.ofName? name with
  | none =>
      have hNone : ∀ other : Builtin, other.name ≠ name := by
        intro other hName
        have hOther := Builtin.ofName?_name other
        rw [hName, h] at hOther
        cases hOther
      simp only [builtin, Builtin.all, List.foldl_cons, List.foldl_nil, get?_withOperation, hNone,
        if_false, get?_empty, Option.map_none]
  | some found =>
      rw [← Builtin.name_of_ofName? h]
      cases found <;>
        simp [builtin, Builtin.all, List.foldl_cons, List.foldl_nil, get?_withOperation, Builtin.name]

/-- What such a table knows by a name is the builtin operation of that name. -/
theorem OfBuiltins.exists_builtin {table : OperationTable σ} (h : table.OfBuiltins) {name : String}
    {operation : Operation σ} (hGet : table.get? name = some operation) :
    ∃ builtin, Builtin.ofName? name = some builtin ∧ operation = builtin.perform := by
  induction h with
  | builtin =>
      rw [get?_builtin] at hGet
      obtain ⟨builtin, hName, rfl⟩ := Option.map_eq_some_iff.mp hGet
      exact ⟨builtin, hName, rfl⟩
  | restrictedTo _ names ih =>
      rw [get?_restrictedTo] at hGet
      split at hGet
      · exact ih hGet
      · cases hGet

/-- A name that such a table knows means the builtin operation of that name. -/
theorem OfBuiltins.get?_of_contains {table : OperationTable σ} (h : table.OfBuiltins)
    {name : String} (hContains : table.contains name = true) :
    ∃ builtin, Builtin.ofName? name = some builtin ∧ table.get? name = some builtin.perform := by
  rw [contains_eq_isSome] at hContains
  obtain ⟨operation, hGet⟩ := Option.isSome_iff_exists.mp hContains
  obtain ⟨builtin, hName, rfl⟩ := h.exists_builtin hGet
  exact ⟨builtin, hName, hGet⟩

end ClassScript.OperationTable
