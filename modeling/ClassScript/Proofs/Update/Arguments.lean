import ClassScript.Proofs.Document.Classes
import ClassScript.Proofs.Text.Doubled
import ClassScript.Update

/-!
The arguments of an update that stands among the classes of an element. Classes are separated by
blanks, so no argument has one.
-/

namespace ClassScript

theorem Doubled.mem_of_mem_split {d c : Char} {s part : List Char} (h : part ∈ split d s)
    (hc : c ∈ part) : c ∈ s := by
  fun_induction split d s generalizing part with
  | case1 =>
      rw [List.mem_singleton.mp h] at hc
      exact hc
  | case2 x =>
      rw [List.mem_singleton.mp h] at hc
      exact hc
  | case3 x y rest _ ih =>
      rcases List.mem_cons.mp h with rfl | h
      · cases hc
      · exact List.mem_cons_of_mem x (List.mem_cons_of_mem y (ih h hc))
  | case4 x y rest _ ih =>
      obtain ⟨head, others, hSplit⟩ := List.exists_cons_of_ne_nil (split_ne_nil d (y :: rest))
      rw [hSplit] at ih h
      rcases List.mem_cons.mp h with rfl | h
      · rcases List.mem_cons.mp hc with rfl | hc
        · exact List.mem_cons_self
        · exact List.mem_cons_of_mem x (ih List.mem_cons_self hc)
      · exact List.mem_cons_of_mem x (ih (List.mem_cons_of_mem head h) hc)

namespace Update

/-- Arguments are cut out of the description. -/
theorem mem_of_ofDescription? {s : List Char} {update : Update}
    (h : ofDescription? s = some update) {argument : String} (hMem : argument ∈ update.arguments)
    {c : Char} (hc : c ∈ argument.toList) : c ∈ s := by
  cases s with
  | nil => cases h
  | cons first rest =>
      rw [ofDescription?] at h
      split at h
      · cases h
      · split at h
        · cases h
          cases hMem
        · cases h
          cases hMem
        · next operation block _ hCut =>
            cases h
            obtain ⟨part, hPart, rfl⟩ := List.mem_map.mp hMem
            rw [String.toList_ofList] at hc
            rw [Doubled.append_of_cut? hCut]
            have hBlock := Doubled.mem_of_mem_split hPart hc
            exact List.mem_append_right _ (List.mem_cons_of_mem _ (List.mem_cons_of_mem _ hBlock))

theorem unbroken_of_ofClass? {className : String} {update : Update}
    (h : ofClass? className = some update) (hClass : Unbroken className) :
    ∀ argument ∈ update.arguments, Unbroken argument := by
  intro argument hMem c hc
  obtain ⟨description, hMark, hDescription⟩ := Option.bind_eq_some_iff.mp h
  have hIn := mem_of_ofDescription? hDescription hMem hc
  rw [List.isPrefixOf?_eq_some_iff_append_eq] at hMark
  exact hClass c (hMark ▸ List.mem_append_right _ hIn)

/-- No argument of a class on an element has a blank in it. -/
theorem unbroken_of_mem_ofElement {d : Document} {id : NodeId} {update : Update}
    (h : update ∈ ofElement d id) : ∀ argument ∈ update.arguments, Unbroken argument := by
  obtain ⟨className, hMem, hUpdate⟩ := List.mem_filterMap.mp h
  exact unbroken_of_ofClass? hUpdate (Document.unbroken_of_mem_classList hMem)

end Update

end ClassScript
