import ClassScript.Proofs.Text.Doubled
import ClassScript.Update

/-!
Class names against the updates that are read from them. A class name keeps no more of an update than
can be told from where its first doubled underscore and its doubled dashes stand, so some updates are
read back as others, and one that is read from a class name cannot be written at all.
-/

namespace ClassScript.Update

/-- What follows the mark in the class name of an update. -/
def description (update : Update) : List Char := update.operation.toList ++ block update.arguments

/-- A description has a first character, and that one ends no line. -/
def Starts (s : List Char) : Prop := ∃ c, s.head? = some c ∧ isLineEnd c = false

/-- How a description is an update, by where its first doubled underscore stands. -/
inductive Describes (s : List Char) (update : Update) : Prop where
  | operation (hCut : Doubled.cut? '_' s = none) (hOperation : update.operation.toList = s)
      (hArguments : update.arguments = [])
  | emptyBlock (hCut : Doubled.cut? '_' s = some (update.operation.toList, []))
      (hArguments : update.arguments = [])
  | block {block : List Char} (hCut : Doubled.cut? '_' s = some (update.operation.toList, block))
      (hNe : block ≠ []) (hArguments : Doubled.split '-' block = update.arguments.map String.toList)

/-- A description is read exactly where it starts well and describes the update. -/
theorem ofDescription?_eq_some_iff {s : List Char} {update : Update} :
    ofDescription? s = some update ↔ Starts s ∧ Describes s update := by
  cases s with
  | nil => simp [ofDescription?, Starts]
  | cons first rest =>
      have hStarts : Starts (first :: rest) ↔ isLineEnd first = false := by simp [Starts]
      rw [ofDescription?, hStarts]
      cases hFirst : isLineEnd first with
      | true => simp
      | false =>
          simp only [Bool.false_eq_true, if_false, true_and]
          constructor
          · intro h
            split at h
            · next hCut =>
                cases h
                exact .operation hCut String.toList_ofList rfl
            · next operation hCut =>
                cases h
                exact .emptyBlock (by rw [hCut, String.toList_ofList]) rfl
            · next operation block hNe hCut =>
                cases h
                exact .block (by rw [hCut, String.toList_ofList]) hNe (by simp)
          · intro h
            obtain ⟨operation, arguments⟩ := update
            cases h with
            | operation hCut hOperation hArguments =>
                cases hArguments
                rw [hCut, ← hOperation, String.ofList_toList]
            | emptyBlock hCut hArguments =>
                cases hArguments
                simp [hCut]
            | @block block hCut hNe hArguments =>
                obtain ⟨c, more, rfl⟩ := List.exists_cons_of_ne_nil hNe
                rw [hCut]
                simp [hArguments]

/-- A class is an update where a description follows the mark. -/
theorem ofClass?_eq_some_iff {className : String} {update : Update} :
    ofClass? className = some update ↔
      ∃ s, className.toList = mark.toList ++ s ∧ ofDescription? s = some update := by
  simp only [ofClass?, Option.bind_eq_some_iff, List.isPrefixOf?_eq_some_iff_append_eq,
    eq_comm (b := className.toList)]

theorem toList_className (update : Update) :
    update.className.toList = mark.toList ++ update.description := by
  rw [className, String.toList_ofList, List.append_assoc, description]

theorem ofClass?_className (update : Update) :
    ofClass? update.className = ofDescription? update.description := by
  have hPrefix : mark.toList.isPrefixOf? update.className.toList = some update.description := by
    rw [List.isPrefixOf?_eq_some_iff_append_eq]
    exact (toList_className update).symm
  rw [ofClass?, hPrefix, Option.bind_some]

theorem description_of_ne_nil {update : Update} (h : update.arguments ≠ []) :
    update.description =
      update.operation.toList ++ '_' :: '_' :: Doubled.join '-' (update.arguments.map String.toList) := by
  obtain ⟨operation, arguments⟩ := update
  obtain ⟨first, rest, rfl⟩ := List.exists_cons_of_ne_nil h
  rfl

theorem description_of_eq_nil {update : Update} (h : update.arguments = []) :
    update.description = update.operation.toList := by
  rw [description, h, block, List.append_nil]

/-- What an update has to be for its class name to tell it: no pair of underscores stands in front of
the one that ends the operation, and no pair of dashes except between two arguments. -/
structure Legible (update : Update) : Prop where
  not_empty : ¬ (update.operation = "" ∧ update.arguments = [])
  operation_first : ∀ c ∈ ['\n', '\r', '\u2028', '\u2029'],
    update.operation.toList.head? ≠ some c
  operation_pair : ¬ ['_', '_'] <:+: update.operation.toList
  operation_last : update.arguments ≠ [] → update.operation.toList.getLast? ≠ some '_'
  arguments_ne : update.arguments ≠ [""]
  argument_pair : ∀ argument ∈ update.arguments, ¬ ['-', '-'] <:+: argument.toList
  argument_last : ∀ argument ∈ update.arguments.dropLast, argument.toList.getLast? ≠ some '-'

theorem isLineEnd_eq_false_iff (c : Char) :
    isLineEnd c = false ↔ ∀ lineEnd ∈ ['\n', '\r', '\u2028', '\u2029'], c ≠ lineEnd := by
  simp [isLineEnd, and_assoc]

/-- A description begins with its operation, or without a name with a separator. -/
theorem starts_description_iff (update : Update) :
    Starts update.description ↔
      ¬ (update.operation = "" ∧ update.arguments = []) ∧
        ∀ c ∈ ['\n', '\r', '\u2028', '\u2029'], update.operation.toList.head? ≠ some c := by
  obtain ⟨operation, arguments⟩ := update
  simp only [Starts, isLineEnd_eq_false_iff]
  cases hOperation : operation.toList with
  | nil =>
      have hEmpty : operation = "" := by simpa using hOperation
      subst hEmpty
      cases arguments with
      | nil => simp [description, block]
      | cons first rest =>
          rw [description_of_ne_nil (List.cons_ne_nil first rest)]
          simp
  | cons c rest =>
      have hNe : operation ≠ "" := by
        rintro rfl
        cases hOperation
      simp [description, hOperation, hNe]

/-- Arguments that are joined are found again in a block that is not empty. -/
theorem split_arguments_iff {arguments : List String} (hNe : arguments ≠ []) :
    (Doubled.join '-' (arguments.map String.toList) ≠ [] ∧
        Doubled.split '-' (Doubled.join '-' (arguments.map String.toList)) =
          arguments.map String.toList) ↔
      arguments ≠ [""] ∧ (∀ argument ∈ arguments, ¬ ['-', '-'] <:+: argument.toList) ∧
        ∀ argument ∈ arguments.dropLast, argument.toList.getLast? ≠ some '-' := by
  have hJoin : Doubled.join '-' (arguments.map String.toList) = [] ↔ arguments = [""] := by
    obtain ⟨first, rest, rfl⟩ := List.exists_cons_of_ne_nil hNe
    cases rest with
    | nil => simp [Doubled.join, List.intercalate_singleton]
    | cons second rest =>
        rw [List.map_cons, Doubled.join_cons (by simp)]
        simp
  rw [ne_eq, hJoin, Doubled.split_join_iff]
  simp [hNe, ← List.map_dropLast]

/-- The description of an update describes it exactly where its marks are found again. -/
theorem describes_description_iff (update : Update) :
    Describes update.description update ↔
      ¬ ['_', '_'] <:+: update.operation.toList ∧
      (update.arguments ≠ [] → update.operation.toList.getLast? ≠ some '_') ∧
      update.arguments ≠ [""] ∧
      (∀ argument ∈ update.arguments, ¬ ['-', '-'] <:+: argument.toList) ∧
      ∀ argument ∈ update.arguments.dropLast, argument.toList.getLast? ≠ some '-' := by
  by_cases hNil : update.arguments = []
  · rw [description_of_eq_nil hNil, hNil, ← Doubled.cut?_eq_none_iff]
    constructor
    · intro h
      refine ⟨?_, by simp⟩
      cases h with
      | operation hCut => exact hCut
      | emptyBlock hCut => simpa using congrArg List.length (Doubled.append_of_cut? hCut)
      | block _ _ hArguments =>
          rw [hNil] at hArguments
          exact absurd hArguments (Doubled.split_ne_nil '-' _)
    · rintro ⟨hCut, -⟩
      exact .operation hCut rfl hNil
  · rw [description_of_ne_nil hNil, ← split_arguments_iff hNil, ← and_assoc, imp_iff_right hNil,
      ← not_or, ← Doubled.pair_infix_snoc_iff]
    constructor
    · intro h
      cases h with
      | operation _ _ hArguments => exact absurd hArguments hNil
      | emptyBlock _ hArguments => exact absurd hArguments hNil
      | @block block hCut hNe hArguments =>
          have hBlock : block = Doubled.join '-' (update.arguments.map String.toList) := by
            simpa using (Doubled.append_of_cut? hCut).symm
          rw [hBlock] at hNe hArguments
          exact ⟨Doubled.not_infix_of_cut? hCut, hNe, hArguments⟩
    · rintro ⟨hPair, hNe, hArguments⟩
      exact .block (Doubled.cut?_append hPair _) hNe hArguments

/-- An update is read back from its class name if and only if the class name can tell it. -/
theorem ofClass?_className_eq_some_iff (update : Update) :
    ofClass? update.className = some update ↔ update.Legible := by
  rw [ofClass?_className, ofDescription?_eq_some_iff, starts_description_iff,
    describes_description_iff]
  constructor
  · rintro ⟨⟨hNotEmpty, hFirst⟩, hPair, hLast, hNe, hArgument, hEnd⟩
    exact ⟨hNotEmpty, hFirst, hPair, hLast, hNe, hArgument, hEnd⟩
  · intro h
    exact ⟨⟨h.not_empty, h.operation_first⟩, h.operation_pair, h.operation_last, h.arguments_ne,
      h.argument_pair, h.argument_last⟩

/-- Two empty arguments can be told from their class name, and one cannot. -/
example :
    ofClass? (className { operation := "op", arguments := ["", ""] }) =
        some { operation := "op", arguments := ["", ""] } ∧
      ofClass? (className { operation := "op", arguments := [""] }) = some { operation := "op" } := by
  decide

/-- A description that was read is written again, without the separator of a block that is empty. -/
theorem Describes.description_cases {s : List Char} {update : Update} (h : Describes s update) :
    (update.description = s ∧ ∀ operation, Doubled.cut? '_' s ≠ some (operation, [])) ∨
      (Doubled.cut? '_' s = some (update.operation.toList, []) ∧ update.arguments = []) := by
  cases h with
  | operation hCut hOperation hArguments =>
      refine .inl ⟨?_, fun operation => by simp [hCut]⟩
      rw [description_of_eq_nil hArguments, hOperation]
  | emptyBlock hCut hArguments => exact .inr ⟨hCut, hArguments⟩
  | @block block hCut hNe hArguments =>
      have hNonempty : update.arguments ≠ [] := by
        intro hNil
        rw [hNil] at hArguments
        exact Doubled.split_ne_nil '-' _ hArguments
      refine .inl ⟨?_, fun operation => by simp [hCut, hNe]⟩
      rw [description_of_ne_nil hNonempty, ← hArguments, Doubled.join_split]
      exact (Doubled.append_of_cut? hCut).symm

/-- Without a block, an update is read back as soon as its operation has a name. -/
theorem ofDescription?_operation_iff {s : List Char} {update : Update} (hStarts : Starts s)
    (hCut : Doubled.cut? '_' s = some (update.operation.toList, [])) (hArguments : update.arguments = []) :
    ofDescription? update.operation.toList = some update ↔ update.operation ≠ "" := by
  rw [ofDescription?_eq_some_iff]
  constructor
  · rintro ⟨⟨c, hc, -⟩, -⟩ hEmpty
    simp [hEmpty] at hc
  · intro hNe
    obtain ⟨first, rest, hOperation⟩ := List.exists_cons_of_ne_nil (mt String.toList_eq_nil_iff.mp hNe)
    have hFirst : Starts update.operation.toList := by
      rw [Doubled.append_of_cut? hCut, hOperation] at hStarts
      rwa [hOperation]
    refine ⟨hFirst, .operation (Doubled.cut?_eq_none_iff.mpr fun hPair => ?_) rfl hArguments⟩
    exact Doubled.not_infix_of_cut? hCut ((Doubled.pair_infix_snoc_iff _ _).mpr (.inl hPair))

/-- An update that was read from a class name is read back from its own, with one exception: the class
name with an empty block behind no name gives an update whose own class name is the mark alone. Apart
from a separator that introduced an empty block, an update's class name is the one it was read from. -/
theorem ofClass?_className_of_ofClass? {className : String} {update : Update}
    (h : ofClass? className = some update) :
    (ofClass? update.className = some update ↔ className ≠ "js-with-js--__") ∧
      (update.className = className ∨
        ∃ operation : String, ¬ ['_', '_'] <:+: operation.toList ++ ['_'] ∧
          className = mark ++ operation ++ "__" ∧ update.className = mark ++ operation) := by
  obtain ⟨s, hName, hRead⟩ := ofClass?_eq_some_iff.mp h
  obtain ⟨hStarts, hDescribes⟩ := ofDescription?_eq_some_iff.mp hRead
  have hNameless : className = "js-with-js--__" ↔ s = ['_', '_'] := by
    have hMark : "js-with-js--__".toList = mark.toList ++ ['_', '_'] := by decide
    rw [← String.toList_inj, hName, hMark, List.append_cancel_left_eq]
  rw [ofClass?_className, ne_eq, hNameless]
  rcases hDescribes.description_cases with ⟨hSame, hBlock⟩ | ⟨hCut, hArguments⟩
  · refine ⟨?_, .inl ?_⟩
    · rw [hSame, hRead, eq_self, true_iff]
      rintro rfl
      exact hBlock [] rfl
    · rw [← String.toList_inj, toList_className, hSame, hName]
  · have hAppend := Doubled.append_of_cut? hCut
    rw [description_of_eq_nil hArguments]
    refine ⟨?_, .inr ⟨update.operation, Doubled.not_infix_of_cut? hCut, ?_, ?_⟩⟩
    · rw [ofDescription?_operation_iff hStarts hCut hArguments, hAppend]
      simp
    · rw [← String.toList_inj, hName, hAppend]
      simp
    · rw [← String.toList_inj, toList_className, description_of_eq_nil hArguments]
      simp

/-- The update without a name and without arguments is read, but not from its own class name. -/
theorem ofClass?_className_nameless :
    ofClass? "js-with-js--__" = some { operation := "" } ∧
      ofClass? (className { operation := "" }) = none := by
  decide

theorem ofClass?_className_remove :
    ofClass? "js-with-js--remove__" = some { operation := "remove" } ∧
      ofClass? (className { operation := "remove" }) = some { operation := "remove" } ∧
      className { operation := "remove" } = mark ++ "remove" := by
  have hRead : ofClass? "js-with-js--remove__" = some { operation := "remove" } := by decide
  obtain ⟨hBack, hName⟩ := ofClass?_className_of_ofClass? hRead
  refine ⟨hRead, hBack.mpr (by decide), ?_⟩
  rcases hName with hSame | ⟨operation, -, hClass, hOwn⟩
  · exact absurd hSame (by decide)
  · have hOperation : operation = "remove" := by
      rw [← String.toList_inj] at hClass ⊢
      exact List.append_left_injective ['_', '_'] (by simpa [mark] using hClass.symm)
    rw [hOwn, hOperation]

end ClassScript.Update
