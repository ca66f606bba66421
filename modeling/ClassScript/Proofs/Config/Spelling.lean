import ClassScript.Config
import ClassScript.Proofs.Json.Tokens

/-!
Configurations survive being written as JSON. Any strings may be the selector and the names, and a list of
names that is empty is told from one that is absent. What is written is read back, and so is every other
text that says the same: with the members in the other order, without operations that are absent, as a
list of the values, and with blanks around the tokens.
-/

namespace ClassScript.Config

open Json

/-- The names of a list behind the first one, and the closing bracket. -/
def moreTokens : List String → List Token
  | [] => [.closeBracket]
  | name :: names => .comma :: .string name :: moreTokens names

theorem stringsTokens_cons (name : String) (names : List String) :
    stringsTokens (name :: names) = .string name :: moreTokens names := by
  induction names generalizing name with
  | nil => rfl
  | cons next names ih =>
      have hNext := ih next
      simp only [stringsTokens, moreTokens, List.map_cons] at hNext ⊢
      rw [List.intercalate_cons_cons, List.append_assoc, List.append_assoc, hNext]
      rfl

/-- The rest of a list is read back, whatever follows its bracket. -/
theorem moreStrings?_moreTokens (names : List String) (rest : List Token) :
    moreStrings? (moreTokens names ++ rest) = some (names, rest) := by
  induction names with
  | nil => rfl
  | cons name names ih =>
      rw [moreTokens, List.cons_append, List.cons_append, moreStrings?, ih]
      rfl

/-- A list is read back, also an empty one. -/
theorem strings?_stringsTokens (names : List String) (rest : List Token) :
    strings? (stringsTokens names ++ rest) = some (names, rest) := by
  cases names with
  | nil => rfl
  | cons name names =>
      rw [stringsTokens_cons, List.cons_append, strings?, moreStrings?_moreTokens]
      rfl

/-- Allowed operations are told from their absence. -/
theorem operations?_operationsTokens (operations : Option (List String)) (rest : List Token) :
    operations? (operationsTokens operations ++ rest) = some (operations, rest) := by
  cases operations with
  | none => rfl
  | some names =>
      rw [operationsTokens, List.cons_append, operations?, strings?_stringsTokens]
      rfl

/-- An object with one member is closed behind it. -/
theorem object?_of_member? {members : Members} {tokens rest : List Token}
    (h : member? {} tokens = some (members, .closeBrace :: rest)) :
    object? tokens = some (members.config, rest) := by
  rw [object?]
  · rw [h]
    rfl
  · rintro others rfl
    cases h

/-- An object goes on with a second member behind a comma, and is closed there. -/
theorem object?_of_members? {members all : Members} {tokens others rest : List Token}
    (hFirst : member? {} tokens = some (members, .comma :: others))
    (hSecond : member? members others = some (all, .closeBrace :: rest)) :
    object? tokens = some (all.config, rest) := by
  rw [object?]
  · simp [hFirst, hSecond]
  · rintro others rfl
    cases hFirst

def selectorMember (config : Config) : List Token :=
  [.string "selector", .colon, .string config.selector]

def operationsMember (config : Config) : List Token :=
  .string "operations" :: .colon :: operationsTokens config.operations

/-- The selector may be given once, before or after the operations. -/
theorem member?_selectorMember {members : Members} (h : members.selector? = none) (config : Config)
    (rest : List Token) :
    member? members (config.selectorMember ++ rest) =
      some ({ members with selector? := some config.selector }, rest) := by
  simp [selectorMember, member?, h]

/-- The operations may be given once, before or after the selector. -/
theorem member?_operationsMember {members : Members} (h : members.operations? = none)
    (config : Config) (rest : List Token) :
    member? members (config.operationsMember ++ rest) =
      some ({ members with operations? := some config.operations }, rest) := by
  simp [operationsMember, member?, h, operations?_operationsTokens]

/-- The tokens that say what a configuration is. -/
inductive Spelling (config : Config) : List Token → Prop where
  | inOrder : Spelling config
      (.openBrace :: (config.selectorMember ++ .comma :: (config.operationsMember ++ [.closeBrace])))
  | swapped : Spelling config
      (.openBrace :: (config.operationsMember ++ .comma :: (config.selectorMember ++ [.closeBrace])))
  | withoutOperations (hNone : config.operations = none) : Spelling config
      (.openBrace :: (config.selectorMember ++ [.closeBrace]))
  | values : Spelling config
      (.openBracket :: .string config.selector :: .comma ::
        (operationsTokens config.operations ++ [.closeBracket]))

/-- What is written has its members in order. -/
theorem spelling_tokens (config : Config) : config.Spelling config.tokens := .inOrder

/-- All of these are read, and as the same configuration. -/
theorem ofTokens?_of_spelling {config : Config} {tokens : List Token} (h : config.Spelling tokens) :
    ofTokens? tokens = some config := by
  cases h with
  | inOrder =>
      have hObject := object?_of_members? (member?_selectorMember rfl config _)
        (member?_operationsMember rfl config [.closeBrace])
      rw [ofTokens?, hObject]
      rfl
  | swapped =>
      have hObject := object?_of_members? (member?_operationsMember rfl config _)
        (member?_selectorMember rfl config [.closeBrace])
      rw [ofTokens?, hObject]
      rfl
  | withoutOperations hNone =>
      have hObject := object?_of_member? (member?_selectorMember rfl config [.closeBrace])
      have hConfig : config = { selector := config.selector } := by rw [← hNone]
      rw [ofTokens?, hObject, hConfig]
      rfl
  | values => simp [ofTokens?, array?, operations?_operationsTokens, ofTokens?.whole?]

/-- Blanks between the tokens are passed over. -/
theorem ofJson_of_spells {config : Config} {tokens : List Token} {text : String}
    (hTokens : config.Spelling tokens) (hText : Spells tokens text.toList) :
    ofJson text = .ok config := by
  rw [ofJson, tokens?_of_spells hText, Option.bind_some, ofTokens?_of_spelling hTokens]

/-- Everything that says what a configuration is is read as this configuration. -/
structure ReadsBack (config : Config) : Prop where
  ofJson_toJson : ofJson config.toJson = .ok config
  ofJson_write : ∀ tokens, config.Spelling tokens → ofJson (Json.write tokens) = .ok config
  ofJson_of_spells : ∀ tokens text, config.Spelling tokens → Spells tokens text.toList →
    ofJson text = .ok config

/-- No string is lost or changed, whatever its characters. -/
theorem readsBack (config : Config) : config.ReadsBack where
  ofJson_toJson := ofJson_of_spells config.spelling_tokens (spells_write _)
  ofJson_write tokens hTokens := ofJson_of_spells hTokens (spells_write tokens)
  ofJson_of_spells _ _ hTokens hText := ofJson_of_spells hTokens hText

/-- Escapes, blanks, a character beyond 16 bits and a name that stands twice. -/
example :
    (ofJson "\x7b \"operations\":[\"\\u0001\\\\\", \"😀\",\"😀\"],\n\"selector\":\"\\\"\" \x7d").toOption =
      some { selector := "\"", operations := some ["\x01\\", "😀", "😀"] } := by
  decide +kernel

end ClassScript.Config
