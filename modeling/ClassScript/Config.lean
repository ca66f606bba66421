import ClassScript.Json.Token
import ClassScript.Run

/-!
Which elements are looked at and which operations they may ask for, kept as JSON.
-/

namespace ClassScript

/-- A selector, and the names of the builtin operations that are allowed; without a list all are. -/
structure Config where
  selector : String := Target.defaultSelector
  operations : Option (List String) := none
deriving Repr, DecidableEq

inductive ConfigError where
  | invalid
deriving Repr, DecidableEq

def ConfigError.message : ConfigError → String
  | invalid => "invalid with-js configuration"

namespace Config

open Json

def stringsTokens (strings : List String) : List Token :=
  [Token.comma].intercalate (strings.map fun s => [Token.string s]) ++ [.closeBracket]

def operationsTokens : Option (List String) → List Token
  | none => [.null]
  | some names => .openBracket :: stringsTokens names

def tokens (config : Config) : List Token :=
  .openBrace :: .string "selector" :: .colon :: .string config.selector :: .comma ::
    .string "operations" :: .colon :: (operationsTokens config.operations ++ [.closeBrace])

def toJson (config : Config) : String := Json.write config.tokens

/-- More strings of a list, up to the closing bracket, and what follows it. -/
def moreStrings? : List Token → Option (List String × List Token)
  | .closeBracket :: rest => some ([], rest)
  | .comma :: .string s :: rest => (moreStrings? rest).map fun (strings, rest) => (s :: strings, rest)
  | _ => none

def strings? : List Token → Option (List String × List Token)
  | .closeBracket :: rest => some ([], rest)
  | .string s :: rest => (moreStrings? rest).map fun (strings, rest) => (s :: strings, rest)
  | _ => none

def operations? : List Token → Option (Option (List String) × List Token)
  | .null :: rest => some (none, rest)
  | .openBracket :: rest => (strings? rest).map fun (names, rest) => (some names, rest)
  | _ => none

structure Members where
  selector? : Option String := none
  operations? : Option (Option (List String)) := none

/-- Members that are missing have their defaults. -/
def Members.config (members : Members) : Config where
  selector := members.selector?.getD Target.defaultSelector
  operations := members.operations?.getD none

/-- One member. None stands twice, and there are no others. -/
def member? (members : Members) : List Token → Option (Members × List Token)
  | .string "selector" :: .colon :: .string selector :: rest =>
    if members.selector?.isSome then none else some ({ members with selector? := some selector }, rest)
  | .string "operations" :: .colon :: rest =>
    if members.operations?.isSome then none
    else (operations? rest).map fun (operations, rest) =>
      ({ members with operations? := some operations }, rest)
  | _ => none

/-- An object, from behind the opening brace. It has no more than two members. -/
def object? : List Token → Option (Config × List Token)
  | .closeBrace :: rest => some ({}, rest)
  | tokens => do
    let (members, rest) ← member? {} tokens
    match rest with
    | .closeBrace :: rest => return (members.config, rest)
    | .comma :: rest =>
      let (members, rest) ← member? members rest
      match rest with
      | .closeBrace :: rest => return (members.config, rest)
      | _ => none
    | _ => none

def array? : List Token → Option (Config × List Token)
  | .closeBracket :: rest => some ({}, rest)
  | .string selector :: .closeBracket :: rest => some ({ selector }, rest)
  | .string selector :: .comma :: rest => do
    let (operations, rest) ← operations? rest
    match rest with
    | .closeBracket :: rest => return ({ selector, operations }, rest)
    | _ => none
  | _ => none

def ofTokens? : List Token → Option Config
  | .openBrace :: rest => whole? (object? rest)
  | .openBracket :: rest => whole? (array? rest)
  | _ => none
where
  /-- What was read, if nothing follows it. -/
  whole? : Option (Config × List Token) → Option Config
    | some (config, []) => some config
    | _ => none

/-- Reads a configuration, an object of members or an array of their values. -/
def ofJson (text : String) : Except ConfigError Config :=
  match (tokens? text.toList).bind ofTokens? with
  | some config => .ok config
  | none => .error .invalid

def table {σ : Type} (config : Config) : OperationTable σ :=
  match config.operations with
  | none => .builtin
  | some names => OperationTable.builtin.restrictedTo names

/-- A list of allowed operations may hold names that mean nothing. -/
def warnings (config : Config) : List Event :=
  ((config.operations.getD []).filter fun name => (Builtin.ofName? name).isNone).map .notBuiltin

def target (config : Config) : Target := .selector config.selector none

end Config

/-- Carries out the updates in a whole document as a configuration says. -/
def applyWithConfig {σ : Type} (config : Config) : Action σ RunError Unit := do
  config.warnings.forM Action.note
  apply config.table config.target

end ClassScript
