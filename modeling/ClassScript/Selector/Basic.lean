import ClassScript.Text.Ascii

/-!
Selectors: conditions on an element and on where it stands in its document.
-/

namespace ClassScript

namespace Selector

inductive Comparison where
  /-- Both are the same text. -/
  | equals
  /-- The selector's value is one of the words of the attribute's value. -/
  | hasWord
  /-- The attribute's value is the selector's value, or goes on with a dash after it. -/
  | dashed
  | startsWith
  | endsWith
  | contains
deriving Repr, DecidableEq

inductive Simple where
  | universal
  | tag (name : String)
  | cls (name : String)
  | id (name : String)
  | attribute (name : String)
  | attributeValue (name : String) (comparison : Comparison) (value : String)
deriving Repr, DecidableEq

/-- Conditions that hold of one element together. -/
abbrev Compound := List Simple

/-- How an element stands to the one on the left in a selector. -/
inductive Combinator where
  | descendant
  | child
  | adjacentSibling
  | generalSibling
deriving Repr, DecidableEq

end Selector

/-- Compounds from left to right, each but the first with how its element stands to the one before. -/
structure Selector where
  first : Selector.Compound := []
  rest : List (Selector.Combinator × Selector.Compound) := []
deriving Repr, DecidableEq

namespace Selector

/-- A selector that asks for nothing, as it is read from a blank text. -/
def isEmpty (selector : Selector) : Bool := selector.first.isEmpty && selector.rest.isEmpty

def occursIn (part : List Char) : List Char → Bool
  | [] => part.isEmpty
  | c :: rest => part.isPrefixOf (c :: rest) || occursIn part rest

namespace Comparison

def sign : Comparison → String
  | equals => "="
  | hasWord => "~="
  | dashed => "|="
  | startsWith => "^="
  | endsWith => "$="
  | contains => "*="

/-- Whether the value of an attribute meets the value in a selector. An empty value has no words,
and no text counts as beginning or ending with it or as containing it. -/
def holds (comparison : Comparison) (actual value : String) : Bool :=
  let a := actual.toList
  let v := value.toList
  match comparison with
  | equals => actual = value
  | hasWord => !v.isEmpty && !v.any Ascii.isBlank && (a.splitOnP Ascii.isBlank).contains v
  | dashed => actual = value || (v ++ ['-']).isPrefixOf a
  | startsWith => !v.isEmpty && v.isPrefixOf a
  | endsWith => !v.isEmpty && v.isSuffixOf a
  | contains => !v.isEmpty && occursIn v a

end Comparison

end Selector

end ClassScript
