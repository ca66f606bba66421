import ClassScript.Document.Basic
import ClassScript.Text.Doubled

/-!
Class names that name an operation. After a mark comes the name of the operation, then, behind a
doubled underscore, the arguments with doubled dashes between them.
-/

namespace ClassScript

/-- An operation with its arguments, both as texts. -/
structure Update where
  operation : String
  arguments : List String := []
deriving Repr, DecidableEq

namespace Update

/-- What every class name of an operation begins with. -/
def mark : String := "js-with-js--"

/-- The characters that end a line; the name of an operation does not begin with one. -/
def isLineEnd (c : Char) : Bool := c = '\n' || c = '\r' || c = '\u2028' || c = '\u2029'

/-- Reads what follows the mark. A block of arguments that is empty holds none. -/
def ofDescription? : List Char → Option Update
  | [] => none
  | first :: rest =>
    if isLineEnd first then none
    else match Doubled.cut? '_' (first :: rest) with
      | none => some { operation := String.ofList (first :: rest) }
      | some (operation, []) => some { operation := String.ofList operation }
      | some (operation, block) =>
        some {
          operation := String.ofList operation
          arguments := (Doubled.split '-' block).map String.ofList }

/-- Reads a class name. Most class names name no operation. -/
def ofClass? (className : String) : Option Update :=
  (mark.toList.isPrefixOf? className.toList).bind ofDescription?

/-- The block of arguments with its separator; without arguments there is none. -/
def block : List String → List Char
  | [] => []
  | arguments => '_' :: '_' :: Doubled.join '-' (arguments.map String.toList)

def className (update : Update) : String :=
  String.ofList (mark.toList ++ update.operation.toList ++ block update.arguments)

def ofClasses (classNames : List String) : List Update := classNames.filterMap ofClass?

/-- The updates in a text of class names. Every space separates two of them, and nothing else
does. -/
def ofText (text : String) : List Update :=
  ofClasses ((text.toList.splitOnP (· = ' ')).map String.ofList)

/-- The updates among the classes of a node. -/
def ofElement (d : Document) (id : NodeId) : List Update := ofClasses (d.classList id).tokens

end Update

end ClassScript
