import ClassScript.Text.Quoted
import ClassScript.Update

/-!
What is worth a line in a log.
-/

namespace ClassScript

/-- Something that happened, with what a reader of the log has to know about it. -/
inductive Event where
  | detached (node parent : NodeId)
  | found (selector : String) (root : NodeId) (count : Nat)
  /-- An attribute of the markup was left out. -/
  | attributeDropped (error : DomError)
  /-- A name on a list of allowed operations means nothing. -/
  | notBuiltin (name : String)
  | skipped (operation : String) (node : NodeId)
  | performing (update : Update) (node : NodeId)
  | processing (count : Nat) (selector : String)
deriving Repr, DecidableEq

namespace Event

/-- The line of an event: how much it matters, the part it belongs to, and a text. -/
def line : Event → String
  | detached node parent => "TRACE html_dom: detached " ++ node.render ++ " from " ++ parent.render
  | found selector root count =>
    "DEBUG html_dom: query_selector_all(" ++ Quoted.quote selector ++ ") under " ++ root.render ++
      ": " ++ toString count ++ " match(es)"
  | attributeDropped error => "DEBUG html_parser: dropping attribute: " ++ error.message
  | notBuiltin name =>
    "WARN with_js: allowlisted operation " ++ Quoted.quote name ++ " is not a builtin"
  | skipped operation node =>
    "DEBUG with_js: skipping unknown operation " ++ Quoted.quote operation ++ " on " ++ node.render
  | performing update node => "TRACE with_js: " ++ node.render ++ ": " ++ update.className
  | processing count selector =>
    "DEBUG with_js: processing " ++ toString count ++ " element(s) matching " ++
      Quoted.quote selector

end Event

end ClassScript
