import ClassScript.Arena
import ClassScript.ClassList
import ClassScript.Config
import ClassScript.Document.Attributes
import ClassScript.Document.Basic
import ClassScript.Document.Error
import ClassScript.Document.Markup
import ClassScript.Document.OfMarkup
import ClassScript.Document.Outline
import ClassScript.Document.Query
import ClassScript.Document.Snapshot
import ClassScript.Event
import ClassScript.Forest
import ClassScript.Html.Builder
import ClassScript.Html.Carry
import ClassScript.Html.Doctype
import ClassScript.Html.Entity
import ClassScript.Html.Item
import ClassScript.Html.Lexeme
import ClassScript.Html.Name
import ClassScript.Html.Parse
import ClassScript.Html.Reference
import ClassScript.Html.Rules.Body
import ClassScript.Html.Rules.Foreign
import ClassScript.Html.Rules.Head
import ClassScript.Html.Rules.Special
import ClassScript.Html.Rules.Table
import ClassScript.Html.TagText
import ClassScript.Html.Token
import ClassScript.Json.Token
import ClassScript.Json.Value
import ClassScript.Operation.Basic
import ClassScript.Operation.Builtin
import ClassScript.Operation.Table
import ClassScript.Proofs.Arena.Ancestors
import ClassScript.Proofs.Arena.Descendants
import ClassScript.Proofs.Arena.DocumentOrder
import ClassScript.Proofs.Arena.Enclosed
import ClassScript.Proofs.Arena.Links
import ClassScript.Proofs.Arena.OrderedForest
import ClassScript.Proofs.Arena.Planted
import ClassScript.Proofs.Arena.WellFormed
import ClassScript.Proofs.Config.Spelling
import ClassScript.Proofs.Document.Attributes
import ClassScript.Proofs.Document.Change
import ClassScript.Proofs.Document.ClassCalls
import ClassScript.Proofs.Document.ClassViews
import ClassScript.Proofs.Document.Classes
import ClassScript.Proofs.Document.Markup
import ClassScript.Proofs.Document.Observed
import ClassScript.Proofs.Document.OfMarkup
import ClassScript.Proofs.Document.Query
import ClassScript.Proofs.Document.Reachable
import ClassScript.Proofs.Document.Seen
import ClassScript.Proofs.Document.Snapshot
import ClassScript.Proofs.Document.TagName
import ClassScript.Proofs.Json.Same
import ClassScript.Proofs.Json.Tokens
import ClassScript.Proofs.Operation.Builtin
import ClassScript.Proofs.Operation.Classes
import ClassScript.Proofs.Operation.Mutation
import ClassScript.Proofs.Operation.Table
import ClassScript.Proofs.Run.Again
import ClassScript.Proofs.Run.Apply
import ClassScript.Proofs.Run.Calls
import ClassScript.Proofs.Run.CarryOut
import ClassScript.Proofs.Run.Default
import ClassScript.Proofs.Run.Isolated
import ClassScript.Proofs.Run.Leads
import ClassScript.Proofs.Run.Marked
import ClassScript.Proofs.Run.Overwriting
import ClassScript.Proofs.Run.Restricted
import ClassScript.Proofs.Run.Task
import ClassScript.Proofs.Selector.Brackets
import ClassScript.Proofs.Selector.Chain
import ClassScript.Proofs.Selector.Commas
import ClassScript.Proofs.Selector.Cursor
import ClassScript.Proofs.Selector.Division
import ClassScript.Proofs.Selector.Grammar
import ClassScript.Proofs.Selector.Group
import ClassScript.Proofs.Selector.Places
import ClassScript.Proofs.Selector.Reading
import ClassScript.Proofs.Selector.Tokens
import ClassScript.Proofs.Selector.Trimmed
import ClassScript.Proofs.Session.Ending
import ClassScript.Proofs.Session.Leads
import ClassScript.Proofs.Text.Ascii
import ClassScript.Proofs.Text.Blank
import ClassScript.Proofs.Text.Delimited
import ClassScript.Proofs.Text.Doubled
import ClassScript.Proofs.Text.Utf8
import ClassScript.Proofs.Text.Words
import ClassScript.Proofs.Update.Arguments
import ClassScript.Proofs.Update.ClassName
import ClassScript.Proofs.Update.Sources
import ClassScript.Run
import ClassScript.Selector.Basic
import ClassScript.Selector.Cursor
import ClassScript.Selector.Group
import ClassScript.Selector.Match
import ClassScript.Selector.Read
import ClassScript.Selector.Token
import ClassScript.Session
import ClassScript.Text.Ascii
import ClassScript.Text.Blank
import ClassScript.Text.CharSet
import ClassScript.Text.Doubled
import ClassScript.Text.LowerCase
import ClassScript.Text.Printable
import ClassScript.Text.Quoted
import ClassScript.Text.Utf8
import ClassScript.Update
