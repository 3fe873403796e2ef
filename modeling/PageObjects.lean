import PageObjects.Arguments
import PageObjects.Assoc
import PageObjects.Catalog.Build
import PageObjects.Catalog.Entry
import PageObjects.Collection.Items
import PageObjects.Collection.Members
import PageObjects.Control.Fit
import PageObjects.Decimal.Binary
import PageObjects.Decimal.Fixed
import PageObjects.Decimal.Integer
import PageObjects.Decimal.Layout
import PageObjects.Decimal.Nearest
import PageObjects.Decimal.Read
import PageObjects.Decimal.Shortest
import PageObjects.Definition.Basic
import PageObjects.Definition.Declaration
import PageObjects.Dispatch.Attribute
import PageObjects.Dispatch.Directory
import PageObjects.Dispatch.Native
import PageObjects.Dispatch.Resolution
import PageObjects.Fault
import PageObjects.Json.Document
import PageObjects.Log.Context
import PageObjects.Log.Journal
import PageObjects.Log.Policy
import PageObjects.Page.Construction
import PageObjects.Page.Current
import PageObjects.Page.Members
import PageObjects.PageType.Declaring
import PageObjects.PageType.Linearization
import PageObjects.PageType.Names
import PageObjects.Path
import PageObjects.Pattern.Basic
import PageObjects.Pattern.Matching
import PageObjects.Pattern.Node
import PageObjects.Pattern.Reader
import PageObjects.Pattern.Step
import PageObjects.Program.Asking
import PageObjects.Program.Basic
import PageObjects.Program.Op
import PageObjects.Program.Run
import PageObjects.Program.Text
import PageObjects.Record.Options
import PageObjects.Scene.Basic
import PageObjects.Scene.Display
import PageObjects.Scene.Driver
import PageObjects.Scene.Element
import PageObjects.Script.Answer
import PageObjects.Script.Eval
import PageObjects.Script.Expr
import PageObjects.Script.Logging
import PageObjects.Script.Request
import PageObjects.Script.Run
import PageObjects.Settings
import PageObjects.Startup
import PageObjects.Text.Blank
import PageObjects.Text.CanonicalName
import PageObjects.Text.CharName
import PageObjects.Text.CharName.EastAsian
import PageObjects.Text.CharName.Further
import PageObjects.Text.CharName.Historic
import PageObjects.Text.CharName.Letters
import PageObjects.Text.CharName.Pictures
import PageObjects.Text.CharName.Symbols
import PageObjects.Text.Digit
import PageObjects.Text.Half
import PageObjects.Text.Identifier
import PageObjects.Text.Lines
import PageObjects.Text.Lowercase
import PageObjects.Text.Printable
import PageObjects.Text.Quoted
import PageObjects.Text.Ranges
import PageObjects.Text.Template
import PageObjects.Text.Uppercase
import PageObjects.Text.Word
import PageObjects.Text.XPathLiteral
import PageObjects.Value.Basic
import PageObjects.Value.Cells
import PageObjects.Value.Display
import PageObjects.Value.Key
import PageObjects.Value.Moment
import PageObjects.Yaml.Document
import PageObjects.Yaml.Lexer
import PageObjects.Yaml.Node
import PageObjects.Yaml.Scalar
import PageObjects.Yaml.Schema
import PageObjects.Yaml.Token
import PageObjects.Proofs.Catalog.Building
import PageObjects.Proofs.Catalog.Courses
import PageObjects.Proofs.Catalog.Data
import PageObjects.Proofs.Catalog.Escapes
import PageObjects.Proofs.Catalog.Frames
import PageObjects.Proofs.Catalog.Handwritten
import PageObjects.Proofs.Catalog.Keeping
import PageObjects.Proofs.Catalog.Listing
import PageObjects.Proofs.Catalog.Malformed
import PageObjects.Proofs.Catalog.Overriding
import PageObjects.Proofs.Catalog.Pages
import PageObjects.Proofs.Catalog.Parsed
import PageObjects.Proofs.Catalog.Reads
import PageObjects.Proofs.Catalog.Registry
import PageObjects.Proofs.Control.Beside
import PageObjects.Proofs.Control.Choosing
import PageObjects.Proofs.Control.Failing
import PageObjects.Proofs.Control.Forms
import PageObjects.Proofs.Control.Handling
import PageObjects.Proofs.Control.Locality
import PageObjects.Proofs.Control.Nesting
import PageObjects.Proofs.Control.Repeating
import PageObjects.Proofs.Control.Suiting
import PageObjects.Proofs.Control.Through
import PageObjects.Proofs.Control.Typing
import PageObjects.Proofs.Control.Using
import PageObjects.Proofs.Definition.History
import PageObjects.Proofs.Definition.Pairs
import PageObjects.Proofs.Definition.Reachable
import PageObjects.Proofs.Definition.Table
import PageObjects.Proofs.Dispatch.Order
import PageObjects.Proofs.Dispatch.Reach
import PageObjects.Proofs.Log.Constructions
import PageObjects.Proofs.Log.Formatting
import PageObjects.Proofs.Log.Indifference
import PageObjects.Proofs.Log.Phases
import PageObjects.Proofs.Log.Transparency
import PageObjects.Proofs.Page.CurrentPage
import PageObjects.Proofs.Page.Searching
import PageObjects.Proofs.Page.Stages
import PageObjects.Proofs.Page.Waiting
import PageObjects.Proofs.PageType.Alike
import PageObjects.Proofs.PageType.Descent
import PageObjects.Proofs.PageType.Expecting
import PageObjects.Proofs.PageType.Extending
import PageObjects.Proofs.PageType.Faults
import PageObjects.Proofs.PageType.Finished
import PageObjects.Proofs.PageType.Hierarchy
import PageObjects.Proofs.PageType.Labels
import PageObjects.Proofs.PageType.Late
import PageObjects.Proofs.PageType.Making
import PageObjects.Proofs.PageType.Opening
import PageObjects.Proofs.PageType.Permanence
import PageObjects.Proofs.PageType.Stating
import PageObjects.Proofs.PageType.Undone
import PageObjects.Proofs.PageType.Writing
import PageObjects.Proofs.Program.Acts
import PageObjects.Proofs.Program.Answers
import PageObjects.Proofs.Program.Calls
import PageObjects.Proofs.Program.Chronicle
import PageObjects.Proofs.Program.Deeds
import PageObjects.Proofs.Program.Endings
import PageObjects.Proofs.Program.Frames
import PageObjects.Proofs.Program.Lines
import PageObjects.Proofs.Program.Parallel
import PageObjects.Proofs.Program.Quiet
import PageObjects.Proofs.Program.Traces
import PageObjects.Proofs.Record.Composing
import PageObjects.Proofs.Record.Mirror
import PageObjects.Proofs.Record.Options
import PageObjects.Proofs.Scene.Fields
import PageObjects.Proofs.Scene.Moves
import PageObjects.Proofs.Scene.Parts
import PageObjects.Proofs.Text.CanonicalName
import PageObjects.Proofs.Text.Lowercase
import PageObjects.Proofs.Text.Template
import PageObjects.Proofs.Text.XPathLiteral
import PageObjects.Proofs.Yaml.Growth
