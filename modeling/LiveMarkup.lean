import LiveMarkup.StringMap
import LiveMarkup.Text.Space
import LiveMarkup.Text.Search
import LiveMarkup.Text.Case
import LiveMarkup.Number.Binary64
import LiveMarkup.Number.Shortest
import LiveMarkup.Number.Reading
import LiveMarkup.Json.Value
import LiveMarkup.Json.Printer
import LiveMarkup.Json.Raw
import LiveMarkup.Json.Decode
import LiveMarkup.Json.Scalar
import LiveMarkup.Component.Basic
import LiveMarkup.Component.Writer
import LiveMarkup.Component.Reader
import LiveMarkup.Filter.Set
import LiveMarkup.Rules.Condition
import LiveMarkup.Rules.Index
import LiveMarkup.Script.Lexer
import LiveMarkup.Script.Minify
import LiveMarkup.Controller.Basic
import LiveMarkup.Markup.Content
import LiveMarkup.Markup.RowTemplate
import LiveMarkup.Theme
import LiveMarkup.Payload
import LiveMarkup.Script.Glue
import LiveMarkup.Page
import LiveMarkup.Text.Utf8
import LiveMarkup.Files.Tree
import LiveMarkup.Project.Compilation
import LiveMarkup.Site.Preview
import LiveMarkup.Site.Response
import LiveMarkup.CommandLine.Run
import LiveMarkup.Main
import LiveMarkup.Proofs.Lists
import LiveMarkup.Proofs.Text.AsciiCase
import LiveMarkup.Proofs.StringMap
import LiveMarkup.Proofs.Script.Absorption
import LiveMarkup.Proofs.Script.Rereading
import LiveMarkup.Proofs.Script.Bytes
import LiveMarkup.Proofs.Script.Nested
import LiveMarkup.Proofs.Script.Lexer
import LiveMarkup.Proofs.Script.Minified
import LiveMarkup.Proofs.Controller.Acts
import LiveMarkup.Proofs.Controller.Run
import LiveMarkup.Proofs.Controller.Lifecycle
import LiveMarkup.Proofs.Controller.StatePath
import LiveMarkup.Proofs.Component.Acceptance
import LiveMarkup.Proofs.Controller.Shown
import LiveMarkup.Proofs.Controller.Fallback
import LiveMarkup.Proofs.Controller.Answers
import LiveMarkup.Proofs.Controller.Pages
import LiveMarkup.Proofs.Json.Numbers
import LiveMarkup.Proofs.Json.Reader
import LiveMarkup.Proofs.Json.RoundTrip
import LiveMarkup.Proofs.Json.Readable
import LiveMarkup.Proofs.Payload.Escape
import LiveMarkup.Proofs.Payload.Parsed
import LiveMarkup.Proofs.Payload.Written
import LiveMarkup.Proofs.Payload.Extraction
import LiveMarkup.Proofs.Script.Lossless
import LiveMarkup.Proofs.Script.Fitting
import LiveMarkup.Proofs.Script.Printed
import LiveMarkup.Proofs.Script.Glue
import LiveMarkup.Proofs.Json.Nesting
import LiveMarkup.Proofs.Json.Decoding
import LiveMarkup.Proofs.Component.Rewritten
import LiveMarkup.Proofs.Markup.Reader
import LiveMarkup.Proofs.Markup.Decoded
import LiveMarkup.Proofs.Markup.Content
import LiveMarkup.Proofs.Markup.Structure
import LiveMarkup.Proofs.Controller.Hooks
import LiveMarkup.Proofs.Rules.Grouping
import LiveMarkup.Proofs.Controller.Complement
import LiveMarkup.Proofs.Controller.Rendered
import LiveMarkup.Proofs.Controller.ServerRows
import LiveMarkup.Proofs.Files.Tree
import LiveMarkup.Proofs.Site.PageCache
import LiveMarkup.Proofs.Site.Visits
import LiveMarkup.Proofs.Site.Agreement
import LiveMarkup.Proofs.Markup.Ids
import LiveMarkup.Proofs.Page.Ids
import LiveMarkup.Proofs.Json.Spelling
import LiveMarkup.Proofs.Rules.Spelling
import LiveMarkup.Proofs.Filter.Spelling
import LiveMarkup.Proofs.Controller.Externals
import LiveMarkup.Proofs.Controller.History
import LiveMarkup.Proofs.Controller.Starts
import LiveMarkup.Proofs.Payload.Records
import LiveMarkup.Proofs.Controller.Scaffold
import LiveMarkup.Proofs.Markup.Parts
import LiveMarkup.Proofs.Number.WholeParts
import LiveMarkup.Proofs.Component.Inference
import LiveMarkup.Proofs.Filter.History
import LiveMarkup.Proofs.Rules.Cells
import LiveMarkup.Proofs.Controller.Inputs
import LiveMarkup.Proofs.Site.Recency
import LiveMarkup.Proofs.Text.FinalSigma
import LiveMarkup.Proofs.Filter.Occurrence
import LiveMarkup.Proofs.Script.Breakout
import LiveMarkup.Proofs.Script.Substitutions
import LiveMarkup.Proofs.Script.Literals
import LiveMarkup.Proofs.Script.Headers
import LiveMarkup.Proofs.Number.Numerals
import LiveMarkup.Proofs.Script.Pieces
import LiveMarkup.Proofs.Script.Layout
import LiveMarkup.Proofs.Markup.Attributes
import LiveMarkup.Proofs.Text.Split
import LiveMarkup.Proofs.Text.Search
import LiveMarkup.Proofs.Markup.RowChoices
import LiveMarkup.Proofs.Theme.Stylesheet
import LiveMarkup.Proofs.Files.Path
import LiveMarkup.Proofs.Site.Confined
import LiveMarkup.Proofs.Markup.RowTemplate
import LiveMarkup.Proofs.Controller.Recursion
import LiveMarkup.Proofs.Controller.EmptyResult
import LiveMarkup.Proofs.Script.Unterminated
import LiveMarkup.Proofs.Component.Given
import LiveMarkup.Proofs.Component.Columns
import LiveMarkup.Proofs.Theme.Layers
import LiveMarkup.Proofs.Project.Layers
