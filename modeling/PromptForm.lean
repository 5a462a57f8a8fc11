import PromptForm.Asset
import PromptForm.Chat
import PromptForm.Event
import PromptForm.Export.Moment
import PromptForm.Export.Record
import PromptForm.Fault
import PromptForm.Form.Render
import PromptForm.Form.Widget
import PromptForm.Json.Read
import PromptForm.Json.Write
import PromptForm.Locale
import PromptForm.Number.Binary64
import PromptForm.Number.Loose
import PromptForm.Number.Numeral
import PromptForm.Number.Shortest
import PromptForm.Proofs.Template.Passes
import PromptForm.Proofs.Template.Token
import PromptForm.Proofs.Text.Cut
import PromptForm.Schema.Basic
import PromptForm.Schema.Check
import PromptForm.Schema.Document
import PromptForm.Session
import PromptForm.Submission.Collect
import PromptForm.Submission.Pairs
import PromptForm.Table
import PromptForm.Template.Block
import PromptForm.Template.Cleanup
import PromptForm.Template.Compile
import PromptForm.Template.Substitute
import PromptForm.Text.Blank
import PromptForm.Text.Cut
import PromptForm.Text.Digit
import PromptForm.Text.Printable
import PromptForm.Text.Quoted
import PromptForm.Texts
import PromptForm.Traced
import PromptForm.Value
import PromptForm.Xml.CodePage
import PromptForm.Xml.Content
import PromptForm.Xml.Document
import PromptForm.Xml.Dtd
import PromptForm.Xml.Element
import PromptForm.Xml.Encoding
import PromptForm.Xml.Fault
import PromptForm.Xml.Lexeme
import PromptForm.Xml.Name
import PromptForm.Xml.Namespace
import PromptForm.Xml.Path
import PromptForm.Xml.Prolog
import PromptForm.Xml.Scan
import PromptForm.Xml.Symbol
import PromptForm.Xml.Tag
import PromptForm.Yaml.Compose
import PromptForm.Yaml.Construct
import PromptForm.Yaml.Cursor
import PromptForm.Yaml.Datum
import PromptForm.Yaml.Graph
import PromptForm.Yaml.Plain
import PromptForm.Yaml.Point
import PromptForm.Yaml.Scalar
import PromptForm.Yaml.Scan
import PromptForm.Yaml.Slots
import PromptForm.Yaml.Stop
import PromptForm.Yaml.Tag
import PromptForm.Yaml.Token
import PromptForm.Proofs.Template.Doc
import PromptForm.Proofs.Table
import PromptForm.Proofs.Template.Meaning
import PromptForm.Proofs.Template.Cleanup
import PromptForm.Proofs.Submission.Collect
import PromptForm.Proofs.Submission.Answers
import PromptForm.Proofs.Form.Fields
import PromptForm.Proofs.Form.Untouched
import PromptForm.Proofs.Schema.Canonical
import PromptForm.Proofs.Submission.Reflection
import PromptForm.Proofs.Template.Entered
import PromptForm.Proofs.Asset.Load
import PromptForm.Proofs.Asset.Lookup
import PromptForm.Proofs.Schema.Check
import PromptForm.Proofs.Export.Record
import PromptForm.Proofs.Template.Erasure
import PromptForm.Proofs.Template.Lines
import PromptForm.Proofs.Submission.Resubmission
import PromptForm.Proofs.Submission.Merging
import PromptForm.Proofs.Export.Calendar
import PromptForm.Proofs.Export.Stamp
import PromptForm.Proofs.Form.Faults
import PromptForm.Proofs.Schema.Defaults
import PromptForm.Proofs.Number.Rounding
import PromptForm.Proofs.Export.FileName
import PromptForm.Proofs.Json.RoundTrip
import PromptForm.Proofs.Export.Reading
import PromptForm.Proofs.Schema.Composition
import PromptForm.Proofs.Form.Assembly
import PromptForm.Proofs.Text.Pattern
import PromptForm.Proofs.Template.Blocks
import PromptForm.Proofs.Xml.Order
import PromptForm.Proofs.Schema.Declared
import PromptForm.Proofs.Number.Integer
import PromptForm.Proofs.Form.Captions
import PromptForm.Proofs.Form.Identifiers
