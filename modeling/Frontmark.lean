import Frontmark.Header
import Frontmark.Html.Tag
import Frontmark.Markup.Render
import Frontmark.Markup.View
import Frontmark.Options
import Frontmark.Text.CaseFold
import Frontmark.Text.Cased
import Frontmark.Text.ControlSequence
import Frontmark.Text.Entity
import Frontmark.Text.Punctuation
import Frontmark.Link.Reference
import Frontmark.Block.Reader
import Frontmark.Inline.Autolink
import Frontmark.Inline.Code
import Frontmark.Inline.Emphasis
import Frontmark.Inline.Reader
import Frontmark.Body.Reader
import Frontmark.Document
import Frontmark.Yaml.Cursor
import Frontmark.Yaml.Error
import Frontmark.Yaml.Gap
import Frontmark.Yaml.Plain
import Frontmark.Yaml.Quoted
import Frontmark.Yaml.Verbatim
import Frontmark.Yaml.Token
import Frontmark.Yaml.Tag
import Frontmark.Yaml.Layout
import Frontmark.Yaml.Tokens
import Frontmark.Yaml.Node
import Frontmark.Yaml.Document
import Frontmark.Decimal.Double
import Frontmark.Decimal.Shortest
import Frontmark.Decimal.Form
import Frontmark.Decimal.Numeral
import Frontmark.Yaml.Value
import Frontmark.Yaml.Scalar
import Frontmark.Yaml.Reader
import Frontmark.Json
import Frontmark.Attributes.Record
import Frontmark.Attributes.Output
import Frontmark.Attributes.Header
import Frontmark.Attributes.Shape
import Frontmark.Session
import Frontmark.Text.LowerCase
import Frontmark.Toml.Error
import Frontmark.Toml.Resolve
import Frontmark.Toml.Scan
import Frontmark.Toml.Text
import Frontmark.Toml.Value
import Frontmark.Toml.Number
import Frontmark.Toml.Moment
import Frontmark.Toml.MomentText
import Frontmark.Toml.Table
import Frontmark.Toml.Reader
import Frontmark.Text.Utf8
import Frontmark.Folder
import Frontmark.Settings.Value
import Frontmark.Settings.Key
import Frontmark.Settings.Record
import Frontmark.Settings.Layers
import Frontmark.Text.Likeness
import Frontmark.CommandLine.Command
import Frontmark.CommandLine.Help
import Frontmark.CommandLine.Complaint
import Frontmark.CommandLine.Reader
import Frontmark.CommandLine.Invocation
import Frontmark.CommandLine.Run
import Frontmark.Main
import Frontmark.Proofs.Text.Lines
import Frontmark.Proofs.Text.Trim
import Frontmark.Proofs.Text.Runs
import Frontmark.Proofs.Text.LineEndings
import Frontmark.Proofs.Text.Quoted
import Frontmark.Proofs.Inline.Span
import Frontmark.Proofs.Header.Gap
import Frontmark.Proofs.Header.Grammar
import Frontmark.Proofs.Header.Split
import Frontmark.Proofs.Header.Attach
import Frontmark.Proofs.Header.Place
import Frontmark.Proofs.Header.LineEndings
import Frontmark.Proofs.Document.Header
import Frontmark.Proofs.Document.Headerless
import Frontmark.Proofs.Markup.Identity
import Frontmark.Proofs.Markup.Editing
import Frontmark.Proofs.Markup.Walk
import Frontmark.Proofs.Markup.Traversal
import Frontmark.Proofs.Markup.Depth
import Frontmark.Proofs.Markup.Skeleton
import Frontmark.Proofs.Markup.Unwritten
import Frontmark.Proofs.Markup.Structural
import Frontmark.Proofs.Markup.Tokens
import Frontmark.Proofs.Markup.Emphasis
import Frontmark.Proofs.Markup.Faithful
import Frontmark.Proofs.Markup.Notes
import Frontmark.Proofs.Inline.Prose
import Frontmark.Proofs.Inline.Reading
import Frontmark.Proofs.Body.Calm
import Frontmark.Proofs.Inline.Pairing
import Frontmark.Proofs.Inline.Lines
import Frontmark.Proofs.Block.Opening
import Frontmark.Proofs.Body.Drafts
import Frontmark.Proofs.Block.Reading
import Frontmark.Proofs.Block.Sequence
import Frontmark.Proofs.Body.Lines
import Frontmark.Proofs.Block.Fence
import Frontmark.Proofs.Link.Destination
import Frontmark.Proofs.Markup.Payload
import Frontmark.Proofs.Body.Normal
import Frontmark.Proofs.Document.Stable
import Frontmark.Proofs.Document.Validation
import Frontmark.Proofs.Settings.Precedence
import Frontmark.Proofs.Folder
import Frontmark.Proofs.Except
import Frontmark.Proofs.Yaml.Margin
import Frontmark.Proofs.Yaml.Tag
import Frontmark.Proofs.Yaml.Scalar
import Frontmark.Proofs.Yaml.Verbatim
import Frontmark.Proofs.Yaml.Layout
import Frontmark.Proofs.Yaml.Step
import Frontmark.Proofs.Yaml.Gaps
import Frontmark.Proofs.Yaml.Ending
import Frontmark.Proofs.Yaml.Run
import Frontmark.Proofs.Yaml.Balance
import Frontmark.Proofs.Yaml.Places
import Frontmark.Proofs.Yaml.Meaning
import Frontmark.Proofs.Document.Trimming
import Frontmark.Proofs.CommandLine.Effects
import Frontmark.Proofs.CommandLine.Shorthand
import Frontmark.Proofs.Markup.Circuit
import Frontmark.Header.Offsets
import Frontmark.Proofs.Document.Reports
import Frontmark.Proofs.Header.Offsets
