import Intake.Command.Arguments
import Intake.Command.Basic
import Intake.Command.Failure
import Intake.Command.Listing
import Intake.Data.Codec
import Intake.Data.Datum
import Intake.Data.Dynamic
import Intake.Data.Error
import Intake.Data.Reader
import Intake.Data.Type
import Intake.Document
import Intake.Encoding.Base64
import Intake.Encoding.Bytes
import Intake.Encoding.Hex
import Intake.Fault.Basic
import Intake.Form.Basic
import Intake.Form.Error
import Intake.Form.Example
import Intake.Form.Run
import Intake.Json.Printer
import Intake.Json.Reader
import Intake.Json.Tree
import Intake.Main
import Intake.Number.Binary64
import Intake.Number.Decimal
import Intake.Number.FloatText
import Intake.Number.Shortest
import Intake.Pattern.Basic
import Intake.Pattern.Class
import Intake.Pattern.Escape
import Intake.Pattern.Flags
import Intake.Pattern.Reader
import Intake.Pattern.Search
import Intake.Pattern.Size
import Intake.Pattern.Tree
import Intake.Proofs.Data.Inverse
import Intake.Proofs.Data.Records
import Intake.Proofs.Data.Values
import Intake.Proofs.Fault.Disclosure
import Intake.Proofs.Form.Alike
import Intake.Proofs.Form.Closed
import Intake.Proofs.Form.Context
import Intake.Proofs.Form.Failures
import Intake.Proofs.Form.Lists
import Intake.Proofs.Form.Parts
import Intake.Proofs.Form.Permutation
import Intake.Proofs.Form.Provenance
import Intake.Proofs.Form.Reach
import Intake.Proofs.Form.Recode
import Intake.Proofs.Form.Trace
import Intake.Proofs.Form.Update
import Intake.Proofs.Form.Vacuous
import Intake.Proofs.Json.Documents
import Intake.Proofs.Json.Scalars
import Intake.Proofs.Pairwise
import Intake.Proofs.Record.Column
import Intake.Proofs.Record.Conformance
import Intake.Proofs.Record.Culprit
import Intake.Proofs.Record.Failure
import Intake.Proofs.Record.Flatten
import Intake.Proofs.Record.Projection
import Intake.Proofs.Record.Stability
import Intake.Proofs.Result
import Intake.Proofs.Schema.Agreement
import Intake.Proofs.Schema.Descriptions
import Intake.Proofs.Schema.Dictionary
import Intake.Proofs.Schema.Errors
import Intake.Proofs.Schema.Layout
import Intake.Proofs.Schema.Loaded
import Intake.Proofs.Schema.Lossless
import Intake.Proofs.Schema.Mirror
import Intake.Proofs.Schema.Outline
import Intake.Proofs.Schema.Passage
import Intake.Proofs.Schema.Plain
import Intake.Proofs.Schema.Policy
import Intake.Proofs.Schema.Printed
import Intake.Proofs.Schema.Reading
import Intake.Proofs.Schema.Rebuild
import Intake.Proofs.Schema.Reload
import Intake.Proofs.Schema.Resolvable
import Intake.Proofs.Schema.RoundTrip
import Intake.Proofs.Schema.Samples
import Intake.Proofs.Schema.Scalar
import Intake.Proofs.Schema.Totality
import Intake.Proofs.Schema.Translation
import Intake.Proofs.Schema.Types
import Intake.Proofs.Schema.Unchecked
import Intake.Proofs.Value.Dict
import Intake.Proofs.Value.JsonText
import Intake.Proofs.Value.Loading
import Intake.Proofs.Value.Parts
import Intake.Record.Basic
import Intake.Record.Coerce
import Intake.Record.Error
import Intake.Record.Samples
import Intake.Record.Shape
import Intake.Rule.Binary
import Intake.Rule.Boolean
import Intake.Rule.Choice
import Intake.Rule.Number
import Intake.Rule.Presence
import Intake.Rule.Rejection
import Intake.Rule.Text
import Intake.Rule.Time
import Intake.Schema.Builtin
import Intake.Schema.Describe
import Intake.Schema.Description
import Intake.Schema.Error
import Intake.Schema.Example
import Intake.Schema.MetaForm
import Intake.Schema.Registry
import Intake.Text.Blank
import Intake.Text.LetterCase
import Intake.Text.Quoted
import Intake.Text.SnakeCase
import Intake.Time.Calendar
import Intake.Time.Reader
import Intake.Time.Timestamp
import Intake.Unicode.Age
import Intake.Unicode.Boundary
import Intake.Unicode.CaseMap
import Intake.Unicode.Category
import Intake.Unicode.CharSet
import Intake.Unicode.Derived
import Intake.Unicode.Named
import Intake.Unicode.Property
import Intake.Unicode.Script
import Intake.Value.Basic
import Intake.Value.Dict
import Intake.Value.Equality
import Intake.Value.Json
import Intake.Value.Visitor
import Intake.Value.Yaml
import Intake.Yaml.Cursor
import Intake.Yaml.Node
import Intake.Yaml.Pen
import Intake.Yaml.Printer
import Intake.Yaml.Reader
import Intake.Yaml.Scalar
import Intake.Yaml.Scalar.Block
import Intake.Yaml.Scalar.Fold
import Intake.Yaml.Scalar.Plain
import Intake.Yaml.Scalar.Quoted
import Intake.Yaml.Tag
import Intake.Yaml.Token
import Intake.Yaml.Tree
import Intake.Proofs.Form.Single
import Intake.Proofs.Form.Transforms
import Intake.Proofs.Enumeration
import Intake.Proofs.Schema.Trials
import Intake.Proofs.Form.Rendering
import Intake.Proofs.Value.Equality
import Intake.Proofs.Value.JsonTree
import Intake.Proofs.Value.Tags
import Intake.Proofs.Number.Order
import Intake.Proofs.Number.Integral
import Intake.Proofs.Rule.Bounds
import Intake.Proofs.Rule.Narrowing
import Intake.Proofs.Rule.Lengths
import Intake.Proofs.Rule.Settled
import Intake.Proofs.Time.Days
import Intake.Proofs.Time.Moments
import Intake.Proofs.Rule.Counts
import Intake.Proofs.Time.Text
import Intake.Proofs.Rule.Emission
import Intake.Proofs.Encoding.Hex
import Intake.Proofs.Rule.Hexadecimal
import Intake.Proofs.Form.Sanitizing
import Intake.Proofs.Form.Chains
import Intake.Proofs.Schema.Extension
import Intake.Proofs.Fault.Display
import Intake.Proofs.Text.Words
