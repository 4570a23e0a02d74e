import PageLandmarks.Assoc
import PageLandmarks.Audit
import PageLandmarks.Coercion
import PageLandmarks.CommandLine.Arguments
import PageLandmarks.CommandLine.Batch
import PageLandmarks.CommandLine.Path
import PageLandmarks.Configuration
import PageLandmarks.Detector
import PageLandmarks.Dotenv
import PageLandmarks.Http
import PageLandmarks.Http.AuditResponse
import PageLandmarks.Http.Host
import PageLandmarks.Http.Host.Address
import PageLandmarks.Http.Host.Label
import PageLandmarks.Http.Host.Name
import PageLandmarks.Http.Target
import PageLandmarks.Json.Basic
import PageLandmarks.Json.Decimal
import PageLandmarks.Json.Parser
import PageLandmarks.Json.Printer
import PageLandmarks.Json.String
import PageLandmarks.Landmark
import PageLandmarks.Limit
import PageLandmarks.Log
import PageLandmarks.Main
import PageLandmarks.Markup.Attribute
import PageLandmarks.Markup.Declaration
import PageLandmarks.Markup.Entity
import PageLandmarks.Markup.Event
import PageLandmarks.Markup.Pattern
import PageLandmarks.Markup.Reader
import PageLandmarks.Markup.Reference
import PageLandmarks.Markup.Tag
import PageLandmarks.Order
import PageLandmarks.Page
import PageLandmarks.Proofs.Assoc
import PageLandmarks.Proofs.Audit
import PageLandmarks.Proofs.AuditOutcome
import PageLandmarks.Proofs.CommandLine.Batch
import PageLandmarks.Proofs.CommandLine.Service
import PageLandmarks.Proofs.Detection
import PageLandmarks.Proofs.Findings
import PageLandmarks.Proofs.Http.AuditEndpoint
import PageLandmarks.Proofs.Http.PageRequest
import PageLandmarks.Proofs.Json.Leaves
import PageLandmarks.Proofs.Json.RoundTrip
import PageLandmarks.Proofs.LandmarkOrder
import PageLandmarks.Proofs.Layout
import PageLandmarks.Proofs.Order
import PageLandmarks.Proofs.Page
import PageLandmarks.Proofs.Text.Utf8
import PageLandmarks.Proofs.Tree.Likeness
import PageLandmarks.Proofs.Tree.Numbering
import PageLandmarks.Proofs.Tree.Subtree
import PageLandmarks.Queue
import PageLandmarks.Report
import PageLandmarks.Settings
import PageLandmarks.Text.Blank
import PageLandmarks.Text.Cased
import PageLandmarks.Text.Composed
import PageLandmarks.Text.Composite
import PageLandmarks.Text.Digit
import PageLandmarks.Text.Direction
import PageLandmarks.Text.Encoding
import PageLandmarks.Text.Hex
import PageLandmarks.Text.Joining
import PageLandmarks.Text.Lowercase
import PageLandmarks.Text.Mark
import PageLandmarks.Text.Numeral
import PageLandmarks.Text.Permitted
import PageLandmarks.Text.Printable
import PageLandmarks.Text.Punycode
import PageLandmarks.Text.Quoted
import PageLandmarks.Text.Script
import PageLandmarks.Text.Uppercase
import PageLandmarks.Text.Utf8
import PageLandmarks.Tree.Attribute
import PageLandmarks.Tree.Basic
import PageLandmarks.Tree.Builder
import PageLandmarks.Tree.Document
import PageLandmarks.Tree.Serialize
import PageLandmarks.Tree.Text
import PageLandmarks.Proofs.ProblemLimit
import PageLandmarks.Proofs.Markup.Lines
import PageLandmarks.Proofs.SourceLines
import PageLandmarks.Proofs.Snapshot
import PageLandmarks.Proofs.CommandLine.Composition
import PageLandmarks.Proofs.Tree.Depth
import PageLandmarks.Proofs.BreadthFirst
import PageLandmarks.Proofs.Comparison
import PageLandmarks.Proofs.LinkText
import PageLandmarks.Proofs.BodyChildren
import PageLandmarks.Proofs.Dotenv
import PageLandmarks.Proofs.LinkThreshold
import PageLandmarks.Proofs.Settings
import PageLandmarks.Proofs.Text.Words
import PageLandmarks.Proofs.Text.Lowercase
import PageLandmarks.Proofs.Queue
import PageLandmarks.Proofs.Roles
