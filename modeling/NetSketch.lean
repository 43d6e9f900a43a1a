import NetSketch.Assistant.Analysis
import NetSketch.Assistant.Exchange
import NetSketch.Assistant.Message
import NetSketch.Assistant.Provider
import NetSketch.Catalog.Component
import NetSketch.Catalog.Tier
import NetSketch.Change.Addition
import NetSketch.Change.Amendment
import NetSketch.Change.Creation
import NetSketch.Change.Joining
import NetSketch.Change.Outcome
import NetSketch.Change.Removal
import NetSketch.Change.Request
import NetSketch.Diagram.Basic
import NetSketch.Diagram.Diff
import NetSketch.Diagram.Document
import NetSketch.Diagram.Edit
import NetSketch.Diagram.Issue
import NetSketch.Diagram.View
import NetSketch.Diagram.Wiring
import NetSketch.Intent.Basic
import NetSketch.Json.Basic
import NetSketch.Json.Convert
import NetSketch.Json.Embedded
import NetSketch.Json.Fault
import NetSketch.Json.Numbers
import NetSketch.Json.Reader
import NetSketch.Json.Writer
import NetSketch.Knowledge.Advice
import NetSketch.Knowledge.Bundled.AntiPatterns
import NetSketch.Knowledge.Bundled.Blueprints
import NetSketch.Knowledge.Bundled.Corpus
import NetSketch.Knowledge.Bundled.Failures
import NetSketch.Knowledge.Bundled.Relationships
import NetSketch.Knowledge.Entry
import NetSketch.Knowledge.Guidance
import NetSketch.Knowledge.Loading
import NetSketch.Knowledge.Matching
import NetSketch.Knowledge.Ranking
import NetSketch.Knowledge.Risk
import NetSketch.Knowledge.Store
import NetSketch.Knowledge.Terms
import NetSketch.Number.Binary64
import NetSketch.Number.Quantity
import NetSketch.Number.Reading
import NetSketch.Number.Shortest
import NetSketch.Prompt.Command
import NetSketch.Prompt.Mention
import NetSketch.Prompt.Position
import NetSketch.Prompt.Reference
import NetSketch.Prompt.Words
import NetSketch.Service.Body
import NetSketch.Service.RateLimit
import NetSketch.Service.Route
import NetSketch.Service.Server
import NetSketch.Service.Shelf
import NetSketch.Session.Turn
import NetSketch.Template.Basic
import NetSketch.Template.Catalog
import NetSketch.Template.Explanation
import NetSketch.Template.Lookup
import NetSketch.Text.Blank
import NetSketch.Text.Case
import NetSketch.Text.CaseTable
import NetSketch.Text.CharRanges
import NetSketch.Text.DecimalDigit
import NetSketch.Text.HexDigit
import NetSketch.Text.Pattern
import NetSketch.Text.Piece
import NetSketch.Text.Printable
import NetSketch.Text.Quoted
import NetSketch.Text.Utf8
import NetSketch.Text.WordChar
import NetSketch.Proofs.Assistant.Analysis
import NetSketch.Proofs.Assistant.Message
import NetSketch.Proofs.Assistant.Prose
import NetSketch.Proofs.Change.Addition
import NetSketch.Proofs.Change.Answer
import NetSketch.Proofs.Change.Attachment
import NetSketch.Proofs.Change.Between
import NetSketch.Proofs.Change.Conflict
import NetSketch.Proofs.Change.Enlargement
import NetSketch.Proofs.Change.Entrance
import NetSketch.Proofs.Change.Growth
import NetSketch.Proofs.Change.Joining
import NetSketch.Proofs.Change.Labelling
import NetSketch.Proofs.Change.Loss
import NetSketch.Proofs.Change.Mentioned
import NetSketch.Proofs.Change.Numbering
import NetSketch.Proofs.Change.Reachability
import NetSketch.Proofs.Change.Repetition
import NetSketch.Proofs.Change.Replay
import NetSketch.Proofs.Change.Restoration
import NetSketch.Proofs.Change.Row
import NetSketch.Proofs.Change.Sketch
import NetSketch.Proofs.Diagram.Covering
import NetSketch.Proofs.Diagram.Edits
import NetSketch.Proofs.Diagram.FreshId
import NetSketch.Proofs.Diagram.Patch
import NetSketch.Proofs.Diagram.RoundTrip
import NetSketch.Proofs.Diagram.Search
import NetSketch.Proofs.Diagram.Showing
import NetSketch.Proofs.Diagram.WellFormed
import NetSketch.Proofs.Intent.RoundTrip
import NetSketch.Proofs.Json.Course
import NetSketch.Proofs.Knowledge.Alike
import NetSketch.Proofs.Knowledge.Breaking
import NetSketch.Proofs.Knowledge.Grouping
import NetSketch.Proofs.Knowledge.Loading
import NetSketch.Proofs.Knowledge.Lookup
import NetSketch.Proofs.Knowledge.Missing
import NetSketch.Proofs.Knowledge.Risk
import NetSketch.Proofs.Knowledge.Suggestion
import NetSketch.Proofs.Knowledge.Unchanged
import NetSketch.Proofs.Prompt.Mentions
import NetSketch.Proofs.Prompt.SameButCase
import NetSketch.Proofs.Service.Diagrams
import NetSketch.Proofs.Service.RateLimit
import NetSketch.Proofs.Session.Turn
