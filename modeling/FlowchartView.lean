import FlowchartView.Command.Arguments
import FlowchartView.Command.File
import FlowchartView.Command.FileTree
import FlowchartView.Command.Option
import FlowchartView.Command.Run
import FlowchartView.Command.View
import FlowchartView.Diagram.Basic
import FlowchartView.Diagram.Layout
import FlowchartView.Diagram.Preamble
import FlowchartView.Diagram.Reading
import FlowchartView.Distinct
import FlowchartView.Drawing.Basic
import FlowchartView.Drawing.Entry
import FlowchartView.Drawing.Filter
import FlowchartView.Drawing.Style
import FlowchartView.Main
import FlowchartView.Notice
import FlowchartView.OrderedMap
import FlowchartView.Proofs.Command.Filter
import FlowchartView.Proofs.Command.Source
import FlowchartView.Proofs.Diagram.Accounting
import FlowchartView.Proofs.Diagram.Body
import FlowchartView.Proofs.Diagram.Containers
import FlowchartView.Proofs.Diagram.Declarations
import FlowchartView.Proofs.Diagram.Legible
import FlowchartView.Proofs.Diagram.Numbering
import FlowchartView.Proofs.Diagram.Placement
import FlowchartView.Proofs.Diagram.Preamble
import FlowchartView.Proofs.Diagram.Reading
import FlowchartView.Proofs.Diagram.Rearrangement
import FlowchartView.Proofs.Diagram.Registry
import FlowchartView.Proofs.Diagram.Spacing
import FlowchartView.Proofs.Drawing.Classes
import FlowchartView.Proofs.Drawing.Composition
import FlowchartView.Proofs.Drawing.Containers
import FlowchartView.Proofs.Drawing.Hiding
import FlowchartView.Proofs.Drawing.Hooks
import FlowchartView.Proofs.Drawing.Lines
import FlowchartView.Proofs.Drawing.Lookup
import FlowchartView.Proofs.Drawing.Mention
import FlowchartView.Proofs.Drawing.Numbering
import FlowchartView.Proofs.Drawing.Reread
import FlowchartView.Proofs.Drawing.Restriction
import FlowchartView.Proofs.Drawing.RoundTrip
import FlowchartView.Proofs.Drawing.Secrecy
import FlowchartView.Proofs.Drawing.View
import FlowchartView.Proofs.OrderedMap
import FlowchartView.Proofs.Reachability.Edges
import FlowchartView.Proofs.Reachability.Mirror
import FlowchartView.Proofs.Reachability.Order
import FlowchartView.Proofs.Reachability.Queries
import FlowchartView.Proofs.Reachability.Restriction
import FlowchartView.Proofs.Reachability.Search
import FlowchartView.Proofs.Session.Agreement
import FlowchartView.Proofs.Session.Focus
import FlowchartView.Proofs.Session.Run
import FlowchartView.Proofs.Session.Unmentioned
import FlowchartView.Proofs.Statement.ClassLine
import FlowchartView.Proofs.Statement.ClickLine
import FlowchartView.Proofs.Statement.EdgeGrammar
import FlowchartView.Proofs.Statement.EdgeLine
import FlowchartView.Proofs.Statement.Enclosing
import FlowchartView.Proofs.Statement.FirstShape
import FlowchartView.Proofs.Statement.InlineLink
import FlowchartView.Proofs.Statement.Label
import FlowchartView.Proofs.Statement.Link
import FlowchartView.Proofs.Statement.NodeLine
import FlowchartView.Proofs.Statement.Reading
import FlowchartView.Proofs.Statement.ShapePairs
import FlowchartView.Proofs.Text.Blank
import FlowchartView.Proofs.Text.Code
import FlowchartView.Proofs.Text.Fields
import FlowchartView.Proofs.Text.FirstWord
import FlowchartView.Proofs.Text.Ids
import FlowchartView.Proofs.Text.Lines
import FlowchartView.Proofs.Visibility
import FlowchartView.Proofs.Visibility.History
import FlowchartView.Reachability.Basic
import FlowchartView.Reachability.Search
import FlowchartView.Session
import FlowchartView.Shape
import FlowchartView.Statement.Basic
import FlowchartView.Statement.Block
import FlowchartView.Statement.ClassLine
import FlowchartView.Statement.Comment
import FlowchartView.Statement.EdgeLine
import FlowchartView.Statement.Keyword
import FlowchartView.Statement.Link
import FlowchartView.Statement.NodeLine
import FlowchartView.Text.Blank
import FlowchartView.Text.CodePoint
import FlowchartView.Text.Control
import FlowchartView.Text.Identifier
import FlowchartView.Text.Keyword
import FlowchartView.Text.Letter
import FlowchartView.Text.Line
import FlowchartView.Text.Numeric
import FlowchartView.Text.Piece
import FlowchartView.Text.Printable
import FlowchartView.Text.Quoted
import FlowchartView.Text.Similarity
import FlowchartView.Text.Word
import FlowchartView.Visibility
