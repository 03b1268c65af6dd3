import Snippet.Conversion.Item
import Snippet.Element.Validation
import Snippet.Format.Printer
import Snippet.Proofs.Lines
import Snippet.Proofs.Store.View
import Snippet.Release
import Snippet.Store.Edit
import Snippet.Store.Render
import Snippet.Proofs.Store.Rendering
import Snippet.Proofs.Conversion.Growth
import Snippet.Proofs.Interpreter.Basic
import Snippet.Proofs.Conversion.Fields
import Snippet.Proofs.Interpreter.Agreement
import Snippet.Proofs.Conversion.Mirrors
import Snippet.Proofs.Session
import Snippet.Proofs.Rows
import Snippet.Proofs.Conversion.Numbering
import Snippet.Proofs.Store.Graph
import Snippet.Proofs.Store.Leaves
import Snippet.Proofs.Conversion.Outcomes
import Snippet.Proofs.Store.Lasting
import Snippet.Proofs.Conversion.Descent
import Snippet.Proofs.Conversion.Calls
import Snippet.Proofs.Conversion.Indents
import Snippet.Proofs.Conversion.Placing
import Snippet.Proofs.Store.Dense
import Snippet.Proofs.Conversion.Siblings
import Snippet.Proofs.Conversion.Compactness
import Snippet.Proofs.Format.Escapes
import Snippet.Proofs.Format.Grammar
import Snippet.Proofs.Store.Repeats
import Snippet.Proofs.Store.Locality
import Snippet.Proofs.Conversion.Relations
import Snippet.Proofs.Conversion.Invariants
import Snippet.Proofs.Conversion.Layers
import Snippet.Proofs.Propagation
import Snippet.Proofs.Conversion.Twins
import Snippet.Proofs.Conversion.Frame
import Snippet.Proofs.Store.Apart
import Snippet.Proofs.Isolation
import Snippet.Proofs.Format.Canonical
import Snippet.Proofs.TabOrder
import Snippet.Proofs.Pattern.Branches
import Snippet.Proofs.Pattern.Cursor
import Snippet.Proofs.Pattern.Forward
import Snippet.Proofs.Pattern.Search
import Snippet.Proofs.Replacement
import Snippet.Proofs.Pattern.Reading
import Snippet.Proofs.Pattern.Faults
import Snippet.Proofs.Conversion.Failures
import Snippet.Proofs.Descriptions
import Snippet.Proofs.MissingGroup
import Snippet.Proofs.Store.Compaction
import Snippet.Proofs.Store.Snapshot
import Snippet.Proofs.Conversion.Requests
import Snippet.Proofs.Conversion.Route
import Snippet.Proofs.Store.Positions
import Snippet.Proofs.Store.Depth
import Snippet.Proofs.Store.Readings
import Snippet.Proofs.Grouping
import Snippet.Proofs.Indentation
import Snippet.Proofs.Validation.Trees
import Snippet.Proofs.Words
import Snippet.Proofs.Format.Closing
import Snippet.Proofs.LineCuts
