import LSystemExplorer.Number.Binary64
import LSystemExplorer.Number.Bounded
import LSystemExplorer.Number.Scalar
import LSystemExplorer.Decimal.Text
import LSystemExplorer.Decimal.Shortest
import LSystemExplorer.Text.Breaking
import LSystemExplorer.Text.Broad
import LSystemExplorer.Text.Basic
import LSystemExplorer.Text.Cluster
import LSystemExplorer.Text.Combining
import LSystemExplorer.Text.Letters
import LSystemExplorer.Text.Pattern
import LSystemExplorer.Text.Picture
import LSystemExplorer.Text.Quoted
import LSystemExplorer.Text.Width
import LSystemExplorer.Grammar.Model
import LSystemExplorer.Grammar.Rules
import LSystemExplorer.Turtle.Walk
import LSystemExplorer.Turtle.Drive
import LSystemExplorer.Drawing.Scene
import LSystemExplorer.Yaml.Decode
import LSystemExplorer.Yaml.Document
import LSystemExplorer.Yaml.Event
import LSystemExplorer.Yaml.PlainValue
import LSystemExplorer.Yaml.Scalar
import LSystemExplorer.Yaml.Source
import LSystemExplorer.Yaml.Token
import LSystemExplorer.Yaml.TokenStream
import LSystemExplorer.Catalog.Basic
import LSystemExplorer.Catalog.Builtin
import LSystemExplorer.Catalog.Directory
import LSystemExplorer.Catalog.Load
import LSystemExplorer.CommandLine.Words
import LSystemExplorer.CommandLine.Log
import LSystemExplorer.CommandLine.Program
import LSystemExplorer.CommandLine.Report
import LSystemExplorer.Screen.Cells
import LSystemExplorer.Screen.Border
import LSystemExplorer.Screen.Dots
import LSystemExplorer.Screen.Glyph
import LSystemExplorer.Screen.Paragraph
import LSystemExplorer.Viewer.Display
import LSystemExplorer.Viewer.Frame
import LSystemExplorer.Viewer.Session
import LSystemExplorer.Viewer.State
import LSystemExplorer.Main
import LSystemExplorer.Proofs.Number.Alike
import LSystemExplorer.Proofs.Number.Order
import LSystemExplorer.Proofs.Number.Exact
import LSystemExplorer.Proofs.Number.Writes
import LSystemExplorer.Proofs.Number.Steps
import LSystemExplorer.Proofs.Number.Rounding
import LSystemExplorer.Proofs.Number.Sums
import LSystemExplorer.Proofs.Number.Division
import LSystemExplorer.Proofs.Number.HalfOpen
import LSystemExplorer.Proofs.Grammar.Expansion
import LSystemExplorer.Proofs.Grammar.Entries
import LSystemExplorer.Proofs.Grammar.Nesting
import LSystemExplorer.Proofs.Grammar.Alphabet
import LSystemExplorer.Proofs.Grammar.Renaming
import LSystemExplorer.Proofs.Turtle.Outcome
import LSystemExplorer.Proofs.Turtle.Drive
import LSystemExplorer.Proofs.Turtle.Branches
import LSystemExplorer.Proofs.Turtle.Enclosure
import LSystemExplorer.Proofs.Turtle.Heading
import LSystemExplorer.Proofs.Turtle.Idle
import LSystemExplorer.Proofs.Turtle.Related
import LSystemExplorer.Proofs.Turtle.Strokes
import LSystemExplorer.Proofs.Drawing.Success
import LSystemExplorer.Proofs.Drawing.Canvas
import LSystemExplorer.Proofs.Drawing.Counting
import LSystemExplorer.Proofs.Drawing.Length
import LSystemExplorer.Proofs.Drawing.Renaming
import LSystemExplorer.Proofs.Drawing.Resemblance
import LSystemExplorer.Proofs.Drawing.Scaling
import LSystemExplorer.Proofs.Catalog.Lookup
import LSystemExplorer.Proofs.Catalog.Names
import LSystemExplorer.Proofs.Catalog.Soundness
import LSystemExplorer.Proofs.Catalog.Faults
import LSystemExplorer.Proofs.Catalog.Description
import LSystemExplorer.Proofs.Catalog.Omission
import LSystemExplorer.Proofs.Catalog.Reordering
import LSystemExplorer.Proofs.Catalog.Loading
import LSystemExplorer.Proofs.Screen.Cells
import LSystemExplorer.Proofs.Screen.Paragraphs
import LSystemExplorer.Proofs.Screen.Dots
import LSystemExplorer.Proofs.Screen.Lines
import LSystemExplorer.Proofs.Viewer.Display
import LSystemExplorer.Proofs.Viewer.History
import LSystemExplorer.Proofs.Viewer.Operations
import LSystemExplorer.Proofs.Viewer.Freshness
import LSystemExplorer.Proofs.Viewer.Reach
import LSystemExplorer.Proofs.Viewer.Circle
import LSystemExplorer.Proofs.Viewer.Activation
import LSystemExplorer.Proofs.Viewer.Failure
import LSystemExplorer.Proofs.Viewer.Reports
import LSystemExplorer.Proofs.Viewer.Walls
import LSystemExplorer.Proofs.Viewer.Badges
import LSystemExplorer.Proofs.CommandLine.Rows
import LSystemExplorer.Proofs.CommandLine.Outcome
import LSystemExplorer.Proofs.CommandLine.Agreement
import LSystemExplorer.Proofs.CommandLine.LineFeeds
import LSystemExplorer.Proofs.Number.HalfEven
import LSystemExplorer.Proofs.Number.Quotients
import LSystemExplorer.Proofs.Number.Powers
import LSystemExplorer.Proofs.CommandLine.Lengths
