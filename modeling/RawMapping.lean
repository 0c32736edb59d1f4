import RawMapping.Text.CharSet
import RawMapping.Text.Letters
import RawMapping.Text.Printable
import RawMapping.Text.UpperCase
import RawMapping.Text.Quoted
import RawMapping.Text.Numeral
import RawMapping.Text.Lines
import RawMapping.Location
import RawMapping.Token.Symbol
import RawMapping.Token.Fault
import RawMapping.Token.Lexeme
import RawMapping.Token.Scan
import RawMapping.Declaration.Basic
import RawMapping.Declaration.Printer
import RawMapping.Declaration.Reader
import RawMapping.Declaration.Parser
import RawMapping.Files.Path
import RawMapping.Declaration.Node
import RawMapping.Declaration.Draft
import RawMapping.Declaration.Replace
import RawMapping.Case.Record
import RawMapping.Report.Diagnostic
import RawMapping.Report.Fixes
import RawMapping.Report.Problems
import RawMapping.Case.Mapping
import RawMapping.Derived.Basic
import RawMapping.Derived.Printer
import RawMapping.Derived.Synthesis
import RawMapping.Derived.Expand
import RawMapping.Value.Binary64
import RawMapping.Value.Basic
import RawMapping.Value.Evaluate
import RawMapping.Report.Apply
import RawMapping.Session.Basic
import RawMapping.Toml.Basic
import RawMapping.Toml.Scalar
import RawMapping.Toml.Document
import RawMapping.Files.Tree
import RawMapping.Files.Source
import RawMapping.Config
import RawMapping.Console.EmojiTable
import RawMapping.Console.CellWidth
import RawMapping.Console.ShortCode
import RawMapping.Console.Markup
import RawMapping.Console.Plain
import RawMapping.Command.Event
import RawMapping.Command.Display
import RawMapping.Command.Journal
import RawMapping.Command.Arguments
import RawMapping.Command.Behavior
import RawMapping.Main
import RawMapping.Proofs.Case.Description
import RawMapping.Proofs.Derived.Expansion
import RawMapping.Proofs.Outcome
import RawMapping.Proofs.Token.Lexeme
import RawMapping.Proofs.Token.Scanning
import RawMapping.Proofs.Declaration.Printable
import RawMapping.Proofs.Declaration.Layout
import RawMapping.Proofs.Declaration.Reading
import RawMapping.Proofs.Declaration.Accepted
import RawMapping.Proofs.Declaration.RoundTrip
import RawMapping.Proofs.Value.Running
import RawMapping.Proofs.Value.Survival
import RawMapping.Proofs.Text.Numeral
import RawMapping.Proofs.Value.Integers
import RawMapping.Proofs.Declaration.Identity
import RawMapping.Proofs.Declaration.Replacing
import RawMapping.Proofs.Value.Strings
import RawMapping.Proofs.Value.Names
import RawMapping.Proofs.Report.Offers
import RawMapping.Proofs.Report.Faults
import RawMapping.Proofs.Report.Mending
import RawMapping.Proofs.Report.Progress
import RawMapping.Proofs.Report.Readback
import RawMapping.Proofs.Declaration.Substitution
import RawMapping.Proofs.Report.Remedies
import RawMapping.Proofs.Report.Locality
import RawMapping.Proofs.Report.Occurrence
import RawMapping.Proofs.Session.Recording
import RawMapping.Proofs.Session.Lifetimes
import RawMapping.Proofs.Derived.Retagging
import RawMapping.Proofs.Command.Fixing
import RawMapping.Proofs.Declaration.Words
import RawMapping.Proofs.Command.Preserving
import RawMapping.Proofs.Derived.SameShape
import RawMapping.Proofs.Report.Anchors
import RawMapping.Proofs.Token.Blocks
import RawMapping.Proofs.Token.Seam
import RawMapping.Proofs.Declaration.Grammar
import RawMapping.Proofs.Declaration.Deriving
import RawMapping.Proofs.Declaration.Joining
import RawMapping.Proofs.Files.Writing
import RawMapping.Proofs.Declaration.Portable
import RawMapping.Proofs.Command.Repeating
import RawMapping.Proofs.Command.Checking
import RawMapping.Proofs.Derived.Configured
import RawMapping.Proofs.Report.Casewise
import RawMapping.Proofs.Declaration.Exchange
import RawMapping.Proofs.Declaration.Agreement
import RawMapping.Proofs.Declaration.Places
import RawMapping.Proofs.Token.Nesting
import RawMapping.Proofs.Token.Pieces
import RawMapping.Proofs.Token.Skipping
import RawMapping.Proofs.Token.Modes
import RawMapping.Proofs.Token.Spacing
import RawMapping.Proofs.Declaration.Unplaced
import RawMapping.Proofs.Token.Literals
import RawMapping.Proofs.Text.Excerpt
import RawMapping.Proofs.Declaration.Rejected
import RawMapping.Proofs.Token.Order
import RawMapping.Proofs.Declaration.Located
import RawMapping.Proofs.Token.Cursor
import RawMapping.Proofs.Token.Tokenizing
import RawMapping.Proofs.Declaration.Walking
