import NativeStyle.Adapt.Rule
import NativeStyle.Adapt.Sheet
import NativeStyle.Animation.Component
import NativeStyle.Animation.Fields
import NativeStyle.Animation.Lexeme
import NativeStyle.Animation.Shorthand
import NativeStyle.Animation.Term
import NativeStyle.CommandLine.Command
import NativeStyle.CommandLine.Directory
import NativeStyle.CommandLine.Run
import NativeStyle.Length
import NativeStyle.Logged
import NativeStyle.Main
import NativeStyle.Number.Basic
import NativeStyle.Number.Binary64
import NativeStyle.Number.Decimal
import NativeStyle.Number.Literal
import NativeStyle.Number.Rounding
import NativeStyle.Number.Shortest
import NativeStyle.Options
import NativeStyle.Policy
import NativeStyle.Proofs.Balance
import NativeStyle.Proofs.Braces
import NativeStyle.Proofs.Concatenation
import NativeStyle.Proofs.Declarations
import NativeStyle.Proofs.Failures
import NativeStyle.Proofs.Flattening
import NativeStyle.Proofs.Fragments
import NativeStyle.Proofs.Fronts
import NativeStyle.Proofs.Groups
import NativeStyle.Proofs.Idempotence
import NativeStyle.Proofs.InnerBlocks
import NativeStyle.Proofs.Integers
import NativeStyle.Proofs.Lengths
import NativeStyle.Proofs.Lexemes
import NativeStyle.Proofs.Longhands
import NativeStyle.Proofs.Marks
import NativeStyle.Proofs.Names
import NativeStyle.Proofs.Nesting
import NativeStyle.Proofs.Outlines
import NativeStyle.Proofs.Printing
import NativeStyle.Proofs.ReadBack
import NativeStyle.Proofs.References
import NativeStyle.Proofs.Rereading
import NativeStyle.Proofs.Rules
import NativeStyle.Proofs.Runs
import NativeStyle.Proofs.Scan
import NativeStyle.Proofs.Slices
import NativeStyle.Proofs.Substitution
import NativeStyle.Proofs.Times
import NativeStyle.Proofs.Trimming
import NativeStyle.Proofs.Verdicts
import NativeStyle.Selector
import NativeStyle.Stylesheet.Block
import NativeStyle.Stylesheet.Declaration
import NativeStyle.Stylesheet.Node
import NativeStyle.Stylesheet.Piece
import NativeStyle.Support
import NativeStyle.Text.Basic
import NativeStyle.Text.Blank
import NativeStyle.Text.CodeRange
import NativeStyle.Text.ControlSequence
import NativeStyle.Text.Digit
import NativeStyle.Text.Encoding
import NativeStyle.Text.Lowercase
import NativeStyle.Text.Pattern
import NativeStyle.Text.Printable
import NativeStyle.Text.Quoted
import NativeStyle.Text.Word
import NativeStyle.Proofs.Diagnostics
import NativeStyle.Proofs.DepthLimit
import NativeStyle.Proofs.Spellings
import NativeStyle.Proofs.Derivations
import NativeStyle.Proofs.Numerals
import NativeStyle.Proofs.RoundTrip
import NativeStyle.Proofs.Admission
import NativeStyle.Proofs.Checking
import NativeStyle.Proofs.Files
import NativeStyle.Proofs.Placeholders
import NativeStyle.Proofs.Placement
import NativeStyle.Proofs.Rearrangement
import NativeStyle.Proofs.SelectorLists
import NativeStyle.Proofs.Spreading
import NativeStyle.Proofs.Conversions
import NativeStyle.Proofs.Pixels
import NativeStyle.Proofs.Lookahead
import NativeStyle.Proofs.Rejections
import NativeStyle.Proofs.OpenEnds
import NativeStyle.Proofs.Parentheses
import NativeStyle.Proofs.Segments
import NativeStyle.Proofs.Consistency
import NativeStyle.Proofs.Passes
import NativeStyle.Proofs.Descent
