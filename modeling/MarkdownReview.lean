import MarkdownReview.Text.Basic
import MarkdownReview.Document
import MarkdownReview.Text.Word
import MarkdownReview.Code
import MarkdownReview.Text.Lowercase
import MarkdownReview.Heading.PlainText
import MarkdownReview.Table
import MarkdownReview.Settings.Basic
import MarkdownReview.Heading.Contents
import MarkdownReview.Review
import MarkdownReview.Files
import MarkdownReview.Settings.Profile
import MarkdownReview.Text.Quoted
import MarkdownReview.Text.Utf8
import MarkdownReview.Toml.Quoted
import MarkdownReview.Toml.Number
import MarkdownReview.Toml.Document
import MarkdownReview.Settings.Discovery
import MarkdownReview.Command
import MarkdownReview.Surface
import MarkdownReview.Session
import MarkdownReview.Proofs.Session
import MarkdownReview.Proofs.Text.Blank
import MarkdownReview.Proofs.Code.Reading
import MarkdownReview.Proofs.Code.Pattern
import MarkdownReview.Proofs.Code.Form
import MarkdownReview.Proofs.Text.Occurrence
import MarkdownReview.Proofs.Code.Standing
import MarkdownReview.Proofs.Document.TickRun
import MarkdownReview.Proofs.Document.CodeSpan
import MarkdownReview.Proofs.Code.Enclosure
import MarkdownReview.Proofs.Code.FirstMatch
import MarkdownReview.Proofs.Code.Shape
import MarkdownReview.Proofs.Code.SpanContent
import MarkdownReview.Proofs.Command.Run
import MarkdownReview.Proofs.Settings.Profile
import MarkdownReview.Proofs.Text.Utf8
import MarkdownReview.Proofs.Settings.Discovery
import MarkdownReview.Proofs.Command.LineEnds
import MarkdownReview.Proofs.Comparison
import MarkdownReview.Proofs.Document.Escape
import MarkdownReview.Proofs.Document.Line
import MarkdownReview.Proofs.Heading.Anchor
import MarkdownReview.Proofs.Review.Uncovered
import MarkdownReview.Proofs.Heading.Line
import MarkdownReview.Proofs.Review.OpenLine
import MarkdownReview.Proofs.Heading.Contents
import MarkdownReview.Proofs.Heading.Current
import MarkdownReview.Proofs.Heading.Replacement
import MarkdownReview.Proofs.Heading.Deletion
import MarkdownReview.Proofs.Heading.LowLine
import MarkdownReview.Proofs.Text.Lowercase
import MarkdownReview.Proofs.Heading.Slug
import MarkdownReview.Proofs.Heading.Token
import MarkdownReview.Proofs.Heading.Walk
import MarkdownReview.Proofs.Heading.WrittenWalk
import MarkdownReview.Proofs.Review.CodeUse
import MarkdownReview.Proofs.Review.Concatenation
import MarkdownReview.Proofs.Review.CoveredText
import MarkdownReview.Proofs.Review.Reports
import MarkdownReview.Proofs.Review.Wrapping
import MarkdownReview.Proofs.Settings.Check
import MarkdownReview.Proofs.Settings.Override
import MarkdownReview.Proofs.Surface
import MarkdownReview.Proofs.Text.Token
import MarkdownReview.Proofs.WordCount
import MarkdownReview.Proofs.Command.Switches
