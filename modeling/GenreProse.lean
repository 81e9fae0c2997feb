import GenreProse.Text.Digit
import GenreProse.Number.Words
import GenreProse.Calendar.Elapsed
import GenreProse.Markup.Format
import GenreProse.Renderer
import GenreProse.Main
import GenreProse.Proofs.Rendering.Limit
import GenreProse.Proofs.Prose.NormalForm
import GenreProse.Proofs.Template.WellFramed
import GenreProse.Proofs.Rendering.Lossy
import GenreProse.Proofs.Rendering.NormalForm
import GenreProse.Proofs.Rendering.Run
import GenreProse.Proofs.Rendering.Shortcut
import GenreProse.Proofs.Rendering.Termination
import GenreProse.Proofs.Rendering.Unknown
import GenreProse.Proofs.Prose.Tokens
import GenreProse.Proofs.Prose.VisibleText
import GenreProse.Proofs.Prose.TagScanner
import GenreProse.Proofs.Prose.Tags
import GenreProse.Proofs.Rendering.Composition
import GenreProse.Proofs.Template.Spelling
import GenreProse.Proofs.Rendering.Dispatch
import GenreProse.Proofs.Markup.Leaves
import GenreProse.Proofs.Markup.Operations
import GenreProse.Proofs.Markup.Loops
import GenreProse.Proofs.Text.Bytes
import GenreProse.Proofs.Markup.Scanners
import GenreProse.Proofs.Markup.ClosingTag
import GenreProse.Proofs.Markup.Slices
import GenreProse.Proofs.Markup.Totality
import GenreProse.Proofs.Markup.Shape
import GenreProse.Proofs.Markup.StyledText
import GenreProse.Proofs.Markup.Apostrophes
import GenreProse.Proofs.Markup.Calls
import GenreProse.Proofs.Markup.OpaqueSpans
import GenreProse.Proofs.Template.WrittenCalls
import GenreProse.Proofs.Prose.Targets
import GenreProse.Proofs.Template.Untargeted
import GenreProse.Proofs.Markup.Origins
import GenreProse.Proofs.Rendering.BaseUrl
import GenreProse.Proofs.Prose.Frames
import GenreProse.Proofs.Template.Sites
import GenreProse.Proofs.Rendering.Sites
import GenreProse.Proofs.Markup.Parts
import GenreProse.Proofs.Markup.TopLevel
import GenreProse.Proofs.Template.Forwarding
import GenreProse.Proofs.Markup.QuotedText
import GenreProse.Proofs.Rendering.Romanization
import GenreProse.Proofs.Restatement.Patterns
import GenreProse.Proofs.CommandLine.Runs
import GenreProse.Proofs.Markup.Format
import GenreProse.Proofs.Calendar.Ages
import GenreProse.Proofs.Template.Names
import GenreProse.Proofs.Rendering.Dates
import GenreProse.Proofs.Calendar.Overflow
import GenreProse.Proofs.Template.Overflow
import GenreProse.Proofs.Calendar.Spellings
import GenreProse.Proofs.Rendering.TimesAgo
import GenreProse.Proofs.Rendering.Ages
import GenreProse.Proofs.Calendar.Elapsed
import GenreProse.Proofs.Restatement.WordBreaks
import GenreProse.Proofs.Restatement.Commas
import GenreProse.Proofs.Title.Targets
import GenreProse.Proofs.Text.Percent
import GenreProse.Proofs.Title.Addresses
import GenreProse.Proofs.Number.Words
import GenreProse.Proofs.Number.Ordinals
import GenreProse.Proofs.Number.Grouping
import GenreProse.Proofs.Template.Lookup
import GenreProse.Proofs.Rendering.Lists
import GenreProse.Proofs.GenreIndex
import GenreProse.Proofs.Hangul.Romanize
