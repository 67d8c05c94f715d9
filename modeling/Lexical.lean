import Lexical.Config.Json
import Lexical.Json.State
import Lexical.Transform
import Lexical.Proofs.Lexer.Command
import Lexical.Proofs.Lexer.Resume
import Lexical.Proofs.Indent.Turn
import Lexical.Proofs.Indent.Blocks
import Lexical.Proofs.Indent.Depth
import Lexical.Proofs.Indent.Lines
import Lexical.Proofs.Indent.OffSide
import Lexical.Proofs.Indent.Resume
import Lexical.Proofs.Regex.Extension.Bracket
import Lexical.Proofs.Regex.Extension.Reader
import Lexical.Proofs.Pattern.Pieces
import Lexical.Proofs.Pattern.Reading
import Lexical.Proofs.Regex.Anchored
import Lexical.Proofs.Pattern.Anchored
import Lexical.Proofs.Lexicon.Selection
import Lexical.Proofs.Lexer.MaximalMunch
import Lexical.Proofs.Regex.Language
import Lexical.Proofs.Regex.Matching
import Lexical.Proofs.Lexer.Take
import Lexical.Proofs.Lexer.Tiling
import Lexical.Proofs.Lexicon.Keywords
import Lexical.Proofs.Lexer.Library
import Lexical.Proofs.Regex.Builders
import Lexical.Proofs.Pattern.Joined
import Lexical.Proofs.Lexicon.Scanner
import Lexical.Proofs.Lexicon.Truncation
import Lexical.Proofs.Lexer.Circles
import Lexical.Proofs.Lexer.Patience
import Lexical.Proofs.Lexer.Collecting
import Lexical.Proofs.Lexer.Chunks
import Lexical.Proofs.Lexer.Progress
import Lexical.Proofs.Lexer.Tracking
import Lexical.Proofs.Config.RoundTrip
import Lexical.Proofs.Lexicon.WellFormed
import Lexical.Proofs.Lexicon.Places
import Lexical.Proofs.Lexer.Failure
import Lexical.Proofs.Lexer.Raw
import Lexical.Proofs.Lexer.Safety
import Lexical.Proofs.Lexicon.Revised
import Lexical.Proofs.Lexer.Revised
import Lexical.Proofs.Lexer.Filtering
import Lexical.Proofs.Lexer.Modes
import Lexical.Proofs.Category.Sets
import Lexical.Proofs.Category.Registry
import Lexical.Proofs.Lexer.Categories
import Lexical.Proofs.Lexicon.Dispatch
import Lexical.Proofs.Lexer.Dispatch
import Lexical.Proofs.Json.State
import Lexical.Proofs.Indent.Saved
import Lexical.Proofs.Indent.Padding
import Lexical.Proofs.Lexer.Gaps
import Lexical.Proofs.Regex.Preference
import Lexical.Proofs.Pattern.Meaning
import Lexical.Proofs.Lexer.Operators
import Lexical.Proofs.Indent.Rounds
import Lexical.Proofs.Indent.Reading
import Lexical.Proofs.Indent.Widths
import Lexical.Proofs.Indent.Base
import Lexical.Proofs.Indent.Faltering
import Lexical.Proofs.Indent.Retry
import Lexical.Proofs.Text.Lines
import Lexical.Proofs.Excerpt
import Lexical.Proofs.Lexer.Excerpts
import Lexical.Proofs.Lexer.Messages
