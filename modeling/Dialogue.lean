import Dialogue.Bot
import Dialogue.Classifier
import Dialogue.Codec.Bot
import Dialogue.Codec.Config
import Dialogue.Codec.Session
import Dialogue.Codec.Token
import Dialogue.Console.Arguments
import Dialogue.Console.Chat
import Dialogue.Console.Program
import Dialogue.Decimal.Shortest
import Dialogue.Error
import Dialogue.FileTree
import Dialogue.Json.Decode
import Dialogue.Json.Document
import Dialogue.Json.Error
import Dialogue.Json.Number
import Dialogue.Json.Numeral
import Dialogue.Json.Text
import Dialogue.Json.Token
import Dialogue.Json.Value
import Dialogue.Keyword
import Dialogue.Load
import Dialogue.Main
import Dialogue.Name
import Dialogue.Proofs.Classifier.Priority
import Dialogue.Proofs.Codec.RoundTrip
import Dialogue.Proofs.Console.Lines
import Dialogue.Proofs.Console.Transcript
import Dialogue.Proofs.Json.Atom
import Dialogue.Proofs.Json.Record
import Dialogue.Proofs.Json.Written
import Dialogue.Proofs.Script.Acceptance
import Dialogue.Proofs.Script.Blame
import Dialogue.Proofs.Script.Course
import Dialogue.Proofs.Script.Declared
import Dialogue.Proofs.Script.Marks
import Dialogue.Proofs.Script.MissingBrace
import Dialogue.Proofs.Script.Modes
import Dialogue.Proofs.Script.Printing
import Dialogue.Proofs.Script.Rearrangement
import Dialogue.Proofs.Script.Relocation
import Dialogue.Proofs.Script.Respacing
import Dialogue.Proofs.Script.Reuse
import Dialogue.Proofs.Script.Unfinished
import Dialogue.Proofs.Script.Uniqueness
import Dialogue.Proofs.Script.Verdict
import Dialogue.Proofs.Script.Viable
import Dialogue.Proofs.Session.Binding
import Dialogue.Proofs.Session.Closing
import Dialogue.Proofs.Session.Conversation
import Dialogue.Proofs.Session.Dependence
import Dialogue.Proofs.Session.Opacity
import Dialogue.Proofs.Session.Reserved
import Dialogue.Proofs.Session.Resumption
import Dialogue.Proofs.Session.Segment
import Dialogue.Proofs.Session.Shape
import Dialogue.Proofs.Session.Travel
import Dialogue.Proofs.Template.Division
import Dialogue.Proofs.Template.Joining
import Dialogue.Proofs.Template.Pattern
import Dialogue.Proofs.Template.Placeholder
import Dialogue.Proofs.Text.Lowering
import Dialogue.Proofs.Text.Trimming
import Dialogue.Proofs.Token.Failure
import Dialogue.Proofs.Token.First
import Dialogue.Proofs.Token.Kinds
import Dialogue.Proofs.Token.Layout
import Dialogue.Proofs.Token.Lines
import Dialogue.Proofs.Token.Lookahead
import Dialogue.Proofs.Token.Munch
import Dialogue.Proofs.Token.Split
import Dialogue.Proofs.Token.Trivia
import Dialogue.Script
import Dialogue.Script.Reader
import Dialogue.Script.Slot
import Dialogue.Script.Stage
import Dialogue.Session
import Dialogue.Template
import Dialogue.Text.Blank
import Dialogue.Text.Case
import Dialogue.Text.Case.Table
import Dialogue.Text.CharSet
import Dialogue.Text.Quoted
import Dialogue.Text.Quoted.Table
import Dialogue.Text.Search
import Dialogue.Token
import Dialogue.Token.Scan
