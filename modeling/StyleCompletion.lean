import StyleCompletion.Block
import StyleCompletion.Candidate
import StyleCompletion.CommandLine.Arguments
import StyleCompletion.CommandLine.Run
import StyleCompletion.Context
import StyleCompletion.Cursor
import StyleCompletion.Dictionary
import StyleCompletion.Document
import StyleCompletion.Engine
import StyleCompletion.Event
import StyleCompletion.FileTree
import StyleCompletion.Image
import StyleCompletion.Json.Basic
import StyleCompletion.Json.Number
import StyleCompletion.Json.Quote
import StyleCompletion.Json.Reader
import StyleCompletion.Json.Writer
import StyleCompletion.Main
import StyleCompletion.Markup
import StyleCompletion.Matching
import StyleCompletion.Offer
import StyleCompletion.Path
import StyleCompletion.Project
import StyleCompletion.Rule
import StyleCompletion.Schema.Basic
import StyleCompletion.Schema.Codec
import StyleCompletion.Schema.Store
import StyleCompletion.Settings
import StyleCompletion.Strings
import StyleCompletion.Text.Alphabetic
import StyleCompletion.Text.Blank
import StyleCompletion.Text.Bytes
import StyleCompletion.Text.Cased
import StyleCompletion.Text.Lowercase
import StyleCompletion.Text.Mark
import StyleCompletion.Text.Number
import StyleCompletion.Text.Quoted
import StyleCompletion.Text.Ranges
import StyleCompletion.Text.Recent
import StyleCompletion.Text.Search
import StyleCompletion.Text.Visible
import StyleCompletion.Text.Word
import StyleCompletion.Proofs.Document.Lines
import StyleCompletion.Proofs.Document.Joined
import StyleCompletion.Proofs.Text.Classes
import StyleCompletion.Proofs.Text.Lowercase
import StyleCompletion.Proofs.Text.Runs
import StyleCompletion.Proofs.Block.Opening
import StyleCompletion.Proofs.Block.Search
import StyleCompletion.Proofs.Block.Stack
import StyleCompletion.Proofs.Engine.Course
import StyleCompletion.Proofs.Engine.LinesRead
import StyleCompletion.Proofs.Engine.WordAtEnd
import StyleCompletion.Proofs.Engine.Reports
import StyleCompletion.Proofs.Engine.Filter
import StyleCompletion.Proofs.Engine.TypedWord
import StyleCompletion.Proofs.Engine.PropertyName
import StyleCompletion.Proofs.Engine.AcceptedBlock
import StyleCompletion.Proofs.Engine.BlockBeforeCursor
import StyleCompletion.Proofs.Schema.Sharing
import StyleCompletion.Proofs.Schema.SingleFlight
import StyleCompletion.Proofs.Json.Record
import StyleCompletion.Proofs.Json.Spelling
import StyleCompletion.Proofs.Schema.Shapes
import StyleCompletion.Proofs.Schema.RoundTrip
import StyleCompletion.Proofs.Schema.Lifetime
import StyleCompletion.Proofs.Context.Assignment
import StyleCompletion.Proofs.Context.Patterns
import StyleCompletion.Proofs.Rule.Library
import StyleCompletion.Proofs.Document.Slices
import StyleCompletion.Proofs.Document.Offsets
import StyleCompletion.Proofs.Engine.EveryOffset
import StyleCompletion.Proofs.Path.Components
import StyleCompletion.Proofs.Project.Companion
import StyleCompletion.Proofs.Context.TypedName
import StyleCompletion.Proofs.Engine.AcceptedProperty
import StyleCompletion.Proofs.Engine.AcceptedTag
import StyleCompletion.Proofs.Candidate.Snippet
import StyleCompletion.Proofs.Json.Indented
import StyleCompletion.Proofs.Json.Numeral
import StyleCompletion.Proofs.CommandLine.Output
import StyleCompletion.Proofs.Context.PropertyValue
import StyleCompletion.Proofs.Text.Sigma
import StyleCompletion.Proofs.Text.Distinct
import StyleCompletion.Proofs.Text.Words
import StyleCompletion.Proofs.Text.Search
import StyleCompletion.Proofs.Text.ByteOrder
import StyleCompletion.Proofs.Markup.Lines
import StyleCompletion.Proofs.Markup.Elements
import StyleCompletion.Proofs.Strings.ReadBack
import StyleCompletion.Proofs.FileTree.Walk
import StyleCompletion.Proofs.Rule.Images
import StyleCompletion.Proofs.Json.UnknownMembers
import StyleCompletion.Proofs.Schema.RepeatedNames
import StyleCompletion.Proofs.Schema.UnknownMembers
import StyleCompletion.Proofs.Document.Positions
import StyleCompletion.Proofs.Engine.DistinctLabels
import StyleCompletion.Proofs.Text.CaseBlind
import StyleCompletion.Proofs.Project.LastStyles
import StyleCompletion.Proofs.Json.Accepted
import StyleCompletion.Proofs.Settings.Grammar
import StyleCompletion.Proofs.CommandLine.Cursor
import StyleCompletion.Proofs.Block.Nearest
import StyleCompletion.Proofs.Document.WordAtCursor
import StyleCompletion.Proofs.Image.Labels
