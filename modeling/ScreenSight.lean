import ScreenSight.Command.Arguments
import ScreenSight.Command.FileTree
import ScreenSight.Command.Path
import ScreenSight.Command.Run
import ScreenSight.Component.Basic
import ScreenSight.Component.Model
import ScreenSight.Component.Record
import ScreenSight.Containment.Hierarchy
import ScreenSight.Containment.Pairs
import ScreenSight.Decimal.Shortest
import ScreenSight.Detection.Bracket
import ScreenSight.Detection.Detector
import ScreenSight.Detection.Frame
import ScreenSight.Detection.Identifier
import ScreenSight.Detection.Pipeline
import ScreenSight.Failure
import ScreenSight.Geometry.Box
import ScreenSight.Geometry.Coordinate
import ScreenSight.Geometry.Point
import ScreenSight.Grid.Basic
import ScreenSight.Grid.Limits
import ScreenSight.Grid.Region
import ScreenSight.Hunt.Block
import ScreenSight.Hunt.Interpreter
import ScreenSight.Hunt.Lexer
import ScreenSight.Hunt.Pattern
import ScreenSight.Hunt.Position
import ScreenSight.Hunt.Reader
import ScreenSight.Hunt.Registry
import ScreenSight.Hunt.Roster
import ScreenSight.Hunt.Rule
import ScreenSight.Hunt.Rule.Link
import ScreenSight.Hunt.Rule.Pluck
import ScreenSight.Hunt.Rule.Tag
import ScreenSight.Hunt.Token
import ScreenSight.Json.Printer
import ScreenSight.Main
import ScreenSight.Ordered.Map
import ScreenSight.Ordered.Real
import ScreenSight.Ordered.Set
import ScreenSight.Ordered.Text
import ScreenSight.Recognition.Context
import ScreenSight.Recognition.Matching
import ScreenSight.Recognition.Processor
import ScreenSight.Recognition.Report
import ScreenSight.Recognition.View
import ScreenSight.Regex.CharClass
import ScreenSight.Regex.Footprint
import ScreenSight.Regex.Fragment
import ScreenSight.Regex.Landmark
import ScreenSight.Regex.Pattern
import ScreenSight.Regex.Plan
import ScreenSight.Regex.Program
import ScreenSight.Regex.Reader
import ScreenSight.Regex.Search
import ScreenSight.Regex.SlotTable
import ScreenSight.Regex.Threads
import ScreenSight.Regex.Utf8
import ScreenSight.Regex.Walk
import ScreenSight.Settings.Basic
import ScreenSight.Settings.Reading
import ScreenSight.Spatial.Index
import ScreenSight.Spatial.Layout
import ScreenSight.Terminal.Action
import ScreenSight.Terminal.Canvas
import ScreenSight.Terminal.Decoder
import ScreenSight.Text.Blank
import ScreenSight.Text.CaseFold
import ScreenSight.Text.Digits
import ScreenSight.Text.Letters
import ScreenSight.Text.Ranges
import ScreenSight.Text.Words
import ScreenSight.Value
import ScreenSight.Word
import ScreenSight.Yaml.Document
import ScreenSight.Yaml.Node
import ScreenSight.Yaml.Numeral
import ScreenSight.Yaml.Source
import ScreenSight.Yaml.Token
import ScreenSight.Yaml.Token.Lexer
import ScreenSight.Yaml.Token.Scalar
import ScreenSight.Proofs.Ordered.Map
import ScreenSight.Proofs.Ordered.Set
import ScreenSight.Proofs.Geometry.Box
import ScreenSight.Proofs.Spatial.Layout
import ScreenSight.Proofs.Spatial.Index
import ScreenSight.Proofs.Spatial.Refinement
import ScreenSight.Proofs.Containment.Placement
import ScreenSight.Proofs.Ordered.Sorting
import ScreenSight.Proofs.Containment.Pairs
import ScreenSight.Proofs.Hunt.Roster
import ScreenSight.Proofs.Hunt.Registry
import ScreenSight.Proofs.Recognition.Loading
import ScreenSight.Proofs.Containment.Hierarchy
import ScreenSight.Proofs.Recognition.Stages
import ScreenSight.Proofs.Recognition.Repetition
import ScreenSight.Proofs.Hunt.Interpreter
import ScreenSight.Proofs.Recognition.Failing
import ScreenSight.Proofs.Hunt.Grammar
import ScreenSight.Proofs.Hunt.Lexer
import ScreenSight.Proofs.Hunt.Writing
import ScreenSight.Proofs.Grid.Reading
import ScreenSight.Proofs.Terminal.Screen
import ScreenSight.Proofs.Terminal.Decoder
import ScreenSight.Proofs.Containment.Forest
import ScreenSight.Proofs.Detection.Identifier
import ScreenSight.Proofs.Detection.Pipeline
import ScreenSight.Proofs.Detection.Shapes
import ScreenSight.Proofs.Recognition.Report
import ScreenSight.Proofs.Terminal.PlainText
import ScreenSight.Proofs.Recognition.Relationships
import ScreenSight.Proofs.Recognition.Publication
import ScreenSight.Proofs.Recognition.Tracking
import ScreenSight.Proofs.Hunt.Position
import ScreenSight.Proofs.Hunt.Break
import ScreenSight.Proofs.Hunt.Joining
import ScreenSight.Proofs.Containment.Parents
import ScreenSight.Proofs.Detection.Brackets
import ScreenSight.Proofs.Detection.Frames
import ScreenSight.Proofs.Terminal.Renditions
import ScreenSight.Proofs.Containment.Closure
import ScreenSight.Proofs.Spatial.Query
import ScreenSight.Proofs.Containment.Annotation
import ScreenSight.Proofs.Detection.Interiors
import ScreenSight.Proofs.Containment.Repetition
import ScreenSight.Proofs.Recognition.Linking
import ScreenSight.Proofs.Ordered.Real
import ScreenSight.Proofs.Recognition.Ranking
import ScreenSight.Proofs.Hunt.Warnings
import ScreenSight.Proofs.Recognition.Complaints
import ScreenSight.Proofs.Hunt.Longest
import ScreenSight.Proofs.Hunt.Cuts
import ScreenSight.Proofs.Hunt.Viability
import ScreenSight.Proofs.Terminal.Movement
import ScreenSight.Proofs.Containment.Remaining
import ScreenSight.Proofs.Geometry.Tests
import ScreenSight.Proofs.Grid.Views
import ScreenSight.Proofs.Component.Record
import ScreenSight.Proofs.Component.Repeated
import ScreenSight.Proofs.Grid.Lines
import ScreenSight.Proofs.Regex.Threads
import ScreenSight.Proofs.Regex.Search
