import Explainer.Config
import Explainer.Config.Reader
import Explainer.Event
import Explainer.Interval
import Explainer.Interval.Exchange
import Explainer.Json.Basic
import Explainer.Json.Binary64
import Explainer.Json.Document
import Explainer.Json.Path
import Explainer.Json.Reader
import Explainer.Json.Writer
import Explainer.Load.Extractors
import Explainer.Load.Files
import Explainer.Load.Loader
import Explainer.Load.Settle
import Explainer.Load.Source
import Explainer.Markup.Cursor
import Explainer.Markup.Element
import Explainer.Markup.ElementName
import Explainer.Markup.Extract
import Explainer.Markup.Grammar
import Explainer.Markup.Highlight
import Explainer.Markup.Lexer
import Explainer.Markup.Node
import Explainer.Markup.Reading
import Explainer.Markup.Recovery
import Explainer.Markup.Subtree
import Explainer.Pane
import Explainer.Proofs.ByteSlices
import Explainer.Proofs.Conservation
import Explainer.Proofs.DecimalText
import Explainer.Proofs.DeclaredTemplates
import Explainer.Proofs.ElementOrder
import Explainer.Proofs.ElementRanges
import Explainer.Proofs.Entries
import Explainer.Proofs.EscapedText
import Explainer.Proofs.FieldDescent
import Explainer.Proofs.FieldPath
import Explainer.Proofs.FieldPlaces
import Explainer.Proofs.GroupRun
import Explainer.Proofs.GuardedFields
import Explainer.Proofs.HighlightScan
import Explainer.Proofs.IntervalGrammar
import Explainer.Proofs.IntervalText
import Explainer.Proofs.JsonShape
import Explainer.Proofs.LoadEvents
import Explainer.Proofs.LoadsInTurn
import Explainer.Proofs.LoopUnrolling
import Explainer.Proofs.LooseTags
import Explainer.Proofs.MarkedSets
import Explainer.Proofs.NumberText
import Explainer.Proofs.Numeral
import Explainer.Proofs.PaneHistory
import Explainer.Proofs.RecordFields
import Explainer.Proofs.RegistryHistory
import Explainer.Proofs.RenderMarkup
import Explainer.Proofs.RenderRounds
import Explainer.Proofs.RenderedInterval
import Explainer.Proofs.SequentialLoad
import Explainer.Proofs.SettledGroup
import Explainer.Proofs.SharedRegistry
import Explainer.Proofs.Strictness
import Explainer.Proofs.TagPieces
import Explainer.Proofs.TagSearch
import Explainer.Proofs.TemplateList
import Explainer.Proofs.TimedRun
import Explainer.Proofs.TokenCut
import Explainer.Proofs.TokenLoop
import Explainer.Proofs.TreeFields
import Explainer.Proofs.TreeMachine
import Explainer.Proofs.TreePrefix
import Explainer.Proofs.TreePrint
import Explainer.Proofs.TreeSimulation
import Explainer.Proofs.TreeWalk
import Explainer.Proofs.ValuePositions
import Explainer.Proofs.WholeLines
import Explainer.Proofs.Words
import Explainer.Record
import Explainer.Regex.Basic
import Explainer.Regex.CharSet
import Explainer.Regex.Class
import Explainer.Regex.Escape
import Explainer.Regex.Parser
import Explainer.Regex.Program
import Explainer.Regex.Reading
import Explainer.Regex.Search
import Explainer.Registry
import Explainer.Renderer
import Explainer.Session
import Explainer.Template.Escape
import Explainer.Template.Path
import Explainer.Template.Pattern
import Explainer.Template.Printer
import Explainer.Template.Render
import Explainer.Template.Token
import Explainer.Template.Tree
import Explainer.Text.Alphanumeric
import Explainer.Text.Basic
import Explainer.Text.CaseFolding
import Explainer.Text.Duration
import Explainer.Text.Number
import Explainer.Text.Printable
import Explainer.Text.Quoted
import Explainer.Yaml.Lexer
import Explainer.Yaml.Node
import Explainer.Yaml.Scalar
import Explainer.Yaml.Spot
import Explainer.Yaml.Token
import Explainer.Markup.Parse
import Explainer.Proofs.RegexProgram
import Explainer.Proofs.RegexSearch
import Explainer.Proofs.TagPatterns
