import PageDirectives.Calendar.Date
import PageDirectives.Calendar.Iso
import PageDirectives.Cleanup.Marks
import PageDirectives.Cleanup.Run
import PageDirectives.Completion.Prompt
import PageDirectives.Completion.Resolve
import PageDirectives.Completion.Service
import PageDirectives.Condition
import PageDirectives.Directive.Argument
import PageDirectives.Directive.Engine
import PageDirectives.Directive.Failure
import PageDirectives.Directive.Form
import PageDirectives.Directive.Leftover
import PageDirectives.Directive.Registry
import PageDirectives.Directive.Scan
import PageDirectives.Directive.Script
import PageDirectives.Directive.Section
import PageDirectives.Directive.Trace
import PageDirectives.Header
import PageDirectives.Journal
import PageDirectives.Layout.Branch
import PageDirectives.Layout.Catalogue
import PageDirectives.Layout.Grid
import PageDirectives.Layout.Icon
import PageDirectives.Layout.Interactive
import PageDirectives.Layout.Listing
import PageDirectives.Layout.Media
import PageDirectives.Layout.Monokai
import PageDirectives.Layout.Note
import PageDirectives.Layout.Wrapper
import PageDirectives.Main
import PageDirectives.Markup.Lexer
import PageDirectives.Markup.Token
import PageDirectives.Number.Decimal
import PageDirectives.Number.Double
import PageDirectives.Number.Error
import PageDirectives.Number.Integer
import PageDirectives.Number.Shortest
import PageDirectives.Proofs.Cleanup.Callouts
import PageDirectives.Proofs.Cleanup.Comments
import PageDirectives.Proofs.Cleanup.Highlights
import PageDirectives.Proofs.Cleanup.Languages
import PageDirectives.Proofs.Cleanup.PageChoice
import PageDirectives.Proofs.Cleanup.Unwrapping
import PageDirectives.Proofs.Completion.Answers
import PageDirectives.Proofs.Completion.BlankPrompts
import PageDirectives.Proofs.Completion.Contents
import PageDirectives.Proofs.Completion.Disabled
import PageDirectives.Proofs.Completion.DocumentOrder
import PageDirectives.Proofs.Completion.LineForms
import PageDirectives.Proofs.Completion.Listings
import PageDirectives.Proofs.Completion.Models
import PageDirectives.Proofs.Condition.Literals
import PageDirectives.Proofs.Condition.Refusals
import PageDirectives.Proofs.Directive.Admission
import PageDirectives.Proofs.Directive.Arguments
import PageDirectives.Proofs.Directive.Calm
import PageDirectives.Proofs.Directive.DelimiterLines
import PageDirectives.Proofs.Directive.Leftover
import PageDirectives.Proofs.Directive.LineScan
import PageDirectives.Proofs.Directive.Marked
import PageDirectives.Proofs.Directive.Opening
import PageDirectives.Proofs.Directive.OptionChoices
import PageDirectives.Proofs.Directive.OptionEntries
import PageDirectives.Proofs.Directive.Outline
import PageDirectives.Proofs.Directive.Reduction
import PageDirectives.Proofs.Directive.Registering
import PageDirectives.Proofs.Directive.Registry
import PageDirectives.Proofs.Directive.Sections
import PageDirectives.Proofs.Directive.Stripping
import PageDirectives.Proofs.Engine.BlockInBlock
import PageDirectives.Proofs.Engine.Blocks
import PageDirectives.Proofs.Engine.Calls
import PageDirectives.Proofs.Engine.Completeness
import PageDirectives.Proofs.Engine.Failures
import PageDirectives.Proofs.Engine.InlineOnly
import PageDirectives.Proofs.Engine.InlineValues
import PageDirectives.Proofs.Engine.Isolation
import PageDirectives.Proofs.Engine.Listings
import PageDirectives.Proofs.Engine.LongAnswers
import PageDirectives.Proofs.Engine.NameAgreement
import PageDirectives.Proofs.Engine.Nesting
import PageDirectives.Proofs.Engine.Pass
import PageDirectives.Proofs.Engine.Placeholder
import PageDirectives.Proofs.Engine.Policy
import PageDirectives.Proofs.Engine.Rescans
import PageDirectives.Proofs.Engine.Steps
import PageDirectives.Proofs.Header.Fences
import PageDirectives.Proofs.Header.Rejoined
import PageDirectives.Proofs.Layout.CalloutArgs
import PageDirectives.Proofs.Layout.Catalogue
import PageDirectives.Proofs.Layout.Cells
import PageDirectives.Proofs.Layout.Delimiter
import PageDirectives.Proofs.Layout.Frame
import PageDirectives.Proofs.Layout.InsideOut
import PageDirectives.Proofs.Layout.LineStarts
import PageDirectives.Proofs.Layout.Listing
import PageDirectives.Proofs.Layout.Markup
import PageDirectives.Proofs.Layout.OneLine
import PageDirectives.Proofs.Markup.Lines
import PageDirectives.Proofs.Markup.Names
import PageDirectives.Proofs.Markup.Readings
import PageDirectives.Proofs.Markup.Rules
import PageDirectives.Proofs.Markup.Spelling
import PageDirectives.Proofs.Markup.Steps
import PageDirectives.Proofs.Number.Range
import PageDirectives.Proofs.Site.Files
import PageDirectives.Proofs.Site.Glob
import PageDirectives.Proofs.Site.Headers
import PageDirectives.Proofs.Site.Run
import PageDirectives.Proofs.Site.Stages
import PageDirectives.Proofs.Text.Cuts
import PageDirectives.Proofs.Text.LineClearing
import PageDirectives.Proofs.Text.LineMerge
import PageDirectives.Proofs.Text.LineSearch
import PageDirectives.Proofs.Text.LineSpans
import PageDirectives.Proofs.Text.Lines
import PageDirectives.Proofs.Text.Rounds
import PageDirectives.Proofs.Text.Rows
import PageDirectives.Proofs.Text.Search
import PageDirectives.Proofs.Text.Trimming
import PageDirectives.Proofs.Text.Weave
import PageDirectives.Proofs.Value.Words
import PageDirectives.Proofs.Value.Writing
import PageDirectives.Proofs.Yaml.BlankText
import PageDirectives.Proofs.Yaml.Faults
import PageDirectives.Proofs.Yaml.Stops
import PageDirectives.Settings.Basic
import PageDirectives.Settings.Load
import PageDirectives.Settings.Scalar
import PageDirectives.Settings.Variables
import PageDirectives.Site.CommandLine
import PageDirectives.Site.Files
import PageDirectives.Site.Glob
import PageDirectives.Site.Path
import PageDirectives.Site.Stage
import PageDirectives.Site.State
import PageDirectives.Text.Base64
import PageDirectives.Text.Basic
import PageDirectives.Text.Blank
import PageDirectives.Text.Case
import PageDirectives.Text.CaseTable
import PageDirectives.Text.Digit
import PageDirectives.Text.Escaped
import PageDirectives.Text.Json
import PageDirectives.Text.PrintableTable
import PageDirectives.Text.Quoted
import PageDirectives.Text.Search
import PageDirectives.Text.Toggles
import PageDirectives.Text.Utf8
import PageDirectives.Text.Word
import PageDirectives.Text.WordTable
import PageDirectives.Transform
import PageDirectives.Value.Basic
import PageDirectives.Value.Printer
import PageDirectives.Yaml.Block
import PageDirectives.Yaml.Cursor
import PageDirectives.Yaml.Error
import PageDirectives.Yaml.Kind
import PageDirectives.Yaml.Meaning
import PageDirectives.Yaml.Node
import PageDirectives.Yaml.Plain
import PageDirectives.Yaml.Quoted
import PageDirectives.Yaml.Reading
import PageDirectives.Yaml.Scalar
import PageDirectives.Yaml.Tag
import PageDirectives.Yaml.Timestamp
import PageDirectives.Yaml.Token
