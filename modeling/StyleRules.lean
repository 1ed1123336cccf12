import StyleRules.Action
import StyleRules.Callable.Apply
import StyleRules.Configuration.Basic
import StyleRules.Configuration.Defaults
import StyleRules.Configuration.Live
import StyleRules.Configuration.Merge
import StyleRules.Configuration.Schema
import StyleRules.Configuration.Transformer
import StyleRules.Configuration.Validation
import StyleRules.Decimal.Binary
import StyleRules.Decimal.Shortest
import StyleRules.Decimal.Text
import StyleRules.Diagnostics.Basic
import StyleRules.Diagnostics.Fault
import StyleRules.Diagnostics.Report
import StyleRules.Element
import StyleRules.Failure
import StyleRules.Handler
import StyleRules.Host.Assignments
import StyleRules.Host.Basic
import StyleRules.Host.Path
import StyleRules.Json.Reader
import StyleRules.Json.Writer
import StyleRules.Main
import StyleRules.Matcher.Build
import StyleRules.Matcher.Evaluate
import StyleRules.Matcher.StyleName
import StyleRules.Matcher.Template
import StyleRules.Message
import StyleRules.Orchestration
import StyleRules.Pattern.Match
import StyleRules.Pattern.Reader
import StyleRules.Pattern.Syntax
import StyleRules.Plugin.Basic
import StyleRules.Proofs.Configuration.Accepting
import StyleRules.Proofs.Configuration.Conforming
import StyleRules.Proofs.Configuration.Data
import StyleRules.Proofs.Configuration.Deciding
import StyleRules.Proofs.Configuration.Defaulting
import StyleRules.Proofs.Configuration.Expanding
import StyleRules.Proofs.Configuration.Exporting
import StyleRules.Proofs.Configuration.Layering
import StyleRules.Proofs.Configuration.Loading
import StyleRules.Proofs.Configuration.Merging
import StyleRules.Proofs.Configuration.Placing
import StyleRules.Proofs.Configuration.Regrouping
import StyleRules.Proofs.Configuration.Satisfying
import StyleRules.Proofs.Configuration.Setting
import StyleRules.Proofs.Configuration.Validating
import StyleRules.Proofs.Diagnostics.Clashing
import StyleRules.Proofs.Diagnostics.Providers
import StyleRules.Proofs.Diagnostics.Reports
import StyleRules.Proofs.Diagnostics.Suggesting
import StyleRules.Proofs.Element.Walking
import StyleRules.Proofs.Handler.Answering
import StyleRules.Proofs.Json.Flat
import StyleRules.Proofs.Json.Quoting
import StyleRules.Proofs.Json.ReadBack
import StyleRules.Proofs.Json.Reordering
import StyleRules.Proofs.Json.Texts
import StyleRules.Proofs.Lists
import StyleRules.Proofs.Matcher.Answering
import StyleRules.Proofs.Matcher.ChildBounds
import StyleRules.Proofs.Matcher.Conditions
import StyleRules.Proofs.Matcher.Fallback
import StyleRules.Proofs.Matcher.Fitting
import StyleRules.Proofs.Matcher.Narrowing
import StyleRules.Proofs.Matcher.Opacity
import StyleRules.Proofs.Matcher.Shapes
import StyleRules.Proofs.Orchestration.Advice
import StyleRules.Proofs.Orchestration.Compiling
import StyleRules.Proofs.Orchestration.Dependencies
import StyleRules.Proofs.Orchestration.Evaluating
import StyleRules.Proofs.Orchestration.Explaining
import StyleRules.Proofs.Orchestration.Interference
import StyleRules.Proofs.Orchestration.Matching
import StyleRules.Proofs.Orchestration.Readiness
import StyleRules.Proofs.Orchestration.Reporting
import StyleRules.Proofs.Orchestration.Setup
import StyleRules.Proofs.Orchestration.SetupOrder
import StyleRules.Proofs.Outcomes
import StyleRules.Proofs.Registry.Asking
import StyleRules.Proofs.Registry.Batch
import StyleRules.Proofs.Registry.Degrading
import StyleRules.Proofs.Registry.Detached
import StyleRules.Proofs.Registry.Escaping
import StyleRules.Proofs.Registry.FallbackChain
import StyleRules.Proofs.Registry.Footprints
import StyleRules.Proofs.Registry.History
import StyleRules.Proofs.Registry.Interrupted
import StyleRules.Proofs.Registry.Naming
import StyleRules.Proofs.Registry.Plugins
import StyleRules.Proofs.Registry.Precedence
import StyleRules.Proofs.Registry.Reported
import StyleRules.Proofs.Registry.Resolution
import StyleRules.Proofs.Registry.SetupMessages
import StyleRules.Proofs.Registry.ShippedTypes
import StyleRules.Proofs.Registry.Skipping
import StyleRules.Proofs.Registry.Strategies
import StyleRules.Proofs.Registry.Stylesheets
import StyleRules.Proofs.Registry.Writing
import StyleRules.Proofs.Suggestion.Distance
import StyleRules.Proofs.Suggestion.Names
import StyleRules.Proofs.Text.Search
import StyleRules.Proofs.Transform.Asking
import StyleRules.Proofs.Transform.Calls
import StyleRules.Proofs.Transform.ComplexMatcher
import StyleRules.Proofs.Transform.Enabling
import StyleRules.Proofs.Transform.Evicting
import StyleRules.Proofs.Transform.Keys
import StyleRules.Proofs.Transform.Programs
import StyleRules.Proofs.Transform.Remembering
import StyleRules.Proofs.Transform.Selecting
import StyleRules.Proofs.Transform.Sheets
import StyleRules.Proofs.Transform.Steady
import StyleRules.Proofs.Transform.StockMatchers
import StyleRules.Proofs.Transform.StockQueries
import StyleRules.Proofs.Transform.Templates
import StyleRules.Proofs.Value.Comparing
import StyleRules.Proofs.Value.Equality
import StyleRules.Proofs.Value.Numbers
import StyleRules.Proofs.Value.Ranking
import StyleRules.Proofs.Value.Reading
import StyleRules.Proofs.Value.ScalarText
import StyleRules.Proofs.Value.TextKeys
import StyleRules.Proofs.Value.TextOrder
import StyleRules.Proofs.Xml.Attributes
import StyleRules.Proofs.Xml.Elements
import StyleRules.Proofs.Xml.FieldNames
import StyleRules.Proofs.Xml.ReadBack
import StyleRules.Proofs.Xml.RootAttributes
import StyleRules.Proofs.Xml.Tokens
import StyleRules.Registry.Basic
import StyleRules.Registry.Catalogue
import StyleRules.Registry.Resolve
import StyleRules.Registry.Setup
import StyleRules.Suggestion.Distance
import StyleRules.Suggestion.Names
import StyleRules.Text.Bytes
import StyleRules.Text.Case
import StyleRules.Text.CaseTable
import StyleRules.Text.Classes
import StyleRules.Text.Ranges
import StyleRules.Text.Search
import StyleRules.Transform.Amount
import StyleRules.Transform.Engine
import StyleRules.Transform.Evaluate
import StyleRules.Transform.Program
import StyleRules.Transform.XPath
import StyleRules.Value.Access
import StyleRules.Value.Basic
import StyleRules.Value.Compare
import StyleRules.Value.Date
import StyleRules.Value.Mapping
import StyleRules.Value.Text
import StyleRules.Xml.Document
import StyleRules.Xml.Node
import StyleRules.Xml.Outline
import StyleRules.Xml.Reader
import StyleRules.Xml.Token
import StyleRules.Xml.Writer
import StyleRules.Yaml.Cursor
import StyleRules.Yaml.Layout
import StyleRules.Yaml.Node
import StyleRules.Yaml.Reader
import StyleRules.Yaml.Scalar
import StyleRules.Yaml.ScalarText
import StyleRules.Yaml.Style
import StyleRules.Yaml.Writer
