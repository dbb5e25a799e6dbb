import RequestDispatch.Application
import RequestDispatch.Cli.Arguments
import RequestDispatch.Cli.Command
import RequestDispatch.Cli.Execution
import RequestDispatch.Cli.Run
import RequestDispatch.Controller.Error
import RequestDispatch.Controller.Naming
import RequestDispatch.Controller.Outcome
import RequestDispatch.Controller.Registry
import RequestDispatch.Controller.Resolver
import RequestDispatch.Decimal.Notation
import RequestDispatch.Decimal.Reading
import RequestDispatch.Decimal.Shortest
import RequestDispatch.Event.Basic
import RequestDispatch.Event.Delivery
import RequestDispatch.Event.Listening
import RequestDispatch.Event.Metrics
import RequestDispatch.FileSystem
import RequestDispatch.FileTree
import RequestDispatch.Http.Params
import RequestDispatch.Http.Request
import RequestDispatch.Http.RequestId
import RequestDispatch.Http.Response
import RequestDispatch.Http.Ulid
import RequestDispatch.Journal
import RequestDispatch.Json.Basic
import RequestDispatch.Json.Printer
import RequestDispatch.Json.Reader
import RequestDispatch.Kernel.Configured
import RequestDispatch.Kernel.Error
import RequestDispatch.Kernel.Handling
import RequestDispatch.Kernel.Pipeline
import RequestDispatch.Logging.Filter
import RequestDispatch.Logging.Output
import RequestDispatch.Logging.Rendering
import RequestDispatch.Logging.Sampling
import RequestDispatch.Logging.Settings
import RequestDispatch.Main
import RequestDispatch.NameMap
import RequestDispatch.Path
import RequestDispatch.Plugin.Broker
import RequestDispatch.Proofs.Cli.Resolution
import RequestDispatch.Proofs.Controller.Naming
import RequestDispatch.Proofs.Controller.Registry
import RequestDispatch.Proofs.Controller.Resolver
import RequestDispatch.Proofs.Controller.Substitution
import RequestDispatch.Proofs.Event.BuiltIn
import RequestDispatch.Proofs.Event.Counting
import RequestDispatch.Proofs.Event.Delivery
import RequestDispatch.Proofs.Event.Hearing
import RequestDispatch.Proofs.Event.Replies
import RequestDispatch.Proofs.Except
import RequestDispatch.Proofs.FileTree
import RequestDispatch.Proofs.Http.HeaderMap
import RequestDispatch.Proofs.Http.RequestId
import RequestDispatch.Proofs.Http.Response
import RequestDispatch.Proofs.Http.Uri
import RequestDispatch.Proofs.Kernel.Admission
import RequestDispatch.Proofs.Kernel.Configured
import RequestDispatch.Proofs.Kernel.Counting
import RequestDispatch.Proofs.Kernel.EarlyAnswers
import RequestDispatch.Proofs.Kernel.Failures
import RequestDispatch.Proofs.Kernel.Filtering
import RequestDispatch.Proofs.Kernel.Handling
import RequestDispatch.Proofs.Kernel.ListenerOrder
import RequestDispatch.Proofs.Kernel.Outcomes
import RequestDispatch.Proofs.Kernel.Realization
import RequestDispatch.Proofs.Kernel.Scenes
import RequestDispatch.Proofs.Kernel.Stages
import RequestDispatch.Proofs.Kernel.Transitions
import RequestDispatch.Proofs.LastSet
import RequestDispatch.Proofs.Logging.Sampling
import RequestDispatch.Proofs.Logging.SamplingRate
import RequestDispatch.Proofs.NameMap
import RequestDispatch.Proofs.Path
import RequestDispatch.Proofs.Plugin.Loading
import RequestDispatch.Proofs.Plugin.Machine
import RequestDispatch.Proofs.Plugin.Operations
import RequestDispatch.Proofs.Route.Additions
import RequestDispatch.Proofs.Route.Balance
import RequestDispatch.Proofs.Route.BaseUrl
import RequestDispatch.Proofs.Route.Binding
import RequestDispatch.Proofs.Route.Captures
import RequestDispatch.Proofs.Route.Derivation
import RequestDispatch.Proofs.Route.DerivedBaseUrl
import RequestDispatch.Proofs.Route.Dropping
import RequestDispatch.Proofs.Route.Extension
import RequestDispatch.Proofs.Route.Generation
import RequestDispatch.Proofs.Route.Layers
import RequestDispatch.Proofs.Route.Lexemes
import RequestDispatch.Proofs.Route.Matching
import RequestDispatch.Proofs.Route.Missing
import RequestDispatch.Proofs.Route.Reading
import RequestDispatch.Proofs.Route.Rebuilding
import RequestDispatch.Proofs.Route.Registration
import RequestDispatch.Proofs.Route.Rerouting
import RequestDispatch.Proofs.Route.RoundTrip
import RequestDispatch.Proofs.Route.Suffixes
import RequestDispatch.Proofs.Route.Table
import RequestDispatch.Proofs.Route.Tails
import RequestDispatch.Proofs.Template.Literals
import RequestDispatch.Proofs.Template.Parts
import RequestDispatch.Proofs.Text.Cut
import RequestDispatch.Proofs.View.Composition
import RequestDispatch.Proofs.View.Escaping
import RequestDispatch.Proofs.View.FileNames
import RequestDispatch.Proofs.View.Layouts
import RequestDispatch.Proofs.View.Unescaping
import RequestDispatch.Route.Basic
import RequestDispatch.Route.Derivation
import RequestDispatch.Route.Error
import RequestDispatch.Route.Generation
import RequestDispatch.Route.Matching
import RequestDispatch.Route.Pattern
import RequestDispatch.Route.Table
import RequestDispatch.Route.TokenTree
import RequestDispatch.Script.Application
import RequestDispatch.Script.Basic
import RequestDispatch.Settings.Basic
import RequestDispatch.Settings.Data
import RequestDispatch.Settings.Error
import RequestDispatch.Settings.Reader
import RequestDispatch.Template.Basic
import RequestDispatch.Template.Evaluation
import RequestDispatch.Template.Reader
import RequestDispatch.Template.Value
import RequestDispatch.Text.Alphanumeric
import RequestDispatch.Text.Cut
import RequestDispatch.Text.Printable
import RequestDispatch.Text.Quoted
import RequestDispatch.Text.Uppercase
import RequestDispatch.Text.Utf8
import RequestDispatch.View.Error
import RequestDispatch.View.Renderer
import RequestDispatch.View.Vars
import RequestDispatch.View.Views
import RequestDispatch.Yaml.Cursor
import RequestDispatch.Yaml.Node
import RequestDispatch.Yaml.Reader
import RequestDispatch.Yaml.Scalar
import RequestDispatch.Yaml.Text
