import SecretWeave.Bracket
import SecretWeave.Child
import SecretWeave.ChildEnvironment
import SecretWeave.CommandLine
import SecretWeave.CommandLine.Invocation
import SecretWeave.CommandLine.Option
import SecretWeave.Config
import SecretWeave.Config.File
import SecretWeave.Decimal.Binary64
import SecretWeave.Decimal.Read
import SecretWeave.Decimal.Shortest
import SecretWeave.Disk
import SecretWeave.Disk.Standard
import SecretWeave.Dotenv
import SecretWeave.Dotenv.Line
import SecretWeave.Dotenv.Value
import SecretWeave.EnvFile
import SecretWeave.Environment
import SecretWeave.Failure
import SecretWeave.Fault
import SecretWeave.Inject
import SecretWeave.Main
import SecretWeave.OrderedMap
import SecretWeave.Piece
import SecretWeave.Proofs.Fetching
import SecretWeave.Proofs.Fusing
import SecretWeave.Proofs.Meaning
import SecretWeave.Proofs.OrderedMap
import SecretWeave.Proofs.Tag.Closing
import SecretWeave.Proofs.Tag.Cutting
import SecretWeave.Proofs.Template.Grammar
import SecretWeave.Proofs.Template.Rendering
import SecretWeave.Proofs.Template.Substitution
import SecretWeave.Proofs.Traversal
import SecretWeave.Shell.Arithmetic
import SecretWeave.Shell.Builtin
import SecretWeave.Shell.Command
import SecretWeave.Shell.Command.Script
import SecretWeave.Shell.Command.Word
import SecretWeave.Shell.Expansion
import SecretWeave.Shell.Field
import SecretWeave.Shell.Format
import SecretWeave.Shell.Integer
import SecretWeave.Shell.Octets
import SecretWeave.Shell.Pattern
import SecretWeave.Shell.Program.Call
import SecretWeave.Shell.Program.Display
import SecretWeave.Shell.Program.Lines
import SecretWeave.Shell.Program.Paths
import SecretWeave.Shell.Program.Search
import SecretWeave.Shell.Program.Table
import SecretWeave.Shell.Redirection
import SecretWeave.Shell.Regex
import SecretWeave.Shell.Run
import SecretWeave.Shell.Session
import SecretWeave.Shell.Signal
import SecretWeave.Shell.Start
import SecretWeave.Shell.Stream
import SecretWeave.Shell.Test
import SecretWeave.Source
import SecretWeave.Source.Kind
import SecretWeave.Source.Settings
import SecretWeave.Template.Basic
import SecretWeave.Template.Fill
import SecretWeave.Template.Parse
import SecretWeave.Text.Alphanumeric
import SecretWeave.Text.Basic
import SecretWeave.Text.Digits
import SecretWeave.Text.Name
import SecretWeave.Text.Ranges
import SecretWeave.Text.Utf8
import SecretWeave.Toml.Document
import SecretWeave.Toml.Layout
import SecretWeave.Toml.Quoted
import SecretWeave.Toml.Value
import SecretWeave.Toml.Word
import SecretWeave.Url
import SecretWeave.Url.Domain
import SecretWeave.Url.Domain.Composition
import SecretWeave.Url.Domain.Direction
import SecretWeave.Url.Domain.Form
import SecretWeave.Url.Domain.Joining
import SecretWeave.Url.Domain.Punycode
import SecretWeave.Url.Host
import SecretWeave.Url.Ipv6
import SecretWeave.Url.Path
import SecretWeave.Url.Percent
import SecretWeave.Variables
import SecretWeave.Version
import SecretWeave.World
import SecretWeave.Yaml.Cell
import SecretWeave.Yaml.Document
import SecretWeave.Yaml.Event
import SecretWeave.Yaml.Plain
import SecretWeave.Yaml.Token.Basic
import SecretWeave.Yaml.Token.Property
import SecretWeave.Yaml.Token.Scalar
import SecretWeave.Yaml.Token.Stream
import SecretWeave.Yaml.Value
import SecretWeave.Proofs.EnvFile
import SecretWeave.Proofs.ChildEnvironment
import SecretWeave.Proofs.Asking
import SecretWeave.Proofs.Steering
import SecretWeave.Proofs.Layers
import SecretWeave.Proofs.Storing
import SecretWeave.Proofs.Tag.Partition
import SecretWeave.Proofs.Template.Blame
import SecretWeave.Proofs.Tag.Joining
import SecretWeave.Proofs.Template.Joining
import SecretWeave.Proofs.Template.Escaping
import SecretWeave.Proofs.EnvFile.Lines
import SecretWeave.Proofs.EnvFile.Values
import SecretWeave.Proofs.Template.Soundness
import SecretWeave.Proofs.Soundness
import SecretWeave.Proofs.Tag.Agreeing
import SecretWeave.Proofs.Template.Nesting
import SecretWeave.Proofs.Versions
import SecretWeave.Proofs.Disk
import SecretWeave.Proofs.Snapshot
import SecretWeave.Proofs.Delivering
import SecretWeave.Proofs.Template.Dependence
import SecretWeave.Proofs.Resolving
import SecretWeave.Proofs.Template.Showing
import SecretWeave.Proofs.Way
import SecretWeave.Proofs.NamedFile
import SecretWeave.Proofs.Variables
import SecretWeave.Proofs.Yaml.Keys
import SecretWeave.Proofs.EnvFile.Pairs
import SecretWeave.Proofs.Misnaming
import SecretWeave.Proofs.Utf8
import SecretWeave.Proofs.Toml.Quoted
import SecretWeave.Proofs.Config
import SecretWeave.Proofs.Disk.Making
import SecretWeave.Proofs.Saving
import SecretWeave.Proofs.Tag.Matching
import SecretWeave.Proofs.Placing
import SecretWeave.Proofs.Tag.Places
import SecretWeave.Proofs.Tag.Rescanning
