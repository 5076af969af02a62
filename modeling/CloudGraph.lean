import CloudGraph.Advisory.Chat
import CloudGraph.Advisory.Extract
import CloudGraph.Advisory.GraphSummary
import CloudGraph.Advisory.Service
import CloudGraph.Advisory.Suggestion
import CloudGraph.Catalog.Entries
import CloudGraph.Catalog.Kind
import CloudGraph.Check.Basic
import CloudGraph.Check.Configuration
import CloudGraph.Check.Connectivity
import CloudGraph.Check.Cost
import CloudGraph.Check.Security
import CloudGraph.Check.Suites
import CloudGraph.Command.Arguments
import CloudGraph.Command.Basic
import CloudGraph.Command.Display
import CloudGraph.Command.Environment
import CloudGraph.Command.Host
import CloudGraph.Command.Program
import CloudGraph.Command.Run
import CloudGraph.Command.Session
import CloudGraph.Decimal.Binary64
import CloudGraph.Decimal.Places
import CloudGraph.Decimal.Reader
import CloudGraph.Decimal.Shortest
import CloudGraph.Document
import CloudGraph.Error
import CloudGraph.Files.Fault
import CloudGraph.Files.Path
import CloudGraph.Files.Store
import CloudGraph.Generate.Arm
import CloudGraph.Generate.Artifact
import CloudGraph.Generate.CloudFormation
import CloudGraph.Generate.Dependencies
import CloudGraph.Generate.Generation
import CloudGraph.Generate.Hcl
import CloudGraph.Generate.Identifier
import CloudGraph.Generate.Mapping
import CloudGraph.Generate.Mapping.Arm
import CloudGraph.Generate.Mapping.CloudFormation
import CloudGraph.Generate.Mapping.Pulumi
import CloudGraph.Generate.Mapping.Terraform
import CloudGraph.Generate.Plan
import CloudGraph.Generate.Pulumi
import CloudGraph.Generate.Target
import CloudGraph.Generate.Template
import CloudGraph.Generate.Terraform
import CloudGraph.Graph.Basic
import CloudGraph.Graph.Reader
import CloudGraph.Graph.Role
import CloudGraph.Graph.View
import CloudGraph.Json.Basic
import CloudGraph.Json.Raw
import CloudGraph.Json.Writer
import CloudGraph.Logging.Directive
import CloudGraph.Logging.FieldPattern
import CloudGraph.Logging.FieldPattern.CharClass
import CloudGraph.Logging.FieldPattern.Escape
import CloudGraph.Logging.FieldPattern.Row
import CloudGraph.Logging.Filter
import CloudGraph.Logging.Level
import CloudGraph.Main
import CloudGraph.Proofs.Advisory.Brackets
import CloudGraph.Proofs.Advisory.Extract
import CloudGraph.Proofs.Advisory.FindingIds
import CloudGraph.Proofs.Advisory.Findings
import CloudGraph.Proofs.Advisory.Levels
import CloudGraph.Proofs.Advisory.Suggestions
import CloudGraph.Proofs.Catalog.Family
import CloudGraph.Proofs.Catalog.Role
import CloudGraph.Proofs.Check.Agreement
import CloudGraph.Proofs.Check.Dangling
import CloudGraph.Proofs.Check.Garbage
import CloudGraph.Proofs.Check.Gate
import CloudGraph.Proofs.Check.Inventory
import CloudGraph.Proofs.Check.Matched
import CloudGraph.Proofs.Check.Permuted
import CloudGraph.Proofs.Check.Remediation
import CloudGraph.Proofs.Check.Retraced
import CloudGraph.Proofs.Generate.Account
import CloudGraph.Proofs.Generate.Arguments
import CloudGraph.Proofs.Generate.Closure
import CloudGraph.Proofs.Generate.Closure.Pulumi
import CloudGraph.Proofs.Generate.Closure.Terraform
import CloudGraph.Proofs.Generate.Declarations
import CloudGraph.Proofs.Generate.Declarations.Pulumi
import CloudGraph.Proofs.Generate.Declarations.Terraform
import CloudGraph.Proofs.Generate.Dependencies.Acyclic
import CloudGraph.Proofs.Generate.Dependencies.Agenda
import CloudGraph.Proofs.Generate.Dependencies.Order
import CloudGraph.Proofs.Generate.Dependencies.Search
import CloudGraph.Proofs.Generate.Dependencies.Termination
import CloudGraph.Proofs.Generate.Entries
import CloudGraph.Proofs.Generate.Expressions
import CloudGraph.Proofs.Generate.Expressions.Distinct
import CloudGraph.Proofs.Generate.Expressions.Escapes
import CloudGraph.Proofs.Generate.Expressions.LiteralBody
import CloudGraph.Proofs.Generate.Expressions.Literals
import CloudGraph.Proofs.Generate.Failure
import CloudGraph.Proofs.Generate.Identifier.Allocation
import CloudGraph.Proofs.Generate.Identifier.Grammar
import CloudGraph.Proofs.Generate.Identifier.Numbering
import CloudGraph.Proofs.Generate.NameMap
import CloudGraph.Proofs.Generate.Parallel
import CloudGraph.Proofs.Generate.Plan.Cycles
import CloudGraph.Proofs.Generate.Plan.Names
import CloudGraph.Proofs.Generate.Plan.Order
import CloudGraph.Proofs.Generate.Plan.Resources
import CloudGraph.Proofs.Generate.Plan.Wiring
import CloudGraph.Proofs.Generate.Properties
import CloudGraph.Proofs.Generate.References
import CloudGraph.Proofs.Generate.Skipped
import CloudGraph.Proofs.Generate.Template
import CloudGraph.Proofs.Generate.Unread
import CloudGraph.Proofs.Generate.Values
import CloudGraph.Proofs.Generate.Words
import CloudGraph.Proofs.Graph.Matched
import CloudGraph.Proofs.Graph.Nearest
import CloudGraph.Proofs.Graph.Reachability
import CloudGraph.Proofs.Graph.RoundTrip
import CloudGraph.Proofs.Json.Grammar
import CloudGraph.Proofs.Json.Reader
import CloudGraph.Proofs.Json.RoundTrip
import CloudGraph.Proofs.Json.Spelling
import CloudGraph.Proofs.Rule.Ambient
import CloudGraph.Proofs.Rule.Evaluation
import CloudGraph.Proofs.Rule.FindingIds
import CloudGraph.Proofs.Rule.Score
import CloudGraph.Proofs.Rule.Summary
import CloudGraph.Proofs.Settings.Override
import CloudGraph.Proofs.SortedMap
import CloudGraph.Proofs.Text.Lines
import CloudGraph.Rule.Basic
import CloudGraph.Rule.Finding
import CloudGraph.Rule.Frameworks
import CloudGraph.Rule.Heuristics
import CloudGraph.Rule.Pattern
import CloudGraph.Rule.Report
import CloudGraph.Settings.Basic
import CloudGraph.Settings.Reader
import CloudGraph.SortedMap
import CloudGraph.Terminal.Style
import CloudGraph.Text.Blank
import CloudGraph.Text.Bytes
import CloudGraph.Text.CaseTable
import CloudGraph.Text.Casing
import CloudGraph.Text.CodeRun
import CloudGraph.Text.Composition
import CloudGraph.Text.CompositionTable
import CloudGraph.Text.Hexadecimal
import CloudGraph.Text.Letter
import CloudGraph.Timestamp
import CloudGraph.Toml.Basic
import CloudGraph.Toml.Reader
import CloudGraph.Toml.Scalar
import CloudGraph.Toml.Table
import CloudGraph.Toml.Writer
import CloudGraph.Total
import CloudGraph.Web.DomainName
import CloudGraph.Web.DomainName.ClassTable
import CloudGraph.Web.DomainName.MappingTable
import CloudGraph.Web.Exchange
import CloudGraph.Web.IpAddress
import CloudGraph.Web.Percent
import CloudGraph.Web.Punycode
import CloudGraph.Web.Url
import CloudGraph.Yaml.Core
import CloudGraph.Yaml.Cursor
import CloudGraph.Yaml.Node
import CloudGraph.Yaml.Node.Reader
import CloudGraph.Yaml.Scalar
import CloudGraph.Yaml.Token
import CloudGraph.Yaml.Writer
