import ViewDoc.Action.BuiltIn
import ViewDoc.Action.Trigger
import ViewDoc.Bundle.Basic
import ViewDoc.Bundle.Export
import ViewDoc.Bundle.Write
import ViewDoc.Canonical.Basic
import ViewDoc.Canonical.Build
import ViewDoc.CommandLine.Arguments
import ViewDoc.CommandLine.Commands
import ViewDoc.CommandLine.Console
import ViewDoc.CommandLine.Literal
import ViewDoc.CommandLine.StyleName
import ViewDoc.CommandLine.Styled
import ViewDoc.CommandLine.Table
import ViewDoc.Component.Adapter
import ViewDoc.Component.Link
import ViewDoc.Component.Registry
import ViewDoc.Component.Resolution
import ViewDoc.Config.Basic
import ViewDoc.Config.Load
import ViewDoc.Decimal.Binary64
import ViewDoc.Decimal.Style
import ViewDoc.Decode
import ViewDoc.Decode.Scalar
import ViewDoc.Diagnostic
import ViewDoc.Document.Basic
import ViewDoc.Document.Load
import ViewDoc.Document.Logic
import ViewDoc.Document.Upgrade
import ViewDoc.Failure
import ViewDoc.Fault
import ViewDoc.Icon.Provider
import ViewDoc.Icon.Registry
import ViewDoc.Icon.Schedule
import ViewDoc.Json.Reader
import ViewDoc.Json.Writer
import ViewDoc.Log.Journal
import ViewDoc.Log.Lines
import ViewDoc.Log.Moment
import ViewDoc.Log.Record
import ViewDoc.Log.Template
import ViewDoc.Main
import ViewDoc.Node.Basic
import ViewDoc.Node.Declaration
import ViewDoc.Noted
import ViewDoc.Observers
import ViewDoc.Package
import ViewDoc.Proofs.Bundle.Contained
import ViewDoc.Proofs.Bundle.Dependencies
import ViewDoc.Proofs.Bundle.Files
import ViewDoc.Proofs.Bundle.Written
import ViewDoc.Proofs.Canonical.Fallback
import ViewDoc.Proofs.Canonical.Form
import ViewDoc.Proofs.Canonical.Idempotent
import ViewDoc.Proofs.Canonical.Place
import ViewDoc.Proofs.Canonical.Reports
import ViewDoc.Proofs.Canonical.Source
import ViewDoc.Proofs.Component.Adapters
import ViewDoc.Proofs.Component.Priority
import ViewDoc.Proofs.Component.Spelled
import ViewDoc.Proofs.Decode.Outcome
import ViewDoc.Proofs.Document.Loaded
import ViewDoc.Proofs.Document.Malformed
import ViewDoc.Proofs.Document.Readable
import ViewDoc.Proofs.Document.Records
import ViewDoc.Proofs.Document.Upgraded
import ViewDoc.Proofs.Document.Workspace
import ViewDoc.Proofs.Icon.Calls
import ViewDoc.Proofs.Icon.Course
import ViewDoc.Proofs.Icon.Current
import ViewDoc.Proofs.Icon.Heard
import ViewDoc.Proofs.Icon.Readiness
import ViewDoc.Proofs.Icon.Run
import ViewDoc.Proofs.Icon.Shown
import ViewDoc.Proofs.Icon.Sound
import ViewDoc.Proofs.Json.Read
import ViewDoc.Proofs.Nesting.Acyclic
import ViewDoc.Proofs.Nesting.Markup
import ViewDoc.Proofs.Nesting.Rank
import ViewDoc.Proofs.Nesting.Values
import ViewDoc.Proofs.Node.Distinct
import ViewDoc.Proofs.Node.Origin
import ViewDoc.Proofs.Node.Readable
import ViewDoc.Proofs.Package
import ViewDoc.Proofs.Ref.Answered
import ViewDoc.Proofs.Ref.Levels
import ViewDoc.Proofs.Ref.Met
import ViewDoc.Proofs.Ref.Occurrence
import ViewDoc.Proofs.Ref.Resolved
import ViewDoc.Proofs.Ref.Steps
import ViewDoc.Proofs.Route.Accepting
import ViewDoc.Proofs.Route.FirstMatch
import ViewDoc.Proofs.Route.Inherited
import ViewDoc.Proofs.Route.Latest
import ViewDoc.Proofs.Route.Listed
import ViewDoc.Proofs.Route.Prefix
import ViewDoc.Proofs.Route.Reordered
import ViewDoc.Proofs.Route.Selected
import ViewDoc.Proofs.Route.Siblings
import ViewDoc.Proofs.Route.Written
import ViewDoc.Proofs.Scope.Inherits
import ViewDoc.Proofs.Scope.Lists
import ViewDoc.Proofs.Scope.LoopNames
import ViewDoc.Proofs.Scope.Member
import ViewDoc.Proofs.Storage.Frame
import ViewDoc.Proofs.Text.Identifier
import ViewDoc.Proofs.Text.Split
import ViewDoc.Proofs.Text.Trimmed
import ViewDoc.Proofs.Tree.Positions
import ViewDoc.Proofs.Tsx.Aliases
import ViewDoc.Proofs.Tsx.Attributes
import ViewDoc.Proofs.Tsx.Clash
import ViewDoc.Proofs.Tsx.Closed
import ViewDoc.Proofs.Tsx.Denoted
import ViewDoc.Proofs.Tsx.Free
import ViewDoc.Proofs.Tsx.Gathers
import ViewDoc.Proofs.Tsx.Hygiene
import ViewDoc.Proofs.Tsx.Imports
import ViewDoc.Proofs.Tsx.Inherits
import ViewDoc.Proofs.Tsx.Name
import ViewDoc.Proofs.Tsx.Navigation
import ViewDoc.Proofs.Tsx.Nodes
import ViewDoc.Proofs.Tsx.Occurrence
import ViewDoc.Proofs.Tsx.Places
import ViewDoc.Proofs.Tsx.Ranking
import ViewDoc.Proofs.Tsx.Reserved
import ViewDoc.Proofs.Tsx.Shadow
import ViewDoc.Proofs.Tsx.Stands
import ViewDoc.Proofs.Tsx.Stepwise
import ViewDoc.Proofs.Tsx.Stylesheets
import ViewDoc.Proofs.Tsx.TagNames
import ViewDoc.Proofs.Tsx.Values
import ViewDoc.Proofs.Validation.Agreement
import ViewDoc.Proofs.Validation.Ambiguous
import ViewDoc.Proofs.Validation.Coded
import ViewDoc.Proofs.Validation.EmptyNode
import ViewDoc.Proofs.Value.Distinct
import ViewDoc.Proofs.Value.Equal
import ViewDoc.Proofs.Value.FirstBy
import ViewDoc.Proofs.Value.Sorted
import ViewDoc.Proofs.View.Alike
import ViewDoc.Proofs.View.Coherence
import ViewDoc.Proofs.View.Counting
import ViewDoc.Proofs.View.Listed
import ViewDoc.Proofs.View.Nearest
import ViewDoc.Proofs.View.Selection
import ViewDoc.Proofs.View.Trigger
import ViewDoc.Proofs.View.Updated
import ViewDoc.Ref.Basic
import ViewDoc.Ref.Params
import ViewDoc.Ref.Path
import ViewDoc.Ref.Resolve
import ViewDoc.Route.Manifest
import ViewDoc.Route.Match
import ViewDoc.Route.Path
import ViewDoc.Route.Select
import ViewDoc.Scope.Data
import ViewDoc.Scope.ListPlan
import ViewDoc.Storage.Basic
import ViewDoc.Text.Blank
import ViewDoc.Text.Case
import ViewDoc.Text.CaseTable
import ViewDoc.Text.Digit
import ViewDoc.Text.Emoji
import ViewDoc.Text.Entity
import ViewDoc.Text.EntityTable
import ViewDoc.Text.Letter
import ViewDoc.Text.Quoted
import ViewDoc.Text.Ranges
import ViewDoc.Text.Split
import ViewDoc.Text.Width
import ViewDoc.Toml.Reader
import ViewDoc.Toml.Table
import ViewDoc.Toml.Token
import ViewDoc.Tree
import ViewDoc.Tsx.Draft
import ViewDoc.Tsx.Element
import ViewDoc.Tsx.Expr
import ViewDoc.Tsx.Handler
import ViewDoc.Tsx.Markup
import ViewDoc.Tsx.Module
import ViewDoc.Tsx.Name
import ViewDoc.Tsx.Reference
import ViewDoc.Tsx.Statement
import ViewDoc.Validation
import ViewDoc.Value.Basic
import ViewDoc.Value.Display
import ViewDoc.Value.Entries
import ViewDoc.Value.Key
import ViewDoc.Value.Pairs
import ViewDoc.View.Basic
import ViewDoc.View.Dispatch
import ViewDoc.View.Render
import ViewDoc.View.Session
