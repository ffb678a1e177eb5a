import VariantPlan.Binary64.Basic
import VariantPlan.Binary64.Decimal
import VariantPlan.Choice
import VariantPlan.CommandLine.Arguments
import VariantPlan.CommandLine.Failure
import VariantPlan.CommandLine.LogFilter
import VariantPlan.CommandLine.Report
import VariantPlan.CommandLine.Run
import VariantPlan.Compiler.Basic
import VariantPlan.Compiler.Standard
import VariantPlan.Dependency.Package
import VariantPlan.Dependency.Requirement
import VariantPlan.Dependency.Rule
import VariantPlan.Digest.Sha256
import VariantPlan.Document.Fingerprint
import VariantPlan.Document.Identity
import VariantPlan.Document.Plan
import VariantPlan.Document.Request
import VariantPlan.Document.Variant
import VariantPlan.Json.Basic
import VariantPlan.Json.Number
import VariantPlan.Json.Parser
import VariantPlan.Json.Printer
import VariantPlan.Json.Quoted
import VariantPlan.Json.Reader
import VariantPlan.Log.Event
import VariantPlan.Main
import VariantPlan.Packaging.Collect
import VariantPlan.Packaging.Error
import VariantPlan.Packaging.Prune
import VariantPlan.Packaging.Scan
import VariantPlan.Path
import VariantPlan.Pattern.Basic
import VariantPlan.Pattern.Class
import VariantPlan.Pattern.Escape
import VariantPlan.Pattern.Scope
import VariantPlan.Plan.Artifact
import VariantPlan.Plan.Assets
import VariantPlan.Plan.Basic
import VariantPlan.Plan.Cache
import VariantPlan.Plan.Identity
import VariantPlan.Plan.Layout
import VariantPlan.Plan.Product
import VariantPlan.Plan.SharedCache
import VariantPlan.Proofs.Assignments
import VariantPlan.Proofs.Basic
import VariantPlan.Proofs.Building
import VariantPlan.Proofs.Cache.Concurrency
import VariantPlan.Proofs.Cache.Consistency
import VariantPlan.Proofs.Cache.Session
import VariantPlan.Proofs.CommandLine.Matrix
import VariantPlan.Proofs.CommandLine.Prune
import VariantPlan.Proofs.CommandLine.Source
import VariantPlan.Proofs.CommandLine.Views
import VariantPlan.Proofs.CompiledIdentity
import VariantPlan.Proofs.Compiler.Spelling
import VariantPlan.Proofs.Compiler.Standard
import VariantPlan.Proofs.Compiler.Version
import VariantPlan.Proofs.Dependency.Actions
import VariantPlan.Proofs.Dependency.Resolution
import VariantPlan.Proofs.Dependency.Sharing
import VariantPlan.Proofs.Dependency.Warnings
import VariantPlan.Proofs.Document.Identity
import VariantPlan.Proofs.Document.Plan
import VariantPlan.Proofs.Document.PlanEquality
import VariantPlan.Proofs.Document.Variant
import VariantPlan.Proofs.Family
import VariantPlan.Proofs.Interchange
import VariantPlan.Proofs.Json.Agreement
import VariantPlan.Proofs.Json.Canonical
import VariantPlan.Proofs.Json.Nesting
import VariantPlan.Proofs.Json.Parsed
import VariantPlan.Proofs.Json.ReadBack
import VariantPlan.Proofs.Json.Records
import VariantPlan.Proofs.Json.Written
import VariantPlan.Proofs.Linkage
import VariantPlan.Proofs.Packaging.Absence
import VariantPlan.Proofs.Packaging.Collection
import VariantPlan.Proofs.Packaging.Confinement
import VariantPlan.Proofs.Packaging.Headers
import VariantPlan.Proofs.Packaging.Keeping
import VariantPlan.Proofs.Packaging.Passes
import VariantPlan.Proofs.Packaging.Pruning
import VariantPlan.Proofs.Packaging.Retrying
import VariantPlan.Proofs.Packaging.Scanning
import VariantPlan.Proofs.Request.DependencyNames
import VariantPlan.Proofs.Request.Reordering
import VariantPlan.Proofs.Request.Tokens
import VariantPlan.Proofs.Session
import VariantPlan.Proofs.Sets
import VariantPlan.Proofs.Text.ByteOrder
import VariantPlan.Proofs.Text.Numerals
import VariantPlan.Proofs.Text.Trimming
import VariantPlan.Proofs.Text.Words
import VariantPlan.Proofs.Tree.Contents
import VariantPlan.Proofs.Tree.Frame
import VariantPlan.Proofs.Tree.Parts
import VariantPlan.Proofs.Tree.Paths
import VariantPlan.Proofs.Tree.Reach
import VariantPlan.Proofs.Tree.Removal
import VariantPlan.Proofs.Tree.Spelling
import VariantPlan.Proofs.Tree.Vacancy
import VariantPlan.Proofs.Validation
import VariantPlan.Proofs.Version
import VariantPlan.SortedMap
import VariantPlan.Text.Alphanumeric
import VariantPlan.Text.Blank
import VariantPlan.Text.Hexadecimal
import VariantPlan.Text.Letter
import VariantPlan.Text.Numeral
import VariantPlan.Text.Printable
import VariantPlan.Text.Range
import VariantPlan.Text.Split
import VariantPlan.Tree.Basic
import VariantPlan.Tree.Error
import VariantPlan.Tree.Operations
import VariantPlan.Tree.Walk
import VariantPlan.Variant.Backend
import VariantPlan.Variant.Basic
import VariantPlan.Variant.Build
import VariantPlan.Variant.Builder
import VariantPlan.Variant.Error
import VariantPlan.Variant.Platform
import VariantPlan.Variant.Request
import VariantPlan.Variant.Validation
import VariantPlan.Variant.Value
import VariantPlan.Version.Basic
import VariantPlan.Version.Constraint
