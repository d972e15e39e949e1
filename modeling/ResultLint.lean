import ResultLint.Main
import ResultLint.Proofs.Analyzer.Relocation
import ResultLint.Proofs.Analyzer.Respelling
import ResultLint.Proofs.Analyzer.Result
import ResultLint.Proofs.Analyzer.Severity
import ResultLint.Proofs.ProjectCheck
import ResultLint.Proofs.ReturnType.Suppression
import ResultLint.Proofs.Source.DeclaredType
import ResultLint.Proofs.CommandLine.Format
import ResultLint.Proofs.Json.Decode
import ResultLint.Proofs.LintResultRecord
import ResultLint.Proofs.ReturnType.Layers
import ResultLint.Proofs.RuleSet
import ResultLint.Proofs.Source.Position
import ResultLint.Proofs.Source.Extent
import ResultLint.Proofs.ReturnType.Place
import ResultLint.Proofs.ReturnType.AllowList
import ResultLint.Proofs.ReturnType.Shape
import ResultLint.Proofs.ProjectTest
import ResultLint.Proofs.Directive
import ResultLint.Proofs.Directive.Lookup
import ResultLint.Proofs.Analyzer.SetupCalls
import ResultLint.Proofs.Source.Order
import ResultLint.Proofs.ReturnType.Parentheses
import ResultLint.Proofs.ConfigDiscovery
import ResultLint.Proofs.CommandLine.Compact
import ResultLint.Proofs.ReturnType.Message
import ResultLint.Proofs.Analyzer.Failure
import ResultLint.Proofs.ReturnType.Methods
import ResultLint.Proofs.RuleSet.Validation
import ResultLint.Proofs.ReturnType.Normal
import ResultLint.Proofs.LintResult
