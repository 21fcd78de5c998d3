import CodeAudit.Ast.Record
import CodeAudit.Graph.Difference
import CodeAudit.Main
import CodeAudit.Rules.Definition
import CodeAudit.Proofs.Analysis.Accounting
import CodeAudit.Proofs.Analysis.Callers
import CodeAudit.Proofs.Analysis.DeadCode
import CodeAudit.Proofs.Ast.NodeIds
import CodeAudit.Proofs.Audit.Assistance
import CodeAudit.Proofs.Audit.Containment
import CodeAudit.Proofs.Audit.Mirror
import CodeAudit.Proofs.Audit.Provenance
import CodeAudit.Proofs.Audit.Trace
import CodeAudit.Proofs.Cache.Recency
import CodeAudit.Proofs.Graph.Conservation
import CodeAudit.Proofs.Graph.CycleAgreement
import CodeAudit.Proofs.Graph.Cycles
import CodeAudit.Proofs.Graph.Difference
import CodeAudit.Proofs.Graph.Forest
import CodeAudit.Proofs.Graph.Modules
import CodeAudit.Proofs.Graph.Moved
import CodeAudit.Proofs.Graph.Reordering
import CodeAudit.Proofs.Graph.WellFormed
import CodeAudit.Proofs.Lexical.BraceBlock
import CodeAudit.Proofs.Lexical.Causality
import CodeAudit.Proofs.Lexical.IndentBlock
import CodeAudit.Proofs.Path.Dotted
import CodeAudit.Proofs.Rules.Isolation
import CodeAudit.Proofs.Rules.OncePerLine
import CodeAudit.Proofs.Tasks.Dispatch
import CodeAudit.Proofs.Tasks.Feed
import CodeAudit.Proofs.Path.Exclusion
import CodeAudit.Proofs.Rules.TestNames
import CodeAudit.Proofs.Rules.Advice
import CodeAudit.Proofs.Regex.Search
import CodeAudit.Proofs.Lexical.PythonLines
import CodeAudit.Proofs.Regex.Matching
import CodeAudit.Proofs.Lexical.PythonBlocks
import CodeAudit.Proofs.Rules.EmptyTests
import CodeAudit.Proofs.Tasks.Calls
import CodeAudit.Proofs.Path.NormalForm
import CodeAudit.Proofs.Language.Statistics
import CodeAudit.Proofs.Rules.Fields
import CodeAudit.Proofs.Digest
import CodeAudit.Proofs.Tasks.Backoff
