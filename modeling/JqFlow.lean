import JqFlow.Main
import JqFlow.Query.Equality
import JqFlow.Proofs.Drawing.Elements
import JqFlow.Proofs.Drawing.Steps
import JqFlow.Proofs.Drawing.Edges
import JqFlow.Proofs.Drawing.Simple
import JqFlow.Proofs.Drawing.Wires
import JqFlow.Proofs.Drawing.SpanningTree
import JqFlow.Proofs.Reading.Feed
import JqFlow.Proofs.Reading.Table
import JqFlow.Proofs.Reading.Complete
import JqFlow.Proofs.Reading.Run
import JqFlow.Proofs.Reading.Words
import JqFlow.Proofs.Reading.Spelling
import JqFlow.Proofs.Reading.StringLiteral
import JqFlow.Proofs.Reading.Names
import JqFlow.Proofs.Reading.Phrases
import JqFlow.Proofs.Reading.Levels
import JqFlow.Proofs.Reading.Refusals
import JqFlow.Proofs.Reading.Terms
import JqFlow.Proofs.Reading.Lists
import JqFlow.Proofs.Reading.Clauses
import JqFlow.Proofs.Reading.Regular
import JqFlow.Proofs.Reading.Printed
import JqFlow.Proofs.Reading.PrintedTerms
import JqFlow.Proofs.Reading.PrintedClauses
import JqFlow.Proofs.Reading.OperatorTrees
import JqFlow.Proofs.Reading.Sound
import JqFlow.Proofs.Reading.Recovered
import JqFlow.Proofs.Reading.Reprint
import JqFlow.Proofs.Reading.Catches
import JqFlow.Proofs.Reading.Language
import JqFlow.Proofs.Reading.Exact
import JqFlow.Proofs.Reading.WellFormed
import JqFlow.Proofs.Drawing.Links
import JqFlow.Proofs.Drawing.Labelled
import JqFlow.Proofs.Drawing.Parts
import JqFlow.Proofs.Drawing.Scopes
import JqFlow.Proofs.Drawing.EdgeTypes
import JqFlow.Proofs.Files.Tree
import JqFlow.Proofs.Files.Path
import JqFlow.Proofs.Script.Quoting
import JqFlow.Proofs.Script.Lines
import JqFlow.Proofs.Script.Faithful
import JqFlow.Proofs.Rendering.Runs
import JqFlow.Proofs.Rendering.Answers
import JqFlow.Proofs.Rendering.Outcomes
import JqFlow.Proofs.Drawing.Expansion
import JqFlow.Proofs.Reading.FlatTexts
import JqFlow.Proofs.Reading.JsonString
import JqFlow.Proofs.Reading.Respacing
import JqFlow.Proofs.Reading.Embedded
import JqFlow.Proofs.Reading.SuffixChains
import JqFlow.Proofs.Drawing.Operations
import JqFlow.Proofs.Drawing.Regrouping
import JqFlow.Proofs.Drawing.Relocation
import JqFlow.Proofs.Drawing.Chains
import JqFlow.Proofs.Rendering.Transients
import JqFlow.Proofs.Rendering.Verdicts
import JqFlow.Proofs.Terminal.Markup
import JqFlow.Proofs.Cli.Steps
import JqFlow.Proofs.Cli.Scripts
import JqFlow.Proofs.Number.Range
import JqFlow.Proofs.Settings.Fields
import JqFlow.Proofs.Script.Blocks
import JqFlow.Proofs.Script.Tokens
import JqFlow.Proofs.Reading.QuotedKeys
import JqFlow.Proofs.Drawing.RefusedClose
import JqFlow.Proofs.Text.Cutting
import JqFlow.Proofs.Graph.Lookup
import JqFlow.Proofs.Graph.Inspection
import JqFlow.Proofs.Settings.Nearest
import JqFlow.Proofs.Files.SavedScript
import JqFlow.Proofs.Graph.Traversal
