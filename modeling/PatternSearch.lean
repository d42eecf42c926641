import PatternSearch.Text.Ascii
import PatternSearch.Text.Case
import PatternSearch.Text.Quoted
import PatternSearch.Literal
import PatternSearch.Outcome
import PatternSearch.Pattern.Eval
import PatternSearch.Pattern.Chain
import PatternSearch.Pattern.Describe
import PatternSearch.Search.Query
import PatternSearch.Proofs.Boundary
import PatternSearch.Proofs.Occurrence
import PatternSearch.Proofs.AsciiSearch
import PatternSearch.Proofs.Lead
import PatternSearch.Proofs.FirstMatch
import PatternSearch.Proofs.Sweep
import PatternSearch.Proofs.Step
import PatternSearch.Proofs.Iterator
import PatternSearch.Proofs.Enumeration
import PatternSearch.Proofs.Derivation
import PatternSearch.Proofs.Alignment
import PatternSearch.Proofs.AlignedSearch
import PatternSearch.Proofs.Scoped
import PatternSearch.Proofs.ByteSearch
import PatternSearch.Proofs.Soundness
import PatternSearch.Proofs.PlainScan
import PatternSearch.Proofs.CharIndex
import PatternSearch.Proofs.Folded
import PatternSearch.Proofs.Relaxation
import PatternSearch.Proofs.DeclaredEnding
import PatternSearch.Proofs.WildcardLimit
import PatternSearch.Proofs.Session
import PatternSearch.Proofs.Tiling
import PatternSearch.Proofs.FirstOffence
import PatternSearch.Proofs.WildcardScan
import PatternSearch.Proofs.Journal
import PatternSearch.Proofs.Contract
import PatternSearch.Proofs.WholeScope
import PatternSearch.Proofs.Fusion
import PatternSearch.Proofs.Gaps
import PatternSearch.Proofs.LiteralSearch
import PatternSearch.Proofs.Between
import PatternSearch.Proofs.SameAnswers
import PatternSearch.Proofs.Alternatives
import PatternSearch.Proofs.WildcardRuns
import PatternSearch.Proofs.LiteralOrder
import PatternSearch.Proofs.Repetition
import PatternSearch.Proofs.FoldedPrefix
import PatternSearch.Proofs.BoundaryOrder
import PatternSearch.Proofs.Skipping
import PatternSearch.Proofs.FirstCandidate
import PatternSearch.Proofs.WildcardCourse
