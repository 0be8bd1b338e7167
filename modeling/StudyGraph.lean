import StudyGraph.Main
import StudyGraph.Proofs.Identity
import StudyGraph.Proofs.Blend
import StudyGraph.Proofs.Contribution
import StudyGraph.Proofs.WellFormed
import StudyGraph.Proofs.PlanContribution
import StudyGraph.Proofs.Built
import StudyGraph.Proofs.Independence
import StudyGraph.Proofs.Relation
import StudyGraph.Proofs.Sentence
import StudyGraph.Proofs.Edges
import StudyGraph.Proofs.Rearrangement
import StudyGraph.Proofs.Join
import StudyGraph.Proofs.Line
import StudyGraph.Proofs.Fault
import StudyGraph.Proofs.Layout
import StudyGraph.Proofs.Growth
import StudyGraph.Proofs.Relevance
import StudyGraph.Proofs.Given
import StudyGraph.Proofs.Listing
import StudyGraph.Proofs.Provenance
import StudyGraph.Proofs.Search
import StudyGraph.Proofs.Locate
import StudyGraph.Proofs.Cloze
import StudyGraph.Proofs.Merging
import StudyGraph.Proofs.LastWord
import StudyGraph.Proofs.Absorption
import StudyGraph.Proofs.Mention
import StudyGraph.Proofs.Annotation
import StudyGraph.Proofs.Rival
import StudyGraph.Proofs.PartOfSpeech
import StudyGraph.Proofs.Partition
import StudyGraph.Proofs.Fields
import StudyGraph.Proofs.Furigana
import StudyGraph.Proofs.Context
import StudyGraph.Proofs.Reading
import StudyGraph.Proofs.Literal
import StudyGraph.Proofs.WellPosed
import StudyGraph.Proofs.Linking
import StudyGraph.Proofs.Trio
import StudyGraph.Proofs.Matching
import StudyGraph.Proofs.Frontmatter
import StudyGraph.Proofs.Sorted
import StudyGraph.Proofs.Selection
import StudyGraph.Proofs.Expectation
import StudyGraph.Proofs.Discovery
import StudyGraph.Proofs.Verdict
import StudyGraph.Proofs.Report
import StudyGraph.Proofs.Rows
import StudyGraph.Proofs.Digits
import StudyGraph.Proofs.Assembly
import StudyGraph.Proofs.ImpliedCommand
import StudyGraph.Proofs.Alignment
