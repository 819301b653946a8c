import Shortlist.Chat.Client
import Shortlist.Failure.Arguments
import Shortlist.Failure.Expect
import Shortlist.Http.Route
import Shortlist.Json.Reader
import Shortlist.Json.Writer
import Shortlist.Lock.Workers
import Shortlist.Logging.Config
import Shortlist.Program.Run
import Shortlist.Startup
import Shortlist.Proofs.Text.Lowercase
import Shortlist.Proofs.Text.Words
import Shortlist.Proofs.Text.Tokens
import Shortlist.Proofs.Text.Phrase
import Shortlist.Proofs.Skill.Collapse
import Shortlist.Proofs.Skill.PhraseSet
import Shortlist.Proofs.Skill.Variants
import Shortlist.Proofs.Skill.Expansion
import Shortlist.Proofs.Skill.Alternation
import Shortlist.Proofs.Matching.Tier
import Shortlist.Proofs.Matching.Coverage
import Shortlist.Proofs.Matching.Score
import Shortlist.Proofs.Matching.Growth
import Shortlist.Proofs.Matching.Synonyms
import Shortlist.Proofs.Skill.Respelling
import Shortlist.Proofs.Program.Behaviour
import Shortlist.Proofs.Validation.Valid
import Shortlist.Proofs.Analysis.Enrichment
import Shortlist.Proofs.Program.Calls
import Shortlist.Proofs.Program.Pairing
import Shortlist.Proofs.Service.Request
import Shortlist.Proofs.Service.Separation
import Shortlist.Proofs.Service.Upload
import Shortlist.Proofs.Session.Consistent
import Shortlist.Proofs.Session.Ownership
import Shortlist.Proofs.Chat.Decoding
import Shortlist.Proofs.Candidate.Settling
import Shortlist.Proofs.Lock.Exclusion
import Shortlist.Proofs.Analysis.Effect
import Shortlist.Proofs.Analysis.Refusal
import Shortlist.Proofs.Candidate.Blocks
import Shortlist.Proofs.Program.Trace
import Shortlist.Proofs.Session.Records
import Shortlist.Proofs.Program.Course
import Shortlist.Proofs.Service.Takeover
import Shortlist.Proofs.Service.Approach
import Shortlist.Proofs.Session.Freshness
import Shortlist.Proofs.Session.Passage
import Shortlist.Proofs.Vacancy.Requirements
import Shortlist.Proofs.Value.Coerce
import Shortlist.Proofs.Validation.Again
import Shortlist.Proofs.Service.Readback
import Shortlist.Proofs.Program.Surfacing
import Shortlist.Proofs.Service.Failures
import Shortlist.Proofs.Export.Csv
import Shortlist.Proofs.Export.Report
import Shortlist.Proofs.Matching.Rejoining
import Shortlist.Proofs.Text.Containment
import Shortlist.Proofs.Candidate.Acceptance
import Shortlist.Proofs.Chat.Prose
import Shortlist.Proofs.Text.Layout
import Shortlist.Proofs.Text.Punctuation
import Shortlist.Proofs.Matching.Corpus
import Shortlist.Proofs.Matching.History
import Shortlist.Proofs.Text.Tidying
import Shortlist.Proofs.Chat.Contract
import Shortlist.Proofs.Matching.Special
import Shortlist.Proofs.Skill.Symmetry
import Shortlist.Proofs.Decimal.Rounding
import Shortlist.Proofs.Export.Ranking
import Shortlist.Proofs.Export.Table
import Shortlist.Proofs.Text.Substitution
import Shortlist.Proofs.Skill.Listing
import Shortlist.Proofs.Skill.Visits
import Shortlist.Proofs.Matching.Visits
