import SemanticWiki.Main
import SemanticWiki.Proofs.CommandLine.Check
import SemanticWiki.Proofs.Element.Allocation
import SemanticWiki.Proofs.Engine.Consistency
import SemanticWiki.Proofs.Engine.Export
import SemanticWiki.Proofs.Engine.LastError
import SemanticWiki.Proofs.Engine.LexiconReport
import SemanticWiki.Proofs.Engine.Logbook
import SemanticWiki.Proofs.Engine.Outcome
import SemanticWiki.Proofs.Engine.ParsedSentences
import SemanticWiki.Proofs.Engine.Rendering
import SemanticWiki.Proofs.Engine.Report
import SemanticWiki.Proofs.Engine.Restoration
import SemanticWiki.Proofs.Engine.Synchrony
import SemanticWiki.Proofs.Export.Faithfulness
import SemanticWiki.Proofs.Export.WellFormed
import SemanticWiki.Proofs.Grammar.Caching
import SemanticWiki.Proofs.Grammar.Chunk
import SemanticWiki.Proofs.Grammar.Decoding
import SemanticWiki.Proofs.Grammar.Resolution
import SemanticWiki.Proofs.Grammar.Phrase
import SemanticWiki.Proofs.Grammar.Scan
import SemanticWiki.Proofs.Lexicon.Resubmission
import SemanticWiki.Proofs.Lexicon.StoredWords
import SemanticWiki.Proofs.Ontology.Integrity
import SemanticWiki.Proofs.Reason.Budget
import SemanticWiki.Proofs.Reason.Consistency
import SemanticWiki.Proofs.Reason.Entailment
import SemanticWiki.Proofs.Reason.Exploration
import SemanticWiki.Proofs.Reason.NegativeQuestions
import SemanticWiki.Proofs.Reason.PositiveQuestions
import SemanticWiki.Proofs.Sentence.StorageGrammar
import SemanticWiki.Proofs.Word.Normalization
