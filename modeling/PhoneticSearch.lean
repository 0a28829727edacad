import PhoneticSearch.Main
import PhoneticSearch.Proofs.Encoding.TemplatePass
import PhoneticSearch.Proofs.Matching.Nearest
import PhoneticSearch.Proofs.Encoding.Choice
import PhoneticSearch.Proofs.Pattern.Template
import PhoneticSearch.Proofs.Encoding.Frame
import PhoneticSearch.Proofs.Matching.Memory
import PhoneticSearch.Proofs.Resources.Identifiers
import PhoneticSearch.Proofs.Encoding.PhoneLength
import PhoneticSearch.Proofs.Lexicon.Spelled
import PhoneticSearch.Proofs.Resources.Phones
import PhoneticSearch.Proofs.Resources.Compatibility
import PhoneticSearch.Proofs.Resources.Records
import PhoneticSearch.Proofs.Encoding.PhoneValues
import PhoneticSearch.Proofs.Resources.Values
import PhoneticSearch.Proofs.Resources.References
import PhoneticSearch.Proofs.Resources.Omission
import PhoneticSearch.Proofs.Encoding.RuleSet
import PhoneticSearch.Proofs.Resources.EncodingOrder
import PhoneticSearch.Proofs.Lexicon.Materialised
import PhoneticSearch.Proofs.CommandLine.MatchReport
import PhoneticSearch.Proofs.Matching.Parts
import PhoneticSearch.Proofs.Settings.RoundTrip
import PhoneticSearch.Proofs.Warping.Skipping
import PhoneticSearch.Proofs.Pattern.FirstLongest
import PhoneticSearch.Proofs.Warping.Recurrence
import PhoneticSearch.Proofs.Warping.Monotone
import PhoneticSearch.Proofs.Warping.Transposed
import PhoneticSearch.Proofs.Warping.Repetition
import PhoneticSearch.Proofs.Warping.Stretched
import PhoneticSearch.Proofs.Matching.Expansion
import PhoneticSearch.Proofs.Encoding.Conservation
import PhoneticSearch.Proofs.Encoding.Boundary
import PhoneticSearch.Proofs.Matching.Distances
import PhoneticSearch.Proofs.Binary64.Negation
import PhoneticSearch.Proofs.Binary64.Square
import PhoneticSearch.Proofs.PhoneMismatch
import PhoneticSearch.Proofs.Encoding.Checked
import PhoneticSearch.Proofs.Encoding.Inertness
import PhoneticSearch.Proofs.FeatureSet.Description
import PhoneticSearch.Proofs.FeatureSet.Dimensions
import PhoneticSearch.Proofs.FeatureSet.Override
import PhoneticSearch.Proofs.FeatureSet.Specifications
import PhoneticSearch.Proofs.FeatureSet.Respelling
import PhoneticSearch.Proofs.Text.Lines
import PhoneticSearch.Proofs.Lexicon.Pronunciations
import PhoneticSearch.Proofs.Lexicon.Export
import PhoneticSearch.Proofs.Lexicon.WordList
import PhoneticSearch.Proofs.Lexicon.Limit
import PhoneticSearch.Proofs.Text.Tokens
import PhoneticSearch.Proofs.Readings
