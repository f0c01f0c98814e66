import ReleaseRules.Unicode.CharacterClass
import ReleaseRules.Unicode.CaseOrbit
import ReleaseRules.Unicode.Script
import ReleaseRules.Regex.PatternReader
import ReleaseRules.Regex.Basic
import ReleaseRules.Template.Expansion
import ReleaseRules.Document.Basic
import ReleaseRules.Files.Reference
import ReleaseRules.Cache
import ReleaseRules.Rules.Engine
import ReleaseRules.Rules.Reading
import ReleaseRules.Toml.Reader
import ReleaseRules.Rules.Loader
import ReleaseRules.CommandLine.Response
import ReleaseRules.Main
import ReleaseRules.Proofs.Rules.Run
import ReleaseRules.Proofs.Rules.Stopping
import ReleaseRules.Proofs.Document.Entries
import ReleaseRules.Proofs.Document.Shape
import ReleaseRules.Proofs.Json.Literals
import ReleaseRules.Proofs.Json.Numerals
import ReleaseRules.Proofs.Json.Reading
import ReleaseRules.Proofs.Json.RoundTrip
import ReleaseRules.Proofs.Json.LiteralValues
import ReleaseRules.Proofs.Document.Rendering
import ReleaseRules.Proofs.Document.Writing
import ReleaseRules.Proofs.Json.Places
import ReleaseRules.Proofs.Rules.TreeEdit
import ReleaseRules.Proofs.Rules.Objects
import ReleaseRules.Proofs.Rules.NumberLiterals
import ReleaseRules.Proofs.Rules.NonDestructive
import ReleaseRules.Proofs.Document.LayoutStability
import ReleaseRules.Proofs.Document.Sameness
import ReleaseRules.Proofs.Rules.Writes
import ReleaseRules.Proofs.Rules.Likeness
import ReleaseRules.Proofs.Rules.Repetition
import ReleaseRules.Proofs.Rules.Simulation
import ReleaseRules.Proofs.Rules.Idempotence
import ReleaseRules.Proofs.Yaml.Characters
import ReleaseRules.Proofs.Yaml.PlainScalars
import ReleaseRules.Proofs.Yaml.QuotedScalars
import ReleaseRules.Proofs.Yaml.BlockScalars
import ReleaseRules.Proofs.Yaml.BlockStates
import ReleaseRules.Proofs.Yaml.KeyLength
import ReleaseRules.Proofs.Yaml.ScalarTokens
import ReleaseRules.Proofs.Yaml.BlockTokens
import ReleaseRules.Proofs.Yaml.WrittenNodes
import ReleaseRules.Proofs.Yaml.WrittenTokens
import ReleaseRules.Proofs.Document.Reading
import ReleaseRules.Proofs.Document.FinalFeeds
import ReleaseRules.Proofs.Yaml.LastTokens
import ReleaseRules.Proofs.Yaml.ValueTrees
import ReleaseRules.Proofs.Yaml.NodeReading
import ReleaseRules.Proofs.Yaml.FinalTexts
import ReleaseRules.Proofs.Document.FinalNewline
import ReleaseRules.Proofs.Text.Runs
import ReleaseRules.Proofs.Yaml.NumberGuard
import ReleaseRules.Proofs.Yaml.NodeScalars
import ReleaseRules.Proofs.Document.NumberSpelling
import ReleaseRules.Proofs.Number.Notation
import ReleaseRules.Proofs.Number.Shortest
import ReleaseRules.Proofs.Regex.Machine
import ReleaseRules.Proofs.Regex.Framing
import ReleaseRules.Proofs.Regex.Matches
import ReleaseRules.Proofs.Version.Order
import ReleaseRules.Proofs.Version.Written
import ReleaseRules.Proofs.Version.Grammar
import ReleaseRules.Proofs.Version.Extraction
import ReleaseRules.Proofs.Rules.VersionUpdate
import ReleaseRules.Proofs.Rules.VersionGate
import ReleaseRules.Proofs.Rules.ReleaseOrder
import ReleaseRules.Proofs.Rules.Composition
import ReleaseRules.Proofs.Rules.Isolation
import ReleaseRules.Proofs.Rules.AuditTrail
import ReleaseRules.Proofs.Rules.ChangedFlag
import ReleaseRules.Proofs.CommandLine.Reports
import ReleaseRules.Proofs.Rules.LoaderHistory
import ReleaseRules.Proofs.Files.Places
import ReleaseRules.Proofs.Rules.Sources
import ReleaseRules.Proofs.Text.Pieces
import ReleaseRules.Proofs.Text.WhiteSpace
import ReleaseRules.Proofs.Document.JsonRoundTrip
import ReleaseRules.Proofs.Template.Opaque
import ReleaseRules.Proofs.Template.Slots
import ReleaseRules.Proofs.Template.Calls
import ReleaseRules.Proofs.Template.Placeholders
import ReleaseRules.Proofs.Template.Expansion
import ReleaseRules.Proofs.Template.MarkedText
import ReleaseRules.Proofs.Template.LiteralText
import ReleaseRules.Proofs.Document.WriteLaws
import ReleaseRules.Proofs.CommandLine.Preview
import ReleaseRules.Proofs.Regex.Preference
import ReleaseRules.Proofs.Version.FirstVersion
import ReleaseRules.Proofs.Version.FirstMatch
import ReleaseRules.Proofs.Rules.KeptFields
import ReleaseRules.Proofs.Rules.SecondUpdate
import ReleaseRules.Proofs.Document.InPlace
import ReleaseRules.Proofs.Document.Refusals
import ReleaseRules.Proofs.Regex.Reads
import ReleaseRules.Proofs.Regex.Realization
import ReleaseRules.Proofs.Regex.Groups
import ReleaseRules.Proofs.Rules.TruthfulRecords
import ReleaseRules.Proofs.Regex.Language
import ReleaseRules.Proofs.Regex.PatternSteps
import ReleaseRules.Proofs.Version.PlaceholderPieces
import ReleaseRules.Proofs.Version.PlaceholderSource
import ReleaseRules.Proofs.Version.PlaceholderGroups
import ReleaseRules.Proofs.Version.PlaceholderMatches
import ReleaseRules.Proofs.Document.FormatChoice
import ReleaseRules.Proofs.Rules.KeptLayout
import ReleaseRules.Proofs.Rules.PassedTexts
import ReleaseRules.Proofs.Document.WriteOrder
import ReleaseRules.Proofs.Rules.IndependentWrites
import ReleaseRules.Proofs.Regex.GroupNames
import ReleaseRules.Proofs.Rules.MatchReplacement
import ReleaseRules.Proofs.Cache.Transparency
import ReleaseRules.Proofs.Text.LetterCase
import ReleaseRules.Proofs.Template.Slugs
import ReleaseRules.Proofs.Template.NestedCalls
import ReleaseRules.Proofs.Files.References
