import FormQuery.Log.Message
import FormQuery.Main
import FormQuery.Proofs.BackendCalls
import FormQuery.Proofs.BareNumbers
import FormQuery.Proofs.CacheFreshness
import FormQuery.Proofs.CharacterPositions
import FormQuery.Proofs.CheckedReferences
import FormQuery.Proofs.ColumnLabels
import FormQuery.Proofs.ColumnTypes
import FormQuery.Proofs.CommittedRows
import FormQuery.Proofs.CompilationOutcome
import FormQuery.Proofs.ConcurrentMerges
import FormQuery.Proofs.DocumentNumbers
import FormQuery.Proofs.EscapedPatterns
import FormQuery.Proofs.FailedOutcomes
import FormQuery.Proofs.FieldNames
import FormQuery.Proofs.FilterAgreement
import FormQuery.Proofs.FirstError
import FormQuery.Proofs.FurtherClauses
import FormQuery.Proofs.GroupedAggregates
import FormQuery.Proofs.JsonRoundTrip
import FormQuery.Proofs.LabelResolution
import FormQuery.Proofs.MergedDocuments
import FormQuery.Proofs.NameLookup
import FormQuery.Proofs.NullArguments
import FormQuery.Proofs.NullCells
import FormQuery.Proofs.NumberArguments
import FormQuery.Proofs.NumericCells
import FormQuery.Proofs.NumericText
import FormQuery.Proofs.PatternMeaning
import FormQuery.Proofs.PreparedTokens
import FormQuery.Proofs.QuotedKinds
import FormQuery.Proofs.Quoting
import FormQuery.Proofs.ReadAfterWrite
import FormQuery.Proofs.ReadingOn
import FormQuery.Proofs.RecasedQueries
import FormQuery.Proofs.RepeatedInvalidation
import FormQuery.Proofs.ReportedOutcome
import FormQuery.Proofs.RoundTrip
import FormQuery.Proofs.RowwiseEvaluation
import FormQuery.Proofs.SettingsPrecedence
import FormQuery.Proofs.SingleStatement
import FormQuery.Proofs.SourcePlaces
import FormQuery.Proofs.StorageNames
import FormQuery.Proofs.StoredStructures
import FormQuery.Proofs.TextFunctions
import FormQuery.Proofs.TokenCover
import FormQuery.Proofs.TokenSpacing
import FormQuery.Proofs.UncaughtFaults
import FormQuery.Proofs.UnclosedQuotes
import FormQuery.Proofs.UpdatePaths
import FormQuery.Sql.Statement
import FormQuery.Storage.Memory
