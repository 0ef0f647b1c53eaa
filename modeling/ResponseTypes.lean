import ResponseTypes.CommandLine.Run
import ResponseTypes.Main
import ResponseTypes.Session
import ResponseTypes.Proofs.CommentEnds
import ResponseTypes.Proofs.PayloadRuns
import ResponseTypes.Proofs.DeclarationReading
import ResponseTypes.Proofs.FileGrowth
import ResponseTypes.Proofs.TypeTableHistory
import ResponseTypes.Proofs.DirectoryCreation
import ResponseTypes.Proofs.TypeNames
import ResponseTypes.Proofs.ReadingRuns
import ResponseTypes.Proofs.OutputFootprint
import ResponseTypes.Proofs.ModelBatches
import ResponseTypes.Proofs.AnnotationText
import ResponseTypes.Proofs.DeclaringLines
import ResponseTypes.Proofs.ArtifactSuccession
import ResponseTypes.Proofs.PayloadIsolation
import ResponseTypes.Proofs.ExcludedFields
import ResponseTypes.Proofs.UnansweredQuestions
import ResponseTypes.Proofs.WholeDocuments
import ResponseTypes.Proofs.RunEndings
import ResponseTypes.Proofs.DialectTables
import ResponseTypes.Proofs.ElementTypes
import ResponseTypes.Proofs.LiteralPatterns
import ResponseTypes.Proofs.ModelDiscovery
import ResponseTypes.Proofs.Chronicles
import ResponseTypes.Proofs.ChronicleRuns
import ResponseTypes.Proofs.WriteDistance
import ResponseTypes.Proofs.UntouchedOutput
import ResponseTypes.Proofs.RepeatedCalls
import ResponseTypes.Proofs.TypeTableListing
import ResponseTypes.Proofs.NamedRuns
import ResponseTypes.Proofs.DateStrings
import ResponseTypes.Proofs.NameStages
import ResponseTypes.Proofs.NumberedNames
import ResponseTypes.Proofs.NumberedUnits
import ResponseTypes.Proofs.IdentifierNames
import ResponseTypes.Proofs.SnakeCaseNames
import ResponseTypes.Proofs.SchemaAnswers
import ResponseTypes.Proofs.PlainSpellings
import ResponseTypes.Proofs.Envelopes
import ResponseTypes.Proofs.FilterRuns
import ResponseTypes.Proofs.DoubleRange
import ResponseTypes.Proofs.ScaledSignificands
import ResponseTypes.Proofs.Utf8Bytes
import ResponseTypes.Proofs.WrittenStrings
import ResponseTypes.Proofs.WrittenNumbers
import ResponseTypes.Proofs.WrittenDoubles
import ResponseTypes.Proofs.WrittenDocuments
import ResponseTypes.Proofs.IdentityFilter
import ResponseTypes.Proofs.WordBorders
import ResponseTypes.Proofs.Namespaces
import ResponseTypes.Proofs.PlainValues
import ResponseTypes.Proofs.PlainFunctions
import ResponseTypes.Proofs.PlainTerms
import ResponseTypes.Proofs.PlainRuns
import ResponseTypes.Proofs.BracketNesting
import ResponseTypes.Proofs.NestingDepth
