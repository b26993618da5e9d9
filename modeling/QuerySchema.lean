import QuerySchema.Main
import QuerySchema.Schema.Call
import QuerySchema.Schema.Session
import QuerySchema.Schema.InPlace
import QuerySchema.GraphQL.TreeReading
import QuerySchema.Proofs.PointerReading
import QuerySchema.Proofs.SelectionSteps
import QuerySchema.Proofs.DocumentMerge
import QuerySchema.Proofs.OperationSteps
import QuerySchema.Proofs.ArgumentReferences
import QuerySchema.Proofs.OmissionTrace
import QuerySchema.Proofs.SchemaEvaluation
import QuerySchema.Proofs.OperationMeaning
import QuerySchema.Proofs.ParsedNames
import QuerySchema.Proofs.LastWrites
import QuerySchema.Proofs.SelectionForms
import QuerySchema.Proofs.ReadDocuments
import QuerySchema.Proofs.SchemaConformance
import QuerySchema.Proofs.TypeSteps
import QuerySchema.Proofs.CompleteConversion
import QuerySchema.Proofs.LayoutChange
import QuerySchema.Proofs.FailingDefinitions
import QuerySchema.Proofs.ScalarInfluence
import QuerySchema.Proofs.ConversionText
import QuerySchema.Proofs.ConvertCommand
import QuerySchema.Proofs.DefinitionOrder
import QuerySchema.Proofs.SharedContext
import QuerySchema.Proofs.RegistrationHistory
import QuerySchema.Proofs.UnexplainedFailures
import QuerySchema.Proofs.PassedArguments
import QuerySchema.Proofs.TypeReferences
import QuerySchema.Proofs.DeclaredInputs
import QuerySchema.Proofs.CleanSelections
import QuerySchema.Proofs.PointerDecoding
import QuerySchema.Proofs.TypeForms
import QuerySchema.Proofs.TypeFields
import QuerySchema.Proofs.LoadedSources
import QuerySchema.Proofs.ScalarMappings
import QuerySchema.Proofs.WrittenFrames
import QuerySchema.Proofs.DefaultPlaces
import QuerySchema.Proofs.IntegerDefaults
import QuerySchema.Proofs.DiagnosticTexts
import QuerySchema.Proofs.ShownDiagnostics
