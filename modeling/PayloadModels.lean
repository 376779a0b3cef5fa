import PayloadModels.Json.Typed
import PayloadModels.Main
import PayloadModels.Proofs.Command.Checking
import PayloadModels.Proofs.Generation.Arrangement
import PayloadModels.Proofs.Generation.DeclaredOnce
import PayloadModels.Proofs.Generation.FalseEdits
import PayloadModels.Proofs.Generation.HeaderComments
import PayloadModels.Proofs.Generation.Pruning
import PayloadModels.Proofs.Generation.References
import PayloadModels.Proofs.Generation.Survival
import PayloadModels.Proofs.Naming.Idempotence
import PayloadModels.Proofs.Naming.Numbers
import PayloadModels.Proofs.Records.Encoding
import PayloadModels.Proofs.Records.Rating
import PayloadModels.Proofs.Records.TwoDecoders
import PayloadModels.Proofs.Samples.Coverage
import PayloadModels.Proofs.Samples.Repetition
import PayloadModels.Proofs.Samples.Walking
import PayloadModels.Proofs.Schema.Elements
import PayloadModels.Proofs.Schema.Growth
import PayloadModels.Proofs.Schema.ModelIndex
import PayloadModels.Proofs.Schema.Nullability
import PayloadModels.Proofs.Schema.SampleOrder
import PayloadModels.Proofs.Schema.TypeOrder
import PayloadModels.Proofs.Target.Escapes
import PayloadModels.Proofs.Target.Initializers
import PayloadModels.Proofs.Target.KotlinParameters
import PayloadModels.Proofs.Target.ModelNames
import PayloadModels.Proofs.Target.TypeSpellings
