import FormValidation.Host.Simulation
import FormValidation.Main
import FormValidation.Profile.Builder
import FormValidation.Profile.Description
import FormValidation.Proofs.Checking.Separation
import FormValidation.Proofs.Classification.Names
import FormValidation.Proofs.Checking.Pointwise
import FormValidation.Proofs.Checking.Reads
import FormValidation.Proofs.Classification.Comparison
import FormValidation.Proofs.Registry.Merging
import FormValidation.Proofs.Registry.EarlierEvaluations
import FormValidation.Proofs.Classification.Resubmission
import FormValidation.Proofs.Classification.Stray
import FormValidation.Proofs.Checking.Faults
import FormValidation.Proofs.ProfileFile.ConcurrentWrites
import FormValidation.Proofs.ProfileFile.Transparency
import FormValidation.Proofs.Profile.Resolvable
import FormValidation.Proofs.Profile.StructuralFaults
import FormValidation.Proofs.ProfileFile.Cleanup
import FormValidation.Proofs.ProfileFile.Recency
import FormValidation.Proofs.Message.Content
import FormValidation.Proofs.Message.History
import FormValidation.Proofs.Checking.KeptContent
import FormValidation.Proofs.Classification.EmptyScalars
import FormValidation.Proofs.Classification.FilterPass
import FormValidation.Proofs.Classification.Untainting
import FormValidation.Proofs.Classification.GroupCounts
import FormValidation.Proofs.Checking.Termination
import FormValidation.Proofs.Pattern.Translation
import FormValidation.Proofs.Message.Substitution
import FormValidation.Proofs.ProfileFile.Capacity
import FormValidation.Proofs.ProfileFile.FailedLoads
import FormValidation.Proofs.Input.RoundTrip
import FormValidation.Proofs.Profile.Options
import FormValidation.Proofs.Profile.SingleItems
import FormValidation.Proofs.Profile.MethodFlags
import FormValidation.Proofs.Profile.Wrappers
import FormValidation.Proofs.Input.Interchange
import FormValidation.Proofs.Registry.CheckDigits
import FormValidation.Proofs.Registry.CleaningFilters
import FormValidation.Proofs.Registry.FixedPoints
import FormValidation.Proofs.Classification.FieldComparison
import FormValidation.Proofs.Report.HiddenNumbers
import FormValidation.Proofs.Report.Secrets
import FormValidation.Proofs.Registry.Bounds
import FormValidation.Proofs.Registry.Expiry
