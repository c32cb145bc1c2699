import ObjectStore.Extraction
import ObjectStore.Guard
import ObjectStore.History.Raise
import ObjectStore.Settings.Cache
import ObjectStore.Upload.Sizes
import ObjectStore.Proofs.Reraising
import ObjectStore.Proofs.Guarding
import ObjectStore.Proofs.Independence
import ObjectStore.Proofs.HandingOn
import ObjectStore.Proofs.Runs
import ObjectStore.Proofs.Reclassification
import ObjectStore.Proofs.Routes
import ObjectStore.Proofs.Nesting
import ObjectStore.Proofs.WellFormed
import ObjectStore.Proofs.KeptSettings
import ObjectStore.Proofs.CodeReading
import ObjectStore.Proofs.Refusal
import ObjectStore.Proofs.InnermostGuard
import ObjectStore.Proofs.Rejection
import ObjectStore.Proofs.Repetition
import ObjectStore.Proofs.CarriedBody
import ObjectStore.Proofs.StatusDigits
import ObjectStore.Proofs.ResolvedSizes
import ObjectStore.Proofs.SettledSizes
import ObjectStore.Proofs.SizeWarnings
import ObjectStore.Proofs.StructuredLogs
import ObjectStore.Proofs.LoadedSizes
import ObjectStore.Proofs.Walk
