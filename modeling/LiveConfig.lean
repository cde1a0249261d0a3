import LiveConfig.Client.Lookup
import LiveConfig.Proofs.LostEvent
import LiveConfig.Proofs.SecretChain
import LiveConfig.Proofs.SegmentDepth
import LiveConfig.Proofs.DumpRoundTrip
import LiveConfig.Proofs.StoreKeys
import LiveConfig.Proofs.SettledValue
import LiveConfig.Proofs.Confidentiality
import LiveConfig.Proofs.DecodedDepth
import LiveConfig.Proofs.RecorderTraces
import LiveConfig.Proofs.TallyListing
import LiveConfig.Proofs.EvaluationCounts
import LiveConfig.Proofs.ResolutionFrame
import LiveConfig.Proofs.SourcePrecedence
import LiveConfig.Proofs.SummaryPrivacy
import LiveConfig.Proofs.ReportedContexts
import LiveConfig.Proofs.InitializationGate
import LiveConfig.Proofs.DeliveryPaths
import LiveConfig.Proofs.RuleSelection
import LiveConfig.Proofs.WeightedBuckets
import LiveConfig.Proofs.DurationRoundTrip
import LiveConfig.Proofs.WeightlessArms
import LiveConfig.Proofs.SealedTexts
import LiveConfig.Proofs.LevelConfigs
import LiveConfig.Proofs.CriterionTargets
import LiveConfig.Proofs.FailOver
import LiveConfig.Proofs.SnapshotAccounts
import LiveConfig.Proofs.LoggerLevels
import LiveConfig.Proofs.LayeredContexts
import LiveConfig.Proofs.ContextWindows
import LiveConfig.Proofs.PrintedSecrets
