import CandleAlerts.Alert.Description
import CandleAlerts.Alert.Playbook
import CandleAlerts.Api.Router
import CandleAlerts.Broker.Channel
import CandleAlerts.Broker.Regex
import CandleAlerts.Config
import CandleAlerts.Definition.Alert
import CandleAlerts.Dispatch.Basic
import CandleAlerts.Evaluation.Group
import CandleAlerts.Hash.Keyed
import CandleAlerts.Indicator.Builtin
import CandleAlerts.Indicator.Component
import CandleAlerts.Json.Read
import CandleAlerts.Json.Write
import CandleAlerts.Market.Candle
import CandleAlerts.Market.Exchange
import CandleAlerts.Market.Resample
import CandleAlerts.Market.Timeframe
import CandleAlerts.Proofs.PlaybookPass
import CandleAlerts.Registry.Group
import CandleAlerts.Registry.Reconcile
import CandleAlerts.Registry.Subscriptions
import CandleAlerts.Registry.Sync
import CandleAlerts.Services.BotRouter
import CandleAlerts.Services.Sync
import CandleAlerts.Simulation.Run
import CandleAlerts.Subscription
import CandleAlerts.Supervisor
import CandleAlerts.Text.LowerCase
import CandleAlerts.Time.Rfc3339
import CandleAlerts.Trigger.Event
import CandleAlerts.Webhook.Body
import CandleAlerts.Webhook.Verifier
import CandleAlerts.Proofs.LatchWindows
import CandleAlerts.Proofs.SnapshotLaws
import CandleAlerts.Proofs.GroupSnapshotLaws
import CandleAlerts.Proofs.ConditionAnswers
import CandleAlerts.Proofs.SharedEvaluation
import CandleAlerts.Proofs.AlertEquality
import CandleAlerts.Proofs.RegistryLaws
import CandleAlerts.Proofs.ReconcileLaws
import CandleAlerts.Proofs.ConcurrentSync
import CandleAlerts.Proofs.EventIds
import CandleAlerts.Proofs.GroupEvaluation
import CandleAlerts.Proofs.DispatchLaws
import CandleAlerts.Proofs.SimulationFrames
import CandleAlerts.Proofs.ErrandAccounts
import CandleAlerts.Proofs.ErrandSchedule
import CandleAlerts.Proofs.RunInvariant
import CandleAlerts.Proofs.ExactlyOnce
import CandleAlerts.Proofs.LetterCase
import CandleAlerts.Proofs.FloatComparison
import CandleAlerts.Proofs.NumberTexts
import CandleAlerts.Proofs.WellFormedDefinitions
import CandleAlerts.Proofs.EvaluationFallbacks
import CandleAlerts.Proofs.ReplayProtection
import CandleAlerts.Proofs.FloatRounding
import CandleAlerts.Proofs.DigitTexts
import CandleAlerts.Proofs.ShortestDigits
import CandleAlerts.Proofs.NumeralTexts
import CandleAlerts.Proofs.JsonTexts
import CandleAlerts.Proofs.JsonMembers
import CandleAlerts.Proofs.SignatureTexts
import CandleAlerts.Proofs.SignedDeliveries
import CandleAlerts.Proofs.CivilDates
import CandleAlerts.Proofs.InstantTexts
import CandleAlerts.Proofs.RuntimeTexts
import CandleAlerts.Proofs.SavedRuntimes
import CandleAlerts.Proofs.StepRuns
import CandleAlerts.Proofs.RegistryRevisions
import CandleAlerts.Proofs.ConcurrentEdits
import CandleAlerts.Proofs.SubscriptionLaws
import CandleAlerts.Proofs.SubscriptionAgreement
import CandleAlerts.Proofs.ConcurrentSubscriptions
import CandleAlerts.Proofs.TimeframeTexts
import CandleAlerts.Proofs.RecordTexts
import CandleAlerts.Proofs.EventTexts
import CandleAlerts.Proofs.RoutedEvents
import CandleAlerts.Proofs.BotQueues
import CandleAlerts.Proofs.StoredDefinitions
import CandleAlerts.Proofs.AlertAgreement
import CandleAlerts.Proofs.ByteOrder
import CandleAlerts.Proofs.DescentReading
import CandleAlerts.Proofs.CanonicalTexts
import CandleAlerts.Proofs.DeliveryCourses
import CandleAlerts.Proofs.DispatchRuns
import CandleAlerts.Proofs.DispatchTargets
import CandleAlerts.Proofs.FanOut
import CandleAlerts.Proofs.ClaimLifetimes
import CandleAlerts.Proofs.RefusedRequests
import CandleAlerts.Proofs.DispatchClaims
import CandleAlerts.Proofs.LatchProvenance
import CandleAlerts.Proofs.GroupIsolation
import CandleAlerts.Proofs.DispatchAsides
import CandleAlerts.Proofs.TickBooks
import CandleAlerts.Proofs.TickStages
import CandleAlerts.Proofs.TickStates
import CandleAlerts.Proofs.TickOutcomes
import CandleAlerts.Proofs.TickRuns
import CandleAlerts.Proofs.PlaybookGates
import CandleAlerts.Proofs.SignatureChecks
import CandleAlerts.Proofs.BrokerDeliveries
import CandleAlerts.Proofs.DefinitionReadings
import CandleAlerts.Proofs.MistypedFields
import CandleAlerts.Proofs.UnusableOperands
import CandleAlerts.Proofs.PlaybookAccounts
import CandleAlerts.Proofs.RegistryHistories
import CandleAlerts.Proofs.StoredMerges
import CandleAlerts.Proofs.RetrySchedule
import CandleAlerts.Proofs.ComponentColumns
import CandleAlerts.Proofs.Resampling
import CandleAlerts.Proofs.FloatValues
import CandleAlerts.Proofs.PercentageOffsets
import CandleAlerts.Proofs.RestartSchedule
import CandleAlerts.Proofs.TopicSubscriptions
import CandleAlerts.Proofs.FieldAliases
import CandleAlerts.Proofs.SigningKeys
import CandleAlerts.Proofs.TimeframeSpellings
import CandleAlerts.Proofs.IndicatorWindows
import CandleAlerts.Proofs.AlertEdits
import CandleAlerts.Proofs.MissingRows
import CandleAlerts.Proofs.MissingStreaks
import CandleAlerts.Proofs.RunnableConfigs
import CandleAlerts.Proofs.BarNumbers
import CandleAlerts.Proofs.RestoredWindows
import CandleAlerts.Proofs.ClaimKeys
