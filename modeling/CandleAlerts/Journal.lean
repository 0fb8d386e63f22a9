import CandleAlerts.Market.Timeframe
import CandleAlerts.Table
import CandleAlerts.Text.Letters

/-!
What is counted and reported while the program runs.
-/

namespace CandleAlerts

/-- What is counted. -/
inductive Counter where
  | ticks
  | groupsEvaluated
  | groupFailures (reason : String)
  | marketFetches
  | indicatorComputations
  | triggers
  | firesSuppressed
  | triggersDispatched
  | dispatchesDetached
  | brokerPublished
  | brokerPublishFailed
  | webhookAttempts
  | webhookDelivered
  | webhookFailed (reason : String)
  | botTriggersQueued
  | taskRestarts (task : String)
deriving DecidableEq

def labelled (name label value : String) : String :=
  name ++ "\x7b" ++ label ++ "=\"" ++ value ++ "\"\x7d"

def Counter.text : Counter → String
  | ticks => "ticks_total"
  | groupsEvaluated => "groups_evaluated_total"
  | groupFailures reason => labelled "group_failures_total" "reason" reason
  | marketFetches => "market_fetches_total"
  | indicatorComputations => "indicator_computations_total"
  | triggers => "triggers_total"
  | firesSuppressed => "fires_suppressed_total"
  | triggersDispatched => "triggers_dispatched_total"
  | dispatchesDetached => "dispatches_detached_total"
  | brokerPublished => "broker_published_total"
  | brokerPublishFailed => "broker_publish_failed_total"
  | webhookAttempts => "webhook_attempts_total"
  | webhookDelivered => "webhook_delivered_total"
  | webhookFailed reason => labelled "webhook_failed_total" "reason" reason
  | botTriggersQueued => "bot_triggers_queued_total"
  | taskRestarts task => labelled "task_restarts_total" "task" task

/-- What is reported. -/
inductive Warning where
  | conditionNeverResolves (alertId : String) (evaluations : Nat) (reasons : List String)
  | timeframeNotScanned (symbol : String) (timeframe : Timeframe) (alerts : Nat)
  | groupSkipped (symbol : String) (timeframe : Timeframe) (alerts : Nat) (error : String)
  | dispatchDetached (symbol : String) (timeframe : Timeframe) (triggers budgetSeconds : Nat)
  | retriesExhausted (url eventId : String) (attempts : Nat) (reason : String)
  | webhookRejected (url eventId : String) (status : Nat)
  | definitionInvalid (alertId error : String)
  | alertTimeframeNotScanned (alertId : String)

def reportLine (name : String) (fields : List (String × String)) : String :=
  name ++ String.join (fields.map (fun field => " " ++ field.1 ++ "=" ++ field.2))

def Warning.text : Warning → String
  | conditionNeverResolves alertId evaluations reasons => reportLine "condition_never_resolves"
      [("alert_id", alertId), ("evaluations", toString evaluations),
       ("reasons", Text.joinWith "; " reasons)]
  | timeframeNotScanned symbol timeframe alerts => reportLine "timeframe_not_scanned"
      [("symbol", symbol), ("timeframe", timeframe.text), ("alerts", toString alerts)]
  | groupSkipped symbol timeframe alerts error => reportLine "group_skipped"
      [("symbol", symbol), ("timeframe", timeframe.text), ("alerts", toString alerts),
       ("error", error)]
  | dispatchDetached symbol timeframe triggers budgetSeconds =>
      reportLine "dispatch_detached_from_tick"
        [("symbol", symbol), ("timeframe", timeframe.text), ("triggers", toString triggers),
         ("budget_secs", toString budgetSeconds)]
  | retriesExhausted url eventId attempts reason => reportLine "webhook_retries_exhausted"
      [("url", url), ("event_id", eventId), ("attempts", toString attempts), ("reason", reason)]
  | webhookRejected url eventId status => reportLine "webhook_rejected"
      [("url", url), ("event_id", eventId), ("status", toString status)]
  | definitionInvalid alertId error => reportLine "alert_definition_invalid"
      [("alert_id", alertId), ("error", error)]
  | alertTimeframeNotScanned alertId => reportLine "alert_timeframe_not_scanned"
      [("alert_id", alertId)]

structure Journal where
  counts : Table Nat := Table.empty
  warnings : List Warning := []

namespace Journal

def count (journal : Journal) (counter : Counter) (times : Nat) : Journal :=
  if times = 0 then journal
  else
    { journal with
      counts := journal.counts.insert counter.text (journal.counts.getD counter.text 0 + times) }

def warn (journal : Journal) (warning : Warning) : Journal :=
  { journal with warnings := journal.warnings ++ [warning] }

def append (first second : Journal) : Journal :=
  { counts := second.counts.entries.foldl
      (fun counts entry => counts.insert entry.1 (counts.getD entry.1 0 + entry.2)) first.counts
    warnings := first.warnings ++ second.warnings }

instance : Append Journal := ⟨append⟩

end Journal

end CandleAlerts
