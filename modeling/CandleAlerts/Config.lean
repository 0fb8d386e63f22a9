import CandleAlerts.Alert.Basic
import CandleAlerts.Json.Basic

/-!
The configuration, read from environment variables.

Every variable has a default. A variable that cannot be read refuses the whole configuration; of
several the first in the order of the fields is named.
-/

namespace CandleAlerts

/-- Where the definitions and records are kept. -/
inductive StoreBackend where
  | postgres
  | memory
deriving DecidableEq

/-- The configuration. Times are in seconds. -/
structure Config where
  evaluationInterval : Nat
  timeframes : List Timeframe
  groupTimeout : Nat
  maxConcurrentGroups : Nat
  candleLimit : Nat
  /-- How many dispatches may be under way at once, across ticks. -/
  maxDispatches : Nat
  webhookTimeout : Nat
  webhookMaxRetries : UInt32
  webhookMaxAge : Nat
  webhookSecret : String
  defaultFireMode : FireMode
  marketDataUrl : String
  kafkaBrokers : String
  redisUrl : String
  databaseUrl : String
  storeBackend : StoreBackend
  apiPort : UInt16
  syncInterval : Nat
  botRouterEnabled : Bool

/-- Why a configuration is refused. -/
inductive ConfigError where
  | seconds (setting : String) (fault : Decimal.IntegerFault)
  | integer (setting kind : String) (fault : Decimal.IntegerFault)
  | timeframe (given : String)
  | fireMode (given : String)
  | storeBackend (given : String)
  | truthValue (setting : String)

def ConfigError.message : ConfigError → String
  | seconds setting fault => setting ++ " must be a whole number of seconds: " ++ fault.message
  | integer setting kind fault => setting ++ " must be " ++ kind ++ ": " ++ fault.message
  | timeframe given => "EVAL_TIMEFRAMES: unknown timeframe `" ++ given ++ "`"
  | fireMode given => "DEFAULT_FIRE_MODE: unknown mode `" ++ given ++ "`"
  | storeBackend given => "STORE_BACKEND must be `postgres` or `memory`, got `" ++ given ++ "`"
  | truthValue setting =>
      setting ++ " must be true or false: provided string was not `true` or `false`"

namespace Config

abbrev Environment := Table String

/-- Read a number of seconds. -/
def seconds (environment : Environment) (setting default : String) : Except ConfigError Nat :=
  (Decimal.readNat (UInt64.size - 1) (environment.getD setting default).toList).mapError
    (ConfigError.seconds setting)

/-- Read a number of at most `greatest`, `kind` naming its type. -/
def number (environment : Environment) (setting default kind : String) (greatest : Nat) :
    Except ConfigError Nat :=
  (Decimal.readNat greatest (environment.getD setting default).toList).mapError
    (ConfigError.integer setting kind)

/-- Read timeframes with commas between them; what is blank between commas is passed over. -/
def timeframeList (text : String) : Except ConfigError (List Timeframe) :=
  (((Text.splitAtEach ',' text.toList).map Text.trimBlanks).filter
    (fun part => !part.isEmpty)).mapM (fun part =>
      match Timeframe.parse? (String.ofList part) with
      | some timeframe => .ok timeframe
      | none => .error (.timeframe (String.ofList part)))

def readFireMode (text : String) : Except ConfigError FireMode :=
  match FireMode.parse? text with
  | some mode => .ok mode
  | none => .error (.fireMode text)

def readStoreBackend (text : String) : Except ConfigError StoreBackend :=
  let word := Text.asciiLower (Text.trim text)
  if word = "postgres" then .ok .postgres
  else if word = "memory" then .ok .memory
  else .error (.storeBackend word)

def truthValue (environment : Environment) (setting default : String) : Except ConfigError Bool :=
  match environment.getD setting default with
  | "true" => .ok true
  | "false" => .ok false
  | _ => .error (.truthValue setting)

def greatestWord : Nat := UInt64.size - 1

def ofEnvironment (environment : Environment) : Except ConfigError Config := do
  return {
    evaluationInterval := ← seconds environment "EVAL_INTERVAL_SECS" "60"
    timeframes := ← timeframeList (environment.getD "EVAL_TIMEFRAMES" "1m,5m,15m,1h,4h,1d")
    groupTimeout := ← seconds environment "EVAL_GROUP_TIMEOUT_SECS" "10"
    maxConcurrentGroups :=
      ← number environment "EVAL_MAX_CONCURRENT_GROUPS" "8" "usize" greatestWord
    candleLimit := ← number environment "EVAL_CANDLE_LIMIT" "300" "usize" greatestWord
    maxDispatches := ← number environment "DISPATCH_MAX_INFLIGHT" "256" "usize" greatestWord
    webhookTimeout := ← seconds environment "WEBHOOK_TIMEOUT_SECS" "10"
    webhookMaxRetries :=
      UInt32.ofNat (← number environment "WEBHOOK_MAX_RETRIES" "3" "u32" (UInt32.size - 1))
    webhookMaxAge := ← seconds environment "WEBHOOK_MAX_AGE_SECS" "300"
    webhookSecret := environment.getD "WEBHOOK_SECRET" ""
    defaultFireMode := ← readFireMode (environment.getD "DEFAULT_FIRE_MODE" "per_bar")
    marketDataUrl := environment.getD "MARKET_DATA_URL" "https://api.binance.com/api/v3/klines"
    kafkaBrokers := environment.getD "KAFKA_BROKERS" "localhost:9092"
    redisUrl := environment.getD "REDIS_URL" "redis://localhost:6379"
    databaseUrl := environment.getD "DATABASE_URL" "postgres://localhost/alertflow"
    storeBackend := ← readStoreBackend (environment.getD "STORE_BACKEND" "postgres")
    apiPort := UInt16.ofNat (← number environment "API_PORT" "8090" "u16" (UInt16.size - 1))
    syncInterval := ← seconds environment "REGISTRY_SYNC_SECS" "30"
    botRouterEnabled := ← truthValue environment "BOT_ROUTER_ENABLED" "true" }

/-- Whether events are published through Kafka; otherwise they stay in the process. -/
def kafkaEnabled (config : Config) : Bool := !(Text.trim config.kafkaBrokers).isEmpty

end Config

/-- What the scheduler goes by. Times are in milliseconds. -/
structure SchedulerSettings where
  interval : Nat
  timeframes : List Timeframe
  groupTimeout : Nat
  maxConcurrentGroups : Nat
  candleLimit : Nat
  maxDispatches : Nat

/-- The most permits that can be counted for work that is limited. -/
def mostPermits : Nat := (UInt64.size - 1) / 8

/-- How many dispatches may be under way, also if the settings allow none. -/
def SchedulerSettings.slots (settings : SchedulerSettings) : Nat := max settings.maxDispatches 1

/-- The scheduler's settings in a configuration; at least one group and one dispatch may be under
way. -/
def SchedulerSettings.ofConfig (config : Config) : SchedulerSettings :=
  { interval := config.evaluationInterval * 1000
    timeframes := config.timeframes
    groupTimeout := config.groupTimeout * 1000
    maxConcurrentGroups := max config.maxConcurrentGroups 1
    candleLimit := config.candleLimit
    maxDispatches := max config.maxDispatches 1 }

def timeframesJson (timeframes : List Timeframe) : Json :=
  .ofList (fun timeframe => .string timeframe.text) timeframes

/-- The scheduler's settings as JSON, with times in seconds. -/
def SchedulerSettings.toJson (settings : SchedulerSettings) : Json := .object
  [("interval", .ofNat (settings.interval / 1000)),
   ("timeframes", timeframesJson settings.timeframes),
   ("group_timeout", .ofNat (settings.groupTimeout / 1000)),
   ("max_concurrent_groups", .ofNat settings.maxConcurrentGroups),
   ("candle_limit", .ofNat settings.candleLimit),
   ("max_inflight_dispatches", .ofNat settings.maxDispatches)]

def StoreBackend.name : StoreBackend → String
  | postgres => "Postgres"
  | memory => "Memory"

def Config.toJson (config : Config) : Json := .object
  [("eval_interval", .ofNat config.evaluationInterval),
   ("eval_timeframes", timeframesJson config.timeframes),
   ("group_timeout", .ofNat config.groupTimeout),
   ("max_concurrent_groups", .ofNat config.maxConcurrentGroups),
   ("candle_limit", .ofNat config.candleLimit),
   ("max_inflight_dispatches", .ofNat config.maxDispatches),
   ("webhook_timeout", .ofNat config.webhookTimeout),
   ("webhook_max_retries", .ofNat config.webhookMaxRetries.toNat),
   ("webhook_max_age", .ofNat config.webhookMaxAge),
   ("webhook_secret", .string config.webhookSecret),
   ("default_fire_mode", .string config.defaultFireMode.text),
   ("market_data_url", .string config.marketDataUrl),
   ("kafka_brokers", .string config.kafkaBrokers),
   ("kafka_enabled", .boolean config.kafkaEnabled),
   ("redis_url", .string config.redisUrl),
   ("database_url", .string config.databaseUrl),
   ("store_backend", .string config.storeBackend.name),
   ("api_port", .ofNat config.apiPort.toNat),
   ("registry_sync_interval", .ofNat config.syncInterval),
   ("bot_router_enabled", .boolean config.botRouterEnabled)]

end CandleAlerts
