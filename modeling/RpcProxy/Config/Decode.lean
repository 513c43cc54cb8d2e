import RpcProxy.Config.Basic
import RpcProxy.Toml.Document
import RpcProxy.Toml.SpelledDate

/-!
# Settings from TOML

A configuration is read from a TOML value field by field. Fields that no setting has are ignored;
a field of the wrong type, or a missing one without a default, makes the whole file unreadable. A
group of settings may also be given as an array, in the order in which the fields are declared.
-/

set_option autoImplicit false

namespace RpcProxy.Config

open Toml (Value)

/-! ## Single values -/

def text? : Value → Option String
  | .string s => some s
  | _ => none

/-- A truth value. -/
def bool? : Value → Option Bool
  | .boolean b => some b
  | _ => none

/-- A number that is not negative and at most `most`. -/
def nat? (most : Nat) : Value → Option Nat
  | .integer n => if 0 ≤ n && n ≤ most then some n.toNat else none
  | _ => none

/-- A number of 64 bits. -/
def word64? : Value → Option Nat := nat? (UInt64.size - 1)

/-- A number of 32 bits. -/
def word32? : Value → Option Nat := nat? (UInt32.size - 1)

/-- A float, for which an integer will do. -/
def float? : Value → Option Float
  | .float x => some x
  | .integer n => some (Float.ofInt n)
  | _ => none

/-- The items of an array, each read alike. -/
def list? {α : Type} (item? : Value → Option α) : Value → Option (List α)
  | .array vs => vs.mapM item?
  | _ => none

/-- The entries of a value that can be read by key. A date counts as a table with one entry. -/
def entries? : Value → Option (List (String × Value))
  | .table es => some es
  | .datetime d => some [(Value.dateKey, .string d.text)]
  | _ => none

/-- The entries of a table, each value read alike. -/
def map? {α : Type} (item? : Value → Option α) (v : Value) : Option (StringMap α) := do
  let entries ← (← entries? v).mapM fun (key, v) => (item? v).map (key, ·)
  return StringMap.ofList entries

/-- One of several names; a table with that one key and nothing under it will do too. -/
def choice? {α : Type} (names : List (String × α)) : Value → Option α
  | .string s => names.lookup s
  | .table [(key, .table [])] => names.lookup key
  | .table [(key, .array [])] => names.lookup key
  | _ => none

/-! ## Groups of settings -/

/-- The fields of a group of settings: by name, or by place in an array. -/
structure Fields where
  entries : List (String × Value)

def fields? (names : List String) : Value → Option Fields
  | .array vs => some ⟨names.zip vs⟩
  | v => (entries? v).map Fields.mk

/-- A field that must be given. -/
def Fields.required {α : Type} (f : Fields) (name : String) (read : Value → Option α) : Option α :=
  (f.entries.lookup name).bind read

/-- A field with a value to fall back on. -/
def Fields.withDefault {α : Type} (f : Fields) (name : String) (read : Value → Option α)
    (fallback : α) : Option α :=
  match f.entries.lookup name with
  | some v => read v
  | none => some fallback

def Fields.optional {α : Type} (f : Fields) (name : String) (read : Value → Option α) :
    Option (Option α) :=
  match f.entries.lookup name with
  | some v => (read v).map some
  | none => some none

def OutlierDetection.ofValue? (v : Value) : Option OutlierDetection := do
  let f ← fields? ["consecutive_failures", "consecutive_local_origin_failures", "success_threshold",
    "base_ejection_time_ms"] v
  let d : OutlierDetection := {}
  return {
    consecutiveFailures :=
      ← f.withDefault "consecutive_failures" word32? d.consecutiveFailures
    consecutiveLocalFailures :=
      ← f.withDefault "consecutive_local_origin_failures" word32? d.consecutiveLocalFailures
    successThreshold := ← f.withDefault "success_threshold" word32? d.successThreshold
    baseEjectionMillis := ← f.withDefault "base_ejection_time_ms" word64? d.baseEjectionMillis }

def Cluster.ofValue? (v : Value) : Option Cluster := do
  let f ← fields? ["name", "hosts", "transport", "protocol", "close_downstream_on_error",
    "max_connections", "connect_timeout", "outlier_detection"] v
  return {
    name := ← f.required "name" text?
    hosts := ← f.required "hosts" (list? text?)
    transport := ← f.withDefault "transport"
      (choice? [("framed", Transport.framed), ("unframed", .unframed)]) .framed
    protocol := ← f.withDefault "protocol"
      (choice? [("binary", Protocol.binary), ("compact", .compact)]) .binary
    closeDownstreamOnError := ← f.withDefault "close_downstream_on_error" bool? true
    maxConnections := ← f.withDefault "max_connections" word64? 1024
    connectTimeout := ← f.withDefault "connect_timeout" word64? 10
    outlierDetection := ← f.withDefault "outlier_detection" OutlierDetection.ofValue? {} }

def DirectResponse.ofValue? (v : Value) : Option DirectResponse := do
  let f ← fields? ["status", "message"] v
  return {
    status := ← f.withDefault "status" text? "ok"
    message := ← f.withDefault "message" text? "" }

def Route.ofValue? (v : Value) : Option Route := do
  let f ← fields? ["name", "service", "method", "properties", "cluster", "direct_response",
    "metadata"] v
  return {
    name := ← f.required "name" text?
    service := ← f.optional "service" text?
    method := ← f.optional "method" text?
    properties := ← f.withDefault "properties" (map? text?) {}
    cluster := ← f.optional "cluster" text?
    directResponse := ← f.optional "direct_response" DirectResponse.ofValue?
    metadata := ← f.withDefault "metadata" (map? text?) {} }

def Filter.ofValue? (v : Value) : Option Filter := do
  let f ← fields? ["name", "config"] v
  return {
    name := ← f.required "name" text?
    settings := ← f.withDefault "config" (map? Value.readDates?) {} }

def Tracing.ofValue? (v : Value) : Option Tracing := do
  let f ← fields? ["random_sampling", "operation_name", "verbose", "max_path_tag_length",
    "custom_tags"] v
  return {
    randomSampling := ← f.withDefault "random_sampling" float? 100
    operation := ← f.withDefault "operation_name"
      (choice? [("ingress", Operation.ingress), ("egress", .egress)]) .ingress
    verbose := ← f.withDefault "verbose" bool? false
    maxPathLength := ← f.withDefault "max_path_tag_length" word64? 256
    customTags := ← f.withDefault "custom_tags" (map? text?) {} }

def Listener.ofValue? (v : Value) : Option Listener := do
  let f ← fields? ["name", "address", "codec", "stat_prefix", "drain_close", "tracing", "filters",
    "routes"] v
  return {
    name := ← f.required "name" text?
    address := ← f.required "address" text?
    codec := ← f.withDefault "codec" text? "text"
    statLabel := ← f.optional "stat_prefix" text?
    drainClose := ← f.withDefault "drain_close" bool? true
    tracing := ← f.optional "tracing" Tracing.ofValue?
    filters := ← f.withDefault "filters" (list? Filter.ofValue?) []
    routes := ← f.withDefault "routes" (list? Route.ofValue?) [] }

/-- The settings of the process. -/
def Global.ofValue? (v : Value) : Option Global := do
  let f ← fields? ["log_level", "grace_period"] v
  return {
    logLevel := ← f.withDefault "log_level" text? "info"
    gracePeriod := ← f.withDefault "grace_period" word64? 30 }

/-- The settings of the export of spans. -/
def Telemetry.ofValue? (v : Value) : Option Telemetry := do
  let f ← fields? ["enabled", "otlp_endpoint", "service_name", "sampling_ratio"] v
  let d : Telemetry := {}
  return {
    enabled := ← f.withDefault "enabled" bool? d.enabled
    endpoint := ← f.withDefault "otlp_endpoint" text? d.endpoint
    serviceName := ← f.withDefault "service_name" text? d.serviceName
    samplingRatio := ← f.withDefault "sampling_ratio" float? d.samplingRatio }

/-- The feature flags. -/
def overrides? (v : Value) : Option (StringMap Float) := do
  let f ← fields? ["overrides"] v
  f.withDefault "overrides" (map? float?) {}

def ofValue? (v : Value) : Option Config := do
  let f ← fields? ["global", "telemetry", "runtime", "listeners", "clusters"] v
  return {
    global := ← f.withDefault "global" Global.ofValue? {}
    telemetry := ← f.withDefault "telemetry" Telemetry.ofValue? {}
    overrides := ← f.withDefault "runtime" overrides? {}
    listeners := ← f.withDefault "listeners" (list? Listener.ofValue?) []
    clusters := ← f.withDefault "clusters" (list? Cluster.ofValue?) [] }

end RpcProxy.Config
