import Gatehouse.Http.Target
import Gatehouse.Settings.Config

/-!
# Exporting traces

Where spans are sent, and the spans that every start records.  Without an address of a
collector nothing is sent, and neither is with an address that cannot be asked for.
-/

namespace Gatehouse.Telemetry

/-- A span: its name, the span that it is part of, and its events with their attributes. -/
structure Span where
  name : String
  parent : Option String
  events : List (String × List (String × Int))
deriving DecidableEq, Repr

/-- The spans that a start records. -/
def startupSpans : List Span :=
  [⟨"Sub operation...", some "operation", [("Sub span event", [])]⟩,
    ⟨"operation", none, [("Nice operation!", [("bogons", 100)])]⟩]

/-- The texts of a span. -/
def Span.texts (span : Span) : List String :=
  span.name :: span.events.flatMap fun (name, attributes) => name :: attributes.map (·.1)

/-- An exporter of spans. -/
structure Exporter where
  url : String
  serviceName : String
deriving DecidableEq, Repr

/-- The address at a collector that takes traces. -/
def tracesUrl (endpoint : String) : String :=
  Text.trimSlashes endpoint ++ "/v1/traces"

/-- The exporter that settings make, or why there is none although an address is set. -/
def exporter? (config : Settings.TelemetryConfig) : Option (Except String Exporter) :=
  config.endpoint.map fun endpoint =>
    let url := tracesUrl endpoint
    match Http.Target.parse url with
    | .ok _ => .ok ⟨url, config.serviceName⟩
    | .error fault => .error ("invalid URI " ++ url ++ ". Reason " ++ fault.message)

/-- Whether spans are exported. -/
def exporting (config : Settings.TelemetryConfig) : Bool :=
  match exporter? config with
  | some (.ok _) => true
  | _ => false

/-- Spans on their way to a collector. -/
structure Batch where
  url : String
  contentType : String
  texts : List String
deriving DecidableEq, Repr

/-- What an exporter sends for spans; it sends nothing for none. -/
def Exporter.batch? (exporter : Exporter) (spans : List Span) : Option Batch :=
  if spans.isEmpty then none
  else
    some
      ⟨exporter.url, "application/x-protobuf", exporter.serviceName :: spans.flatMap Span.texts⟩

/-- What arrives at the collectors that can be reached when spans are recorded under settings. -/
def arrived (reachable : String → Bool) (config : Settings.TelemetryConfig) (spans : List Span) :
    List Batch :=
  match exporter? config with
  | some (.ok exporter) => ((exporter.batch? spans).filter fun batch => reachable batch.url).toList
  | _ => []

end Gatehouse.Telemetry
