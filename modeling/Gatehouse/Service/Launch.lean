import Gatehouse.App.State
import Gatehouse.Service.Listener
import Gatehouse.Service.Log
import Gatehouse.Telemetry.Export

/-!
# The life of the process

From the variables to the exit status, with the lines that the process logs on its way:
it reads its configuration, puts the application together, listens, and serves until it
is told to stop.
-/

namespace Gatehouse.Service

/-- The lines about the export of traces. -/
def telemetryLines (config : Settings.TelemetryConfig) : List LogLine :=
  (match Telemetry.exporter? config with
    | some (.error reason) =>
      [⟨.warning, .telemetry, "Failed to create trace exporter; continuing without export",
        [("error", reason)]⟩]
    | _ => []) ++
    [⟨.info, .telemetry, "Tracing initialized",
      [("service", config.serviceName),
        ("otlp_enabled", Settings.switchText (Telemetry.exporting config))]⟩]

/-- The line about certificates that are not verified. -/
def certificateLines (config : Settings.Config) : List LogLine :=
  if config.skipVerify then
    [⟨.warning, .program,
      "APP_TLS_INSECURE_SKIP_VERIFY is set; outbound TLS certificates are not verified", []⟩]
  else []

/-- The line about a missing client of the authorization service. -/
def authzLines (config : Settings.Config) : List LogLine :=
  match App.authzClient? config.authz with
  | none => [⟨.info, .application, "FGA_HTTP_API_URL not set; OpenFGA endpoint disabled", []⟩]
  | some (.error error) =>
    [⟨.warning, .application, "Failed to create OpenFGA client", [("error", error.message)]⟩]
  | some (.ok _) => []

/-- The lines about the application that has been put together. -/
def applicationLines (state : App.State) : List LogLine :=
  let options := state.config.session.options
  [⟨.info, .program, "Session cookie settings",
      [("path", options.path), ("secure", Settings.switchText options.secure),
        ("http_only", Settings.switchText options.httpOnly), ("same_site", Text.quote "lax")]⟩,
    ⟨.info, .program, "Registered OIDC provider",
      [("provider", state.provider.name), ("redirect_url", state.provider.redirectUrl),
        ("login_url", state.config.loginUrl)]⟩]

/-- The field that names a server. -/
def serverField (server : Server) : String × String :=
  ("server", Text.quote server.name)

/-- The line about a server that has begun to listen. -/
def listeningLine (server : Server) (port : Nat) : LogLine :=
  ⟨.info, .server, "Listening", [serverField server, ("addr", "0.0.0.0:" ++ toString port)]⟩

/-- The line about a server that has stopped as it was told to. -/
def stoppedLines (server : Server) : List LogLine :=
  match server.phase with
  | .stopped => [⟨.info, .server, "Server stopped", [serverField server]⟩]
  | _ => []

/-- The line about a signal. -/
def eventLines : ProcessEvent → List LogLine
  | .signal signal => [⟨.info, .server, "Received " ++ signal.name, []⟩]
  | .main _ => []
  | .metrics _ => []

/-- What surrounds the process: which port a port is bound as, or why it cannot be, and what
    happens while it serves. -/
structure Circumstances where
  bind : (port : Nat) → Except String Nat
  events : List ProcessEvent

/-- A port that is listened on. -/
def bindPort (around : Circumstances) (port : Nat) : Except StartupError Nat :=
  (around.bind port).mapError (.bind port)

/-- Serves on ports, of which the metrics may have one of their own. -/
def serveOn (around : Circumstances) (port : Nat) (metricsPort : Option Nat) :
    Except StartupError Unit × List LogLine :=
  let started := Process.start metricsPort.isSome
  let ended := started.run around.events
  let listening :=
    listeningLine started.main port ::
      (match started.metrics, metricsPort with
        | some server, some port => [listeningLine server port]
        | _, _ => [])
  (ended.result?.getD (.ok ()),
    listening ++ around.events.flatMap eventLines ++ stoppedLines ended.main ++
      (ended.metrics.map stoppedLines).getD [])

/-- Listens where an application is to be served, and serves it. -/
def listen (around : Circumstances) (state : App.State) : Except StartupError Unit × List LogLine :=
  match bindPort around state.config.port with
  | .error error => (.error error, [])
  | .ok port =>
    if state.config.metrics.port = state.config.port then serveOn around port none
    else
      match bindPort around state.config.metrics.port with
      | .error error => (.error error, [])
      | .ok metricsPort => serveOn around port (some metricsPort)

/-- Puts the application together, with the lines about it. -/
def assemble (config : Settings.Config) : Except StartupError App.State × List LogLine :=
  match App.State.ofConfig config with
  | .error error => (.error error, certificateLines config)
  | .ok state =>
    (.ok state, certificateLines config ++ authzLines config ++ applicationLines state)

/-- The telemetry settings of a configuration, or the usual ones without a configuration. -/
def telemetryOf (config : Except Settings.ConfigError Settings.Config) : Settings.TelemetryConfig :=
  match config with
  | .ok config => config.telemetry
  | .error _ => .default

/-- Puts together the application that variables describe, with the lines about all of it. -/
def prepare (env : Settings.Variables) : Except StartupError App.State × List LogLine :=
  let config := Settings.Config.ofVariables env
  let (state, lines) :=
    match config with
    | .ok config => assemble config
    | .error error => (.error (.config error), [])
  (state, telemetryLines (telemetryOf config) ++ lines)

/-- The last line of the log. -/
def lastLine : Except StartupError Unit → LogLine
  | .ok () => ⟨.info, .program, "Graceful shutdown complete", []⟩
  | .error error => ⟨.error, .program, "Fatal error", [("error", error.message)]⟩

/-- The variable that filters the log. -/
def filterVariable : String := "RUST_LOG"

/-- The filter that variables set. -/
def filterOf (env : Settings.Variables) : Filter :=
  .ofText (env.lookup filterVariable)

/-- Runs the process with variables: the result, and the lines that pass the filter. -/
def run (around : Circumstances) (env : Settings.Variables) :
    Except StartupError Unit × List LogLine :=
  let (prepared, lines) := prepare env
  let (result, more) :=
    match prepared with
    | .ok state => listen around state
    | .error error => (.error error, [])
  (result, (lines ++ more ++ [lastLine result]).filter (filterOf env).lets)

end Gatehouse.Service
