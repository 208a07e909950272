import Wayfinder.Doc.Basic
import Wayfinder.Host.Basic
import Wayfinder.Pipe.Session
import Wayfinder.Route.Navigator
import Wayfinder.Yaml.Document

/-! The settings file. A file that is missing or malformed counts as one that sets nothing. -/
namespace Wayfinder

structure Settings where
  session : SessionOptions := {}
  navigator : NavigatorSettings := {}
  output : Option String := none
deriving DecidableEq, Repr

namespace SessionOptions

def encode (o : SessionOptions) : Json :=
  .obj [("server_script", .str o.serverScript), ("settle_ms", .ofNat o.settleTime)]

def decode? : Decoder SessionOptions := fun d => do
  match ← d.fields? ["server_script", "settle_ms"] with
  | [serverScript, settleTime] =>
    let default : SessionOptions := {}
    return {
      serverScript := ← Doc.defaulted default.serverScript Doc.text? serverScript
      settleTime := ← Doc.defaulted default.settleTime (Doc.natUpTo? maxWord) settleTime }
  | _ => none

end SessionOptions

namespace NavigatorSettings

def encode (s : NavigatorSettings) : Json :=
  .obj [("max_backtrace_depth", .ofNat s.maxBacktraceDepth), ("base_url", .ofOption .str s.baseUrl),
    ("trace_path", .ofOption .str s.tracePath)]

def decode? : Decoder NavigatorSettings := fun d => do
  match ← d.fields? ["max_backtrace_depth", "base_url", "trace_path"] with
  | [depth, baseUrl, tracePath] =>
    let default : NavigatorSettings := {}
    return {
      maxBacktraceDepth := ← Doc.defaulted default.maxBacktraceDepth (Doc.natUpTo? maxWord) depth
      baseUrl := ← Doc.optional Doc.text? baseUrl
      tracePath := ← Doc.optional Doc.text? tracePath }
  | _ => none

end NavigatorSettings

namespace Settings

def fileName : String := "portal-nav.yaml"

def encode (s : Settings) : Json :=
  .obj [("browser", s.session.encode), ("navigator", s.navigator.encode),
    ("run", .obj [("output", .ofOption .str s.output)])]

def decodeOutput? : Decoder (Option String) := fun d => do
  match ← d.fields? ["output"] with
  | [output] => Doc.optional Doc.text? output
  | _ => none

def decode? : Decoder Settings := fun d => do
  match ← d.fields? ["browser", "navigator", "run"] with
  | [session, navigator, run] =>
    return {
      session := ← Doc.defaulted {} SessionOptions.decode? session
      navigator := ← Doc.defaulted {} NavigatorSettings.decode? navigator
      output := ← Doc.defaulted none decodeOutput? run }
  | _ => none

def ofYaml (text : String) : Settings := ((Yaml.document? text).bind decode?).getD {}

def load {m : Type → Type} [Monad m] [Host m] (path : Option String) : m Settings := do
  match ← Host.readText (path.getD fileName) with
  | .ok text => return ofYaml text
  | .error _ => return {}

/-- The navigator's settings; a base URL given by the caller comes first. -/
def navigatorFor (s : Settings) (baseUrl : Option String) : NavigatorSettings :=
  { s.navigator with baseUrl := baseUrl.or s.navigator.baseUrl }

end Settings
end Wayfinder
