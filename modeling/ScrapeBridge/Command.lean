import ScrapeBridge.Bus.Dialer
import ScrapeBridge.Config.Load

namespace ScrapeBridge

inductive Command where
  | version
  | help
  /-- Checks a configuration. A log level that is given counts in place of the configured one. -/
  | check (logLevel : Option String)
  deriving DecidableEq, Repr

namespace Command

def options (logLevel : Option String) : List String → Option Command
  | [] => some (check logLevel)
  | ["--log-level"] => none
  | "--log-level" :: level :: rest => options (some level) rest
  | _ => none

def ofArguments? : List String → Option Command
  | ["version"] => some version
  | ["--help"] => some help
  | arguments => options none arguments

def usage : List String :=
  ["usage: telemetry-gateway [--log-level LEVEL] < CONFIG", "       telemetry-gateway version"]

def introduction (c : Config) (s : SourceConfig) : String :=
  match Dialer.create s.url c.uniqueName c.prefetch with
  | .ok d => d.endpoint.url ++ " as " ++ d.container ++ " over " ++ d.link
  | .error e => e.message

def outline (c : Config) : List String :=
  ("log level " ++ c.logLevel) :: ("scrapes at " ++ c.address) ::
    c.connections.map (introduction c)

def output (contents : List UInt8) : Command → Except Config.LoadError (List String)
  | version => .ok ["telemetry-gateway 0.1.0"]
  | help => .ok usage
  | check logLevel => do
    let c ← Config.load (some contents)
    return outline { c with logLevel := logLevel.getD c.logLevel }

end Command

end ScrapeBridge
