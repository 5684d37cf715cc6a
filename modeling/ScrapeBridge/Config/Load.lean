import ScrapeBridge.Config.Basic
import ScrapeBridge.Text.Utf8
import ScrapeBridge.Yaml.Reader
import ScrapeBridge.Yaml.Record

namespace ScrapeBridge.Config

open Yaml

inductive LoadError where
  | unreadable
  | malformed
  | overflow
  | invalid (e : ConfigError)
  deriving DecidableEq

def LoadError.message : LoadError → String
  | unreadable => "reading config file"
  | malformed => "parsing config file"
  | overflow => "overflow in Duration::new"
  | invalid e => e.message

def dataSource (node : Node) : Typed DataSource := do
  match ← Typed.choice node with
  | "collectd" => return .collectd
  | "ceilometer" => return .ceilometer
  | _ => throw .malformed

def duration (node : Node) : Typed Duration := do
  match Duration.parse (← Typed.text node) with
  | .ok d => return d
  | .error .malformed => throw .malformed
  | .error .overflow => throw .overflow

def source (node : Node) : Typed SourceConfig := do
  let (url, dataSource?) ← Typed.record [
    .of "url" Typed.text fun (_, s) url => (url, s),
    .of "data_source" dataSource fun (url, _) s => (url, some s)] ("", none) node
  return ⟨url, ← Typed.ofOption dataSource?⟩

def cacheFields : List (RecordField Config) := [
  .of "ttl" duration fun c d => { c with timeToLive := d }]

def exporterFields : List (RecordField Config) := [
  .of "addr" Typed.text fun c s => { c with address := s },
  .of "use_timestamp" Typed.bool fun c b => { c with useTimestamp := b }]

def configFields : List (RecordField Config) := [
  .of "log_level" Typed.text fun c s => { c with logLevel := s },
  .of "unique_name" Typed.text fun c s => { c with uniqueName := s },
  .of "connections" (Typed.list source) fun c l => { c with connections := l },
  .of "prefetch" (Typed.natural UInt32.size) fun c n => { c with prefetch := n },
  .of "message_count" (Typed.optional (Typed.natural UInt64.size))
    fun c n => { c with messageCount := n },
  .of "buffer_size" (Typed.natural UInt64.size) fun c n => { c with bufferSize := n },
  .of "reconnect_backoff" duration fun c d => { c with reconnectBackoff := d },
  ⟨"cache", Typed.record cacheFields⟩,
  ⟨"exporter", Typed.record exporterFields⟩]

/-- The configuration that a document describes. A value that cannot be held counts before a fault
in what comes after it. -/
def ofDocument (d : Document) : Except LoadError Config :=
  match Typed.ofDocument (Typed.record configFields {}) d with
  | .error .overflow => .error .overflow
  | .error .malformed => .error .malformed
  | .ok c => if d.isWhole then .ok c else .error .malformed

def load (contents : Option (List UInt8)) : Except LoadError Config := do
  let some bytes := contents | throw .unreadable
  let text ← (Utf8.decode bytes).mapError fun _ => .unreadable
  let config ← ofDocument (Document.read text)
  config.validate.mapError .invalid
  return config

end ScrapeBridge.Config
