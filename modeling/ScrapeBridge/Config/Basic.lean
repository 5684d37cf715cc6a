import ScrapeBridge.Bus.Endpoint
import ScrapeBridge.Sample
import ScrapeBridge.Time.Duration

namespace ScrapeBridge

structure SourceConfig where
  url : String
  dataSource : DataSource

structure Config where
  logLevel : String := "info"
  uniqueName : String := "telemetry-gateway"
  connections : List SourceConfig := []
  /-- How many messages a broker may send ahead; with zero they come one at a time. -/
  prefetch : Nat := 0
  messageCount : Option Nat := none
  bufferSize : Nat := 100
  reconnectBackoff : Duration := .ofSeconds 2
  timeToLive : Duration := .ofSeconds 300
  address : String := "127.0.0.1:8081"
  useTimestamp : Bool := false

inductive ConfigError where
  | noConnections
  | noUrl (index : Nat)
  | badUrl (index : Nat) (e : EndpointError)
  | noName
  | noBuffer
  | noBackoff
  | zeroMessages
  | shortTimeToLive
  | noAddress
  deriving DecidableEq

def ConfigError.message : ConfigError → String
  | noConnections => "at least one entry in connections is required"
  | noUrl i => "connections[" ++ toString i ++ "].url is required"
  | badUrl i e => "connections[" ++ toString i ++ "].url: " ++ e.message
  | noName => "unique_name must not be empty"
  | noBuffer => "buffer_size must be positive"
  | noBackoff => "reconnect_backoff must be positive"
  | zeroMessages => "message_count must be positive when set"
  | shortTimeToLive => "cache.ttl must be at least 1s"
  | noAddress => "exporter.addr is required"

structure ConnectionSettings where
  index : Nat
  dataSource : DataSource
  bufferSize : Nat
  reconnectBackoff : Duration
  messageCount : Option Nat

namespace Config

def checkUrl (index : Nat) (url : String) : Except ConfigError Unit :=
  match Endpoint.parse url with
  | .ok _ => .ok ()
  | .error .empty => .error (.noUrl index)
  | .error e => .error (.badUrl index e)

def checkUrls (index : Nat) : List SourceConfig → Except ConfigError Unit
  | [] => .ok ()
  | s :: rest => do
    checkUrl index s.url
    checkUrls (index + 1) rest

def check (p : Bool) (e : ConfigError) : Except ConfigError Unit := if p then .ok () else .error e

/-- Reports the first of these faults that a configuration has. -/
def validate (c : Config) : Except ConfigError Unit := do
  check (!c.connections.isEmpty) .noConnections
  checkUrls 0 c.connections
  check (!c.uniqueName.isEmpty) .noName
  check (c.bufferSize ≠ 0) .noBuffer
  check (!c.reconnectBackoff.isZero) .noBackoff
  check (c.messageCount ≠ some 0) .zeroMessages
  check (1 ≤ c.timeToLive.seconds) .shortTimeToLive
  check (!c.address.isEmpty) .noAddress

def connection? (c : Config) (index : Nat) : Option ConnectionSettings :=
  c.connections[index]?.map fun s =>
    { index
      dataSource := s.dataSource
      bufferSize := c.bufferSize
      reconnectBackoff := c.reconnectBackoff
      messageCount := c.messageCount }

end Config

end ScrapeBridge
