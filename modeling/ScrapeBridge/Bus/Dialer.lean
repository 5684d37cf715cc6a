import ScrapeBridge.Bus.Endpoint

namespace ScrapeBridge

structure Dialer where
  endpoint : Endpoint
  container : String
  link : String
  credit : Nat
  deriving DecidableEq

inductive DialError where
  | opening (broker : String)
  | session
  | attaching (address : String)
  deriving DecidableEq

def DialError.message : DialError → String
  | opening broker => "opening connection to " ++ broker
  | session => "beginning session"
  | attaching address => "attaching receiver to " ++ address

namespace Dialer

/-- The dialer of a URL. Without a prefetch messages come one at a time. -/
def create (url uniqueName : String) (prefetch : Nat) : Except EndpointError Dialer := do
  return {
    endpoint := ← Endpoint.parse url
    container := "telemetry-gateway-" ++ uniqueName
    link := "rcv" ++ uniqueName
    credit := max prefetch 1 }

def unreachable (d : Dialer) : DialError := .opening d.endpoint.brokerUrl

end Dialer

end ScrapeBridge
