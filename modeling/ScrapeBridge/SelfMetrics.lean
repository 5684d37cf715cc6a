import ScrapeBridge.Exposition.Family
import ScrapeBridge.Text.Fingerprint

namespace ScrapeBridge

/-- Counters by endpoints. The metrics library is assumed to find a counter by the fingerprint of
its label and not by the label itself, so that endpoints with one fingerprint share the counter that
was made first. -/
abbrev Counters := Table Float

namespace Counters

/-- The first endpoint with the fingerprint, under which the library is assumed to count. -/
def owner (c : Counters) (endpoint : String) : String :=
  (c.keys.find? (Text.fingerprint · = Text.fingerprint endpoint)).getD endpoint

def touch (c : Counters) (endpoint : String) : Counters := c.insertIfNew (c.owner endpoint) 0

def read (c : Counters) (endpoint : String) : Float := (c.get? (c.owner endpoint)).getD 0

def add (c : Counters) (endpoint : String) (amount : Float) : Counters :=
  c.insert (c.owner endpoint) (c.read endpoint + amount)

def tick (c : Counters) (endpoint : String) (n : Nat) : Counters := n.repeat (·.add endpoint 1) c

def family (c : Counters) (name help : String) : Family :=
  ⟨name, help, .counter, c.entries.map fun (endpoint, n) =>
    ⟨.counter, [("endpoint", endpoint)], n, none⟩⟩

end Counters

structure SelfMetrics where
  received : Counters := ∅
  processed : Counters := ∅
  dropped : Counters := ∅
  reconnects : Counters := ∅
  /-- Zero as long as no interval has been seen. -/
  minInterval : Float := 0

namespace SelfMetrics

def connect (m : SelfMetrics) (endpoint : String) : SelfMetrics :=
  { m with received := m.received.touch endpoint, reconnects := m.reconnects.touch endpoint }

def observeInterval (m : SelfMetrics) (interval : Float) : SelfMetrics :=
  if interval ≤ 0 then m
  else if m.minInterval == 0 || interval < m.minInterval then { m with minInterval := interval }
  else m

def families (m : SelfMetrics) : List Family :=
  [m.received.family "telemetry_gateway_messages_received_total"
      "Total messages received from the bus by endpoint.",
    m.processed.family "telemetry_gateway_messages_processed_total"
      "Total messages parsed and queued for the cache by endpoint.",
    m.dropped.family "telemetry_gateway_messages_dropped_total"
      "Total messages dropped as unparseable by endpoint.",
    m.reconnects.family "telemetry_gateway_reconnects_total"
      "Total reconnect attempts by endpoint.",
    .single "telemetry_gateway_min_collect_interval_seconds"
      "Smallest collection interval reported by any producer." m.minInterval none]

end SelfMetrics

end ScrapeBridge
