import ScrapeBridge.Cache.Basic
import ScrapeBridge.Exposition.Family
import ScrapeBridge.Health

namespace ScrapeBridge.Scrape

def metric (r : Reading) : Metric := ⟨r.kind, r.labels.entries, r.value, r.timestampMs⟩

/-- Puts a reading into the family of its name. The first reading of a name fixes help and kind;
later ones of the other kind are dropped. -/
def addReading (families : Table Family) (r : Reading) : Table Family :=
  match families.get? r.name with
  | none => families.insert r.name ⟨r.name, r.help, r.kind, [metric r]⟩
  | some f =>
    if f.kind = r.kind then families.insert r.name { f with metrics := f.metrics ++ [metric r] }
    else families

def group (readings : List Reading) : List Family :=
  (readings.foldl addReading ∅).entries.map (·.2)

def count (n : Nat) : Float := (UInt64.ofNat n).toFloat

def heartbeat (a : Cache.Activity) : Metric :=
  .gauge [("instance", a.host)] (if 0 < a.newValues then 1 else 0) none

def valueCount (a : Cache.Activity) : Metric :=
  .gauge [("instance", a.host)] (count a.newValues) none

def hostFamilies (hosts : List Cache.Activity) : List Family :=
  if hosts.isEmpty then []
  else
    [⟨"collectd_last_metric_for_host_status", "Status of metrics for host currently active.",
        .gauge, hosts.map heartbeat⟩,
      ⟨"collectd_metric_per_host", "No of metrics for host currently read.",
        .gauge, hosts.map valueCount⟩]

def healthFamilies (h : Health) (nowMs : Int) : List Family :=
  .single "telemetry_gateway_bus_connected" "Last reported bus link status (1=up, 0=down)."
      (count h.bus.toNat) (some nowMs) ::
    match h.documentStore with
    | none => []
    | some ok =>
      [.single "telemetry_gateway_doc_store_connected"
        "Outcome of the last document store write (1=ok, 0=failed)."
        (if ok then 1 else 0) (some nowMs)]

def collect (cache : Cache) (health : Health) (useTimestamp : Bool) (nowMs : Int) :
    Cache × List Family :=
  let (cache, flush) := cache.flush (nowMs / 1000) useTimestamp
  (cache,
    .single "telemetry_gateway_last_pull_timestamp_seconds" "Unix time of the most recent scrape."
        (Float.ofInt nowMs / 1000) (some nowMs) ::
      healthFamilies health nowMs ++ group flush.readings ++ hostFamilies flush.hosts ++
      [.single "telemetry_gateway_cache_hosts"
        "Number of hosts held in the cache after the last flush." (count cache.size) (some nowMs)])

end ScrapeBridge.Scrape
