import ScrapeBridge.Ceilometer.Measurement
import ScrapeBridge.Collectd.ValueList

namespace ScrapeBridge

inductive DataSource where
  | collectd
  | ceilometer
  deriving DecidableEq, Repr

def DataSource.name : DataSource → String
  | .collectd => "collectd"
  | .ceilometer => "ceilometer"

inductive Sample where
  | collectd (v : Collectd.ValueList)
  | ceilometer (m : Ceilometer.Measurement)

instance : Inhabited Sample := ⟨.collectd {}⟩

namespace Sample

def dataSource : Sample → DataSource
  | collectd _ => .collectd
  | ceilometer _ => .ceilometer

def hostKey : Sample → String
  | collectd v => v.host
  | ceilometer m => m.publisher

def itemKey : Sample → String
  | collectd v => v.itemKey
  | ceilometer m => m.itemKey

/-- Seconds between two reports; publishers of measurements do not say and are taken to report
every five seconds. -/
def interval : Sample → Float
  | collectd v => v.interval
  | ceilometer _ => 5

def values : Sample → List Float
  | collectd v => v.values
  | ceilometer m => m.values

def reading? (useTimestamp : Bool) : Sample → Nat → Option Reading
  | collectd v => v.reading? useTimestamp
  | ceilometer m => m.reading? useTimestamp

def readings (useTimestamp : Bool) (s : Sample) : List Reading :=
  (List.range s.values.length).filterMap (s.reading? useTimestamp)

/-- Puts the readings behind those of an output, value by value; values that cannot be exposed are
skipped. Also returns how many readings it has put there. -/
def appendReadings (useTimestamp : Bool) (s : Sample) (output : List Reading) :
    List Reading × Nat :=
  let filled := (List.range s.values.length).foldl (fun output i =>
    output ++ (s.reading? useTimestamp i).toList) output
  (filled, filled.length - output.length)

end Sample

end ScrapeBridge
