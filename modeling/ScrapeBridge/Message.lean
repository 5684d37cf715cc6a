import ScrapeBridge.Ceilometer.Decode
import ScrapeBridge.Collectd.Decode
import ScrapeBridge.Sample
import ScrapeBridge.Text.Utf8

namespace ScrapeBridge

inductive DecodeError where
  | notText (fault : Utf8.Fault)
  | malformed (source : DataSource)
  | emptyEnvelope
  deriving DecidableEq

def DecodeError.message : DecodeError → String
  | notText fault => "message body is not valid UTF-8: " ++ fault.message
  | malformed source => "malformed " ++ source.name ++ " payload"
  | emptyEnvelope => "ceilometer message has no oslo.message envelope"

def samplesOfText (text : List Char) : DataSource → Except DecodeError (List Sample)
  | .collectd =>
    match Collectd.decode text with
    | some values => .ok (values.map .collectd)
    | none => .error (.malformed .collectd)
  | .ceilometer =>
    match Ceilometer.decode text with
    | some (some measurements) => .ok (measurements.map .ceilometer)
    | some none => .error .emptyEnvelope
    | none => .error (.malformed .ceilometer)

def decodeMessage (source : DataSource) (body : List UInt8) : Except DecodeError (List Sample) := do
  let text ← (Utf8.decode body).mapError .notText
  samplesOfText text source

end ScrapeBridge
