import ScrapeBridge.Table

namespace ScrapeBridge

inductive Kind where
  | gauge
  | counter
  deriving DecidableEq, Repr

abbrev Labels := Table String

structure Reading where
  name : String
  help : String
  kind : Kind
  labels : Labels
  value : Float
  timestampMs : Option Int

end ScrapeBridge
