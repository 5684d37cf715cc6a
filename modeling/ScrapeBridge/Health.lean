namespace ScrapeBridge

inductive LinkStatus where
  | down
  | up
  deriving DecidableEq, Repr

def LinkStatus.toNat : LinkStatus → Nat
  | down => 0
  | up => 1

/-- One link status for the whole bus, whichever connection reported last, and the outcome of the
last document write, if there was one. -/
structure Health where
  bus : LinkStatus := .down
  documentStore : Option Bool := none
  deriving DecidableEq, Repr

end ScrapeBridge
