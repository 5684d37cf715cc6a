import ScrapeBridge.Table
import ScrapeBridge.Yaml.Scalar
import ScrapeBridge.Yaml.Tag

namespace ScrapeBridge.Yaml

structure Scalar where
  text : String
  style : Style
  tag : Option Tag
  deriving DecidableEq, Repr

inductive Node where
  | scalar (s : Scalar)
  | sequence (items : List Node)
  | mapping (pairs : List (Node × Node))
  | alias (anchor : Nat)

instance : Inhabited Node := ⟨.sequence []⟩

def Node.absent (tag : Option Tag := none) : Node := .scalar ⟨"", .plain, tag⟩

mutual

/-- How many events tell of a node: one, or one for each end of a collection and those inside. -/
def Node.size : Node → Nat
  | .scalar _ => 1
  | .alias _ => 1
  | .sequence items => 2 + sizeOfItems items
  | .mapping pairs => 2 + sizeOfPairs pairs

def sizeOfItems : List Node → Nat
  | [] => 0
  | n :: rest => n.size + sizeOfItems rest

def sizeOfPairs : List (Node × Node) → Nat
  | [] => 0
  | (k, v) :: rest => k.size + v.size + sizeOfPairs rest

end

structure Document where
  root : Node
  /-- Anchored nodes by the numbers of their anchors. Those that begin later come first. -/
  anchored : List (Nat × Node)
  isWhole : Bool
  size : Nat

end ScrapeBridge.Yaml
