import ScrapeBridge.Exposition.Host

namespace ScrapeBridge

def listenAddress (address : String) : String :=
  if address.toList.head? = some ':' then "0.0.0.0" ++ address else address

namespace Listen

open Text

def refusal (address : String) : String := "listening on " ++ listenAddress address

def port? (s : List Char) : Option Nat := do
  let n ← natural? 10 s
  if n < 65536 then return n else failure

def signedPort? : List Char → Option Nat
  | '+' :: rest => port? rest
  | s => port? s

/-- The host and the port of an address, if somebody can listen there. The port is what follows the
last colon. The colons of a host can be kept apart by brackets. -/
def bind? (address : String) : Option (String × Nat) := do
  let (port, some host) := cutLast ':' (listenAddress address).toList | none
  match host, host.getLast? with
  | '[' :: rest, some ']' => return (← Host.listenable6? rest.dropLast, ← port? port)
  | _, _ => return (← Host.listenable? host, ← signedPort? port)

end Listen

end ScrapeBridge
