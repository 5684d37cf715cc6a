import ScrapeBridge.Text.Blank
import ScrapeBridge.Text.Pieces
import ScrapeBridge.Text.Quoted

namespace ScrapeBridge

open Text

inductive Scheme where
  | amqp
  | amqps
  deriving DecidableEq, Repr

def Scheme.name : Scheme → String
  | amqp => "amqp"
  | amqps => "amqps"

structure Endpoint where
  url : String
  scheme : Scheme
  authority : String
  address : String
  deriving DecidableEq

inductive EndpointError where
  | empty
  | unsupportedScheme (scheme url : String)
  | noHost (url : String)
  | noAddress (url : String)
  deriving DecidableEq

def EndpointError.message : EndpointError → String
  | empty => "endpoint URL is empty"
  | unsupportedScheme scheme url =>
    "unsupported scheme " ++ quoted scheme ++ " in endpoint " ++ url
  | noHost url => "endpoint " ++ url ++ " has no host"
  | noAddress url => "endpoint " ++ url ++ " has no source address"

namespace Endpoint

/-- The scheme in lower case and what follows it. A URL without a scheme is all rest. -/
def splitScheme (url : List Char) : List Char × List Char :=
  match cut? [':', '/', '/'] url with
  | some (scheme, rest) => (scheme.map Char.toLower, rest)
  | none => (['a', 'm', 'q', 'p'], url)

def scheme? (s : List Char) : Option Scheme :=
  if s = ['a', 'm', 'q', 'p'] then some .amqp
  else if s = ['a', 'm', 'q', 'p', 's'] then some .amqps
  else none

def splitAuthority (rest : List Char) : List Char × List Char :=
  (cut? ['/'] rest).getD (rest, [])

/-- Reads a URL. Of several faults the first in reading order is reported. -/
def parse (url : String) : Except EndpointError Endpoint :=
  let url := trim isBlank url.toList
  if url.isEmpty then .error .empty
  else
    let (scheme, rest) := splitScheme url
    let (authority, path) := splitAuthority rest
    let address := trim (· = '/') path
    let url := String.ofList url
    match scheme? scheme with
    | none => .error (.unsupportedScheme (String.ofList scheme) url)
    | some scheme =>
      if authority.isEmpty then .error (.noHost url)
      else if address.isEmpty then .error (.noAddress url)
      else .ok ⟨url, scheme, String.ofList authority, String.ofList address⟩

def brokerUrl (e : Endpoint) : String := e.scheme.name ++ "://" ++ e.authority

end Endpoint

end ScrapeBridge
