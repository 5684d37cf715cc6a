namespace ScrapeBridge.Exposition

inductive Page where
  | index
  | metrics
  | health
  deriving DecidableEq, Repr

structure Response where
  status : Nat
  contentType : Option String
  body : String
  deriving DecidableEq, Repr

namespace Page

def ofTarget? (target : String) : Option Page :=
  match String.ofList (target.toList.takeWhile (· ≠ '?')) with
  | "/" => some .index
  | "/metrics" => some .metrics
  | "/healthz" => some .health
  | _ => none

def indexText : String :=
  "<html><head><title>Telemetry Gateway</title></head><body><h1>Telemetry Gateway</h1>" ++
    "<p><a href=\"/metrics\">Metrics</a></p></body></html>"

def contentType : Page → String
  | index => "text/html; charset=utf-8"
  | _ => "text/plain; charset=utf-8"

def text (metrics : String) : Page → String
  | index => indexText
  | .metrics => metrics
  | health => "ok"

end Page

def respond (method target metrics : String) : Response :=
  match Page.ofTarget? target with
  | none => ⟨404, none, ""⟩
  | some page =>
    if method = "GET" then ⟨200, some page.contentType, page.text metrics⟩
    else if method = "HEAD" then ⟨200, some page.contentType, ""⟩
    else ⟨405, none, ""⟩

end ScrapeBridge.Exposition
