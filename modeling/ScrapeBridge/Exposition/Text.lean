import ScrapeBridge.Decimal.Text
import ScrapeBridge.Exposition.Family

namespace ScrapeBridge.Exposition

def escapeHelp (s : String) : String :=
  String.ofList <| s.toList.flatMap fun c =>
    if c = '\\' then ['\\', '\\'] else if c = '\n' then ['\\', 'n'] else [c]

def escapeLabel (s : String) : String :=
  String.ofList <| s.toList.flatMap fun c =>
    if c = '\\' then ['\\', '\\'] else if c = '\n' then ['\\', 'n']
    else if c = '"' then ['\\', '"'] else [c]

def kindName : Kind → String
  | .gauge => "gauge"
  | .counter => "counter"

def labelsText (labels : List (String × String)) : String :=
  if labels.isEmpty then ""
  else
    let label (l : String × String) := l.1 ++ "=\"" ++ escapeLabel l.2 ++ "\""
    "\x7b" ++ ",".intercalate (labels.map label) ++ "\x7d"

def shown (kind : Kind) (m : Metric) : Float := if m.kind = kind then m.value else 0

/-- A time of zero is left out. -/
def metricLine (f : Family) (m : Metric) : String :=
  f.name ++ labelsText m.labels ++ " " ++ floatText (shown f.kind m) ++
    (if m.time = 0 then "" else " " ++ toString m.time) ++ "\n"

def helpLine (f : Family) : String :=
  if f.help.isEmpty then "" else "# HELP " ++ f.name ++ " " ++ escapeHelp f.help ++ "\n"

def familyText (f : Family) : String :=
  helpLine f ++ "# TYPE " ++ f.name ++ " " ++ kindName f.kind ++ "\n" ++
    String.join (f.metrics.map (metricLine f))

def text (families : List Family) : String := String.join (families.map familyText)

end ScrapeBridge.Exposition
