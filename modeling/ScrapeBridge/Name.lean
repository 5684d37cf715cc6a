namespace ScrapeBridge

def isNameChar (c : Char) : Bool := c.isAlphanum || c = '_' || c = ':'

def metricName (s : String) : String :=
  s.map fun c => if isNameChar c then c else '_'

/-- A label name holds no colon either, and is not empty. -/
def labelName (s : String) : String :=
  if s.isEmpty then "plugin" else (metricName s).map fun c => if c = ':' then '_' else c

end ScrapeBridge
