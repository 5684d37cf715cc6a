namespace ScrapeBridge.Text

def pieces (separator : Char) : List Char → List Char × List (List Char)
  | [] => ([], [])
  | c :: rest =>
    let (first, others) := pieces separator rest
    if c = separator then ([], first :: others) else (c :: first, others)

def cut? (separator : List Char) : List Char → Option (List Char × List Char)
  | [] => if separator.isEmpty then some ([], []) else none
  | c :: rest =>
    if separator.isPrefixOf (c :: rest) then some ([], (c :: rest).drop separator.length)
    else (cut? separator rest).map fun (before, after) => (c :: before, after)

/-- The text after the last separator, and the text before it, if there is one. -/
def cutLast (separator : Char) (s : List Char) : List Char × Option (List Char) :=
  match cut? [separator] s.reverse with
  | some (tail, front) => (tail.reverse, some front.reverse)
  | none => (s, none)

end ScrapeBridge.Text
