import ScrapeBridge.Command

namespace ScrapeBridge.Command

partial def readAll (stream : IO.FS.Stream) (read : ByteArray) : IO ByteArray := do
  let bytes ← stream.read 65536
  if bytes.isEmpty then return read else readAll stream (read ++ bytes)

def run (arguments : List String) : IO UInt32 := do
  match ofArguments? arguments with
  | none =>
    usage.forM (← IO.getStderr).putStrLn
    return 2
  | some command =>
    let contents ← match command with
      | .check _ => readAll (← IO.getStdin) .empty
      | _ => pure .empty
    match command.output contents.toList with
    | .ok lines =>
      lines.forM (← IO.getStdout).putStrLn
      return 0
    | .error e =>
      (← IO.getStderr).putStrLn e.message
      return 1

end ScrapeBridge.Command

def main (arguments : List String) : IO UInt32 := ScrapeBridge.Command.run arguments
