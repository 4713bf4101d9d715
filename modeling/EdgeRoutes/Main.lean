import EdgeRoutes.CommandLine.Run

namespace EdgeRoutes.CommandLine

def fileText (path : String) : IO (Option String) := do
  try pure (some (← IO.FS.readFile path))
  catch _ => pure none

def fileTexts : Option Request → IO (List (String × String))
  | some (.expose files) => do
    let paths := [files.configuration, files.ingress]
    let texts ← paths.mapM fileText
    pure ((paths.zip texts).filterMap fun (path, text) => text.map (path, ·))
  | _ => pure []

def Failure.message : Failure → String
  | usage => "error: the arguments cannot be used\n\nFor more information, try '--help'."
  | unreadableFile => "Error: a file cannot be read"
  | unfitDocument => "Error: a document cannot be read"
  | outOfRange => "Error: a duration is out of range"
  | configuration fault => "Error: " ++ fault.message
  | routing error => "Error: " ++ error.message

end EdgeRoutes.CommandLine

open EdgeRoutes.CommandLine in
def main (args : List String) : IO UInt32 := do
  let texts ← fileTexts (Request.ofArguments args)
  let outcome := run args fun path => texts.lookup path
  for notice in outcome.log do
    IO.eprintln (notice.level.name ++ " " ++ notice.message)
  IO.print outcome.output
  if let .error e := outcome.result then IO.eprintln e.message
  pure outcome.exitCode.toUInt32
