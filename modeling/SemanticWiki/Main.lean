import SemanticWiki.CommandLine

/-! The program: reads the files that the command line names, and prints what the run leaves behind. -/

namespace SemanticWiki

def readFile? (path : String) : IO (Option String) := do
  try
    return some (← IO.FS.readFile path)
  catch _ =>
    return none

def readFiles (arguments : List String) : IO (List (String × Option String)) := do
  match CommandLine.Invocation.ofArguments arguments with
  | .ok i => i.files.mapM fun path => do return (path, ← readFile? path)
  | .error _ => return []

end SemanticWiki

def main (arguments : List String) : IO UInt32 := do
  let contents ← SemanticWiki.readFiles arguments
  let outcome := SemanticWiki.CommandLine.run (fun path => (contents.lookup path).join) arguments
  IO.print outcome.output
  for reason in outcome.rejected do
    IO.eprintln ("rejected: " ++ reason)
  if let some failure := outcome.failure then
    if let some code := failure.code? then
      IO.eprintln code
    IO.eprintln failure.message
  return outcome.status.toUInt32
