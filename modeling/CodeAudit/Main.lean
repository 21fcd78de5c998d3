import CodeAudit.Command

/-!
The program: reads names, files and settings, and prints the answer.
-/
open CodeAudit

/-- The lines of the input up to its end. -/
partial def readNames (input : IO.FS.Stream) (seen : List String) : IO (List String) := do
  let line ← input.getLine
  if line.isEmpty then return seen.reverse
  readNames input (Text.trim line :: seen)

/-- The files of the given names below a root; those that cannot be read are passed over. -/
def readTree (root : String) (names : List String) : IO TreeEntry := do
  let mut files := []
  for name in names do
    try
      files := (name, ← IO.FS.readBinFile (root ++ "/" ++ name)) :: files
    catch _ => pure ()
  return .ofFiles files.reverse

def readText? (path : String) : IO (Option String) := do
  try
    return some (← IO.FS.readFile path)
  catch _ => return none

def readSettings : IO (Except ConfigError Config) := do
  let values ← Config.overridingNames.mapM fun name => do return (name, ← IO.getEnv name)
  let environment := values.filterMap fun (name, value) => value.map fun v => (name, v)
  let home := (← IO.getEnv "HOME").getD ""
  let loaded := Config.load (← readText? ".codescan.toml") (← readText? (home ++ "/.codescan/config.toml")) environment
  return loaded.map (·.2)

/-- What a command answers, given the files below its root. -/
def perform (command : Command) : IO (Except String Answer) := do
  match command with
  | .writeConfig path =>
    if (← readText? path).isSome then return .error s!"{path} already exists"
    IO.FS.writeFile path (Config.toToml {})
    return .ok { output := s!"Wrote {path}\n" }
  | .languages root =>
    let names ← readNames (← IO.getStdin) []
    return Command.languageTable root (some (← readTree root names))
  | .scan request =>
    match ← readSettings with
    | .error e => return .error e.message
    | .ok config =>
      let names ← readNames (← IO.getStdin) []
      let tree ← readTree request.root names
      let before ← IO.monoMsNow
      match request.audit config (some tree) with
      | .error why => return .error why
      | .ok report => return .ok (request.answer report ((← IO.monoMsNow) - before))

def main (arguments : List String) : IO UInt32 := do
  match Command.ofArguments arguments with
  | .error why =>
    (← IO.getStderr).putStrLn why
    return 2
  | .ok command =>
    match ← perform command with
    | .ok answer =>
      (← IO.getStdout).putStr answer.output
      return answer.exitCode.toUInt32
    | .error why =>
      (← IO.getStderr).putStrLn ("Error: " ++ why)
      return 1
