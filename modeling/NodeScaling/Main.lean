import NodeScaling.CommandLine.Run

/-!
The program. This outer layer looks at the arguments, the environment and the files that an
invocation can refer to, and prints what the invocation comes to. It has no transport, so that
every post goes without a response.
-/
open NodeScaling CommandLine

namespace NodeScaling.Main

def variableNames : List String :=
  [Settings.pathVariable, "CLICOLOR", "CLICOLOR_FORCE", "NO_COLOR", "HOME", "XDG_CONFIG_HOME"] ++
    [Variable.groupId, .region, .apiKey, .displayName, .maxSpotPercentTotal,
      .maxSpotPercentOneMarket, .detailedMonitoring, .maxHoursInstanceAge, .instanceTypes,
      .targetCapacityVcpus, .targetCapacityInstances, .targetSpareCpuPercent,
      .targetSpareMemoryPercent, .osFamily, .apiEndpoint, .clusterStateEndpoint].map Variable.name

def readEnvironment : IO Environment := do
  let mut found : List (String × String) := []
  for name in variableNames do
    if let some value ← IO.getEnv name then
      found := (name, value) :: found
  let values := found
  return fun name => values.lookup name

def configDirectory (env : Environment) : Option String :=
  match (env "XDG_CONFIG_HOME").filter FileTree.isAbsolute with
  | some directory => some directory
  | none => (env "HOME").map fun home => FileTree.join home ".config"

def currentDirectory : IO (Option String) := do
  try
    return some (← IO.currentDir).toString
  catch _ => return none

/-- The files among some paths. Each is looked up as the system finds it. -/
def readFiles (start : FileTree) (paths : List String) : IO FileTree := do
  let mut tree := start
  for path in paths do
    if path.isEmpty then
      continue
    let names := FileTree.names tree.workingDirectory path
    try
      let content ← IO.FS.readBinFile path
      tree := { tree with entries := (names, .file content) :: tree.entries }
    catch _ =>
      try
        let _ ← IO.FS.withFile path .read fun _ => pure ()
        tree := { tree with entries := (names, .directory) :: tree.entries }
      catch _ =>
        try
          let _ ← IO.FS.realPath path
          tree := { tree with entries := (names, .closedFile) :: tree.entries }
        catch _ => pure ()
  return tree

def paths (tree : FileTree) (env : Environment) (i : Invocation) : List String :=
  i.config.toList ++ (env Settings.pathVariable).toList ++ (Settings.localPath? tree).toList ++
    (Settings.userPath? tree).toList ++
    match i.command with
    | .report path _ => [path]
    | _ => []

end NodeScaling.Main

def main (args : List String) : IO UInt32 := do
  match Invocation.ofArguments args with
  | .error .help =>
    IO.print usage
    return 0
  | .error .usage =>
    IO.eprint usage
    return 2
  | .ok invocation =>
    let environment ← Main.readEnvironment
    let here ← Main.currentDirectory
    let start : FileTree :=
      { workingDirectory := here.getD "/", currentDirectory := here
        configDirectory := Main.configDirectory environment }
    let files ← Main.readFiles start (Main.paths start environment invocation)
    let terminal ← (← IO.getStdout).isTty
    let world : World := { files, environment, painted := Paint.inUse environment terminal }
    let service : ScriptedService := { reachable := false, lostDetail := "no transport" }
    let ending := ((run world invocation).run ScriptedService.answer service).value
    IO.print ending.stdout
    IO.eprint ending.stderr
    return ending.code.toUInt32
