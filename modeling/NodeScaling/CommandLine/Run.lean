import NodeScaling.ClusterState
import NodeScaling.CommandLine.Arguments
import NodeScaling.Provider
import NodeScaling.Settings.File

/-!
What an invocation does: which posts it makes, what it prints and how it exits. The whole is a
conversation with the capacity service; the files and the environment are given. On a terminal
texts are painted: a painted text stands between the sequence of its style and a reset, and a reset
inside of it is followed by the style again.
-/
namespace NodeScaling.CommandLine

inductive Paint where
  | bold
  | dimmed
  | green
  | yellow
  | cyan
  deriving DecidableEq, Repr

namespace Paint

def code : Paint → String
  | bold => "1"
  | dimmed => "2"
  | green => "32"
  | yellow => "33"
  | cyan => "36"

def escape (code : String) : List Char :=
  '\x1b' :: '[' :: code.toList ++ ['m']

def reset : List Char :=
  escape "0"

/-- A text with a sequence put behind every reset, in at most the given number of steps. -/
def reopen (style : List Char) : Nat → List Char → List Char
  | 0, cs => cs
  | _ + 1, [] => []
  | steps + 1, c :: cs =>
    if reset.isPrefixOf (c :: cs) then
      reset ++ style ++ reopen style steps ((c :: cs).drop reset.length)
    else c :: reopen style steps cs

def apply (inUse : Bool) (p : Paint) (text : String) : String :=
  if inUse then
    let style := escape p.code
    String.ofList (style ++ reopen style text.length text.toList ++ reset)
  else text

/-- Whether an environment variable is set to anything but zero. -/
def isOn (value : String) : Bool :=
  value ≠ "0"

/-- Whether styles are in use: when they are forced, and otherwise on a terminal where nothing
turns them off. -/
def inUse (env : Environment) (terminal : Bool) : Bool :=
  if ((env "CLICOLOR_FORCE").map isOn).getD false then true
  else if (env "NO_COLOR").isSome then false
  else ((env "CLICOLOR").map isOn).getD true && terminal

end Paint

structure Ending where
  stdout : String := ""
  /-- Of a failure its own words, without those of its causes. Log lines are left out. -/
  stderr : String := ""
  code : UInt8 := 0
  deriving DecidableEq

abbrev Session (α : Type) := Talk Post Response α

structure World where
  files : FileTree
  environment : Environment
  library : HttpLibrary := .ok ()
  painted : Bool := false

namespace Ending

def success (stdout : String) : Ending :=
  { stdout }

def failure (stdout : String) (message : String) : Ending :=
  { stdout, stderr := "Error: " ++ message ++ "\n", code := 1 }

def ofResult {ε α : Type} (wording : ε → String) (stdout : String) (more : α → String) :
    Except ε α → Ending
  | .ok value => success (stdout ++ more value)
  | .error e => failure stdout (wording e)

end Ending

def line (text : String) : String :=
  text ++ "\n"

def version : String := "0.1.0"

def padRight (width : Nat) (text : String) : String :=
  text ++ String.ofList (List.replicate (width - text.length) ' ')

def padLeft (width : Nat) (text : String) : String :=
  String.ofList (List.replicate (width - text.length) ' ') ++ text

def row (name count : String) : String :=
  padRight 16 name ++ " " ++ padLeft 6 count

def instanceTypes (painted : Bool) : String :=
  line (Paint.bold.apply painted (row "TYPE" "VCPUS")) ++
    line (Paint.dimmed.apply painted (String.ofList (List.replicate 23 '─'))) ++
    String.join (Catalog.builtin.toList.map fun (name, vcpus) =>
      line (row name (toString vcpus.toNat)))

structure Target where
  client : Client
  bridge : Bridge
  underlying : NodeGroup

inductive TargetFault where
  | crossedBounds (minSize maxSize : Nat)
  | unbuilt (cause : BridgeError)
  | groupMissing (groupId : String)

def TargetFault.message : TargetFault → String
  | crossedBounds minSize maxSize => "--min-size (" ++ toString minSize ++ ") は --max-size (" ++
      toString maxSize ++ ") 以下にしてください"
  | unbuilt cause => cause.message
  | groupMissing groupId => "ノードグループ '" ++ groupId ++ "' が見つかりません"

namespace Target

def group (t : Target) : NodeGroup :=
  .bridged t.underlying t.bridge

def posting {α : Type} (t : Target) (talk : Exchange α) : Session α :=
  talk.through t.client.call

def ofConfig (library : HttpLibrary) (c : Config) (minSize maxSize : Nat) :
    Except TargetFault Target :=
  if maxSize < minSize then .error (.crossedBounds minSize maxSize)
  else
    match Client.build library c with
    | .error cause => .error (.unbuilt cause)
    | .ok client =>
      let provider : StaticProvider := { groups := [{ id := c.groupId, minSize, maxSize }] }
      let bridge : Bridge := { catalog := Catalog.builtin, config := c }
      match bridge.configuredGroup? provider.toProvider with
      | some underlying => .ok { client, bridge, underlying }
      | none => .error (.groupMissing c.groupId)

end Target

section Commands
variable (painted : Bool) (t : Target)

def runExist : Session Ending :=
  (t.posting t.group.exists?).mapValue fun found =>
    let mark := if found then Paint.green.apply painted "✓" else Paint.yellow.apply painted "✗"
    { stdout := line (toString found)
      stderr := line (mark ++ " " ++ Paint.cyan.apply painted t.group.id) }

def runCreate : Session Ending :=
  match t.bridge.newDefinition with
  | .error e => .done (.failure "" e.message)
  | .ok definition =>
    let announced := line (Paint.cyan.apply painted definition.groupId ++ " を作成中... (target: " ++
      toString definition.targetCapacity.toNat ++ " vCPUs)")
    (t.posting t.group.create).mapValue (Ending.ofResult CloudError.message announced fun _ =>
      line (Paint.green.apply painted "✓ アプリ定義を作成しました"))

def runDelete : Session Ending :=
  let announced := line (Paint.cyan.apply painted t.group.id ++ " を削除中...")
  (t.posting t.group.delete).mapValue (Ending.ofResult CloudError.message announced fun _ =>
    line (Paint.green.apply painted "✓ アプリ定義を削除しました"))

def runTargetSize : Session Ending :=
  (t.posting t.group.targetSize).mapValue
    (Ending.ofResult CloudError.message "" fun size => line (toString size))

def runIncreaseSize (delta : Int64) : Session Ending :=
  let sized := (t.group.increaseSize delta).andThen fun _ => t.group.targetSize
  (t.posting sized).mapValue (Ending.ofResult CloudError.message "" fun size =>
    line (Paint.green.apply painted "✓" ++ " " ++ Paint.cyan.apply painted t.group.id ++
      " のターゲット: " ++ toString size ++ " ノード (max: " ++ toString t.group.maxSize ++ ")"))

/-- Lowers the target size, which leaves a bridged group as it is. -/
def runDecreaseTargetSize (delta : Int64) : Session Ending :=
  (t.posting (t.group.decreaseTargetSize delta)).mapValue
    (Ending.ofResult CloudError.message "" fun _ => line (Paint.dimmed.apply painted
      "ターゲットは変更されません。縮小は delete-nodes で行ってください"))

def runDeleteNodes (providerIds : List String) : Session Ending :=
  let nodes : List Node := providerIds.map fun id => { name := id, providerId := id }
  let announced := line (toString nodes.length ++ " ノードを削除中...") ++
    String.join (providerIds.map fun id => line ("  - " ++ Paint.dimmed.apply painted id))
  (t.posting (t.group.deleteNodes nodes)).mapValue
    (Ending.ofResult CloudError.message announced fun _ =>
      line (Paint.green.apply painted "✓ 削除を依頼しました"))

def runShow : Session Ending :=
  (t.posting Bridge.lookup).mapValue fun
    | .present definition => .success (line definition.toJson.indentedText)
    | .absent => { stderr := line (Paint.yellow.apply painted "アプリ定義はありません") }
    | .readFailed cause => .failure "" cause.message

end Commands

/-- Reports a cluster state from a snapshot file. A report that is sent and fails is an error only if
it is strict. -/
def runReport (w : World) (c : Config) (path : String) (strict : Bool) : Session Ending :=
  match w.files.text? path with
  | none => .done (.failure "" ("スナップショットを読み込めません: " ++ path))
  | some text =>
    match Snapshot.read? text with
    | none => .done (.failure "" ("スナップショットの形式が不正です: " ++ path))
    | some snapshot =>
      let announced := line ("クラスタ状態を送信中... (deployments: " ++
        toString snapshot.deployments.length ++ ", nodes: " ++
        toString snapshot.nodes.length ++ ")")
      let state := ClusterState.ofSnapshot c snapshot
      match ClusterState.endpoint w.library c with
      | .error e => .done (.failure announced e.message)
      | .ok endpoint =>
        (state.report endpoint).mapValue fun
          | .ok _ => .success (announced ++ line (Paint.green.apply w.painted "✓ 送信しました"))
          | .error e =>
            if strict then .failure announced e.message
            else .success (announced ++ line
              (Paint.yellow.apply w.painted "⚠ 送信に失敗しました:" ++ " " ++ e.message))

/-- What a command does to the bridged group; none for the commands that have no group. -/
def runOnTarget? (painted : Bool) (t : Target) : Command → Option (Session Ending)
  | .exist => some (runExist painted t)
  | .create => some (runCreate painted t)
  | .delete => some (runDelete painted t)
  | .targetSize => some (runTargetSize t)
  | .increaseSize delta => some (runIncreaseSize painted t delta)
  | .decreaseTargetSize delta => some (runDecreaseTargetSize painted t delta)
  | .deleteNodes ids => some (runDeleteNodes painted t ids)
  | .show => some (runShow painted t)
  | .report _ _ | .instanceTypes | .version => none

def runConfigured (w : World) (i : Invocation) (c : Config) : Session Ending :=
  match i.command with
  | .report path strict => runReport w c path strict
  | other =>
    match Target.ofConfig w.library c i.minSize i.maxSize with
    | .error fault => .done (.failure "" fault.message)
    | .ok t => (runOnTarget? w.painted t other).getD (.done {})

def run (w : World) (i : Invocation) : Session Ending :=
  match i.command with
  | .version => .done (.success (line ("capbridge " ++ version)))
  | .instanceTypes => .done (.success (instanceTypes w.painted))
  | _ =>
    match Config.load w.files w.environment i.config with
    | .error e => .done (.failure "" e.message)
    | .ok c => runConfigured w i c

end NodeScaling.CommandLine
