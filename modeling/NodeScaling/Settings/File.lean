import NodeScaling.FileTree
import NodeScaling.Settings
import NodeScaling.Yaml.Document

/-!
Settings files. A path that is given explicitly has to exist; otherwise the first file that exists
is taken: the one that an environment variable names, the local one in the working directory, the
one of the user. A file holds one YAML mapping from the names of settings to their values. A value
that is left empty or null does not set its field; the order of the entries does not matter, a
name may occur once and unknown names are refused. A blank text and an empty document hold no
settings.
-/
namespace NodeScaling.Settings

def pathVariable : String := "CAPBRIDGE_CONFIG_PATH"

def localFile : String := "capbridge.yaml"

def localPath? (files : FileTree) : Option String :=
  files.currentDirectory.map fun directory => FileTree.join directory localFile

def userPath? (files : FileTree) : Option String :=
  files.configDirectory.map fun directory =>
    FileTree.join (FileTree.join directory "capbridge") "config.yaml"

/-- The path of the configuration file, if there is one. The system has to tell the working directory
before a file is looked for there, whatever comes after. -/
def findFile (files : FileTree) (env : Environment) (explicit : Option String) :
    Except ConfigError (Option String) :=
  match explicit with
  | some path => if files.contains path then .ok (some path) else .error (.fileNotFound path)
  | none =>
    match (env pathVariable).filter files.contains with
    | some path => .ok (some path)
    | none =>
      match localPath? files with
      | some path =>
        .ok (if files.contains path then some path else (userPath? files).filter files.contains)
      | none => .error (.io "the working directory is not known")

open Yaml (Document Scalar TagText)

def coreTag (name : String) : TagText :=
  .ofAscii ("tag:yaml.org,2002:" ++ name)

def isNullText (s : String) : Bool :=
  ["~", "null", "Null", "NULL"].contains s

def isEmptyPlain (s : Scalar) : Bool :=
  s.style = .plain && s.text.isEmpty

/-- Whether a scalar sets its field: a plain one without a tag unless it is empty or null. One
with the tag of null has to be null, one with another tag or in quotes is a value. -/
def isGiven? (s : Scalar) : Option Bool :=
  if s.style ≠ .plain then some true
  else
    match s.tag with
    | some tag =>
      if tag = coreTag "null" then (if isNullText s.text then some false else none) else some true
    | none => some (!s.text.isEmpty && !isNullText s.text)

def fieldValue? {α : Type} (decode : Yaml.Node → Option α) (node : Yaml.Node) : Option (Option α) :=
  match node with
  | .scalar s => do
    if ← isGiven? s then
      return some (← decode node)
    else return none
  | _ => (decode node).map some

def textValue? : Yaml.Node → Option String
  | .scalar s => some s.text
  | _ => none

/-- Whether a scalar can hold a value of a core type: a plain one, or a literal one with the tag
of the type. -/
def canHold (type : String) (s : Scalar) : Bool :=
  s.style = .plain || (s.style = .literal && s.tag = some (coreTag type))

def radixMarks : List (List Char × Nat) := [(['0', 'x'], 16), (['0', 'o'], 8), (['0', 'b'], 2)]

def isSigned (cs : List Char) : Bool :=
  cs.head? = some '+' || cs.head? = some '-'

def hasLeadingZero (cs : List Char) : Bool :=
  match cs with
  | '0' :: _ :: _ => cs.all Char.isDigit
  | _ => false

def withoutSign (cs : List Char) : List Char :=
  if isSigned cs then cs.tail else cs

def readWord? (radix : Nat) (cs : List Char) : Option Nat :=
  if isSigned cs then none else (Text.readNatural radix (UInt64.size - 1) cs).toOption

/-- The natural number written in a text, in one of the four radixes, with an optional plus sign.
A decimal number has no leading zeros. -/
def readCount? (cs : List Char) : Option Nat :=
  let digits := if cs.head? = some '+' then cs.tail else cs
  let marked := radixMarks.findSome? fun (mark, radix) =>
    if mark.isPrefixOf digits then readWord? radix (digits.drop mark.length) else none
  match marked with
  | some n => some n
  | none => if hasLeadingZero (withoutSign cs) then none else readWord? 10 digits

def countValue? : Yaml.Node → Option UInt32
  | .scalar s =>
    if canHold "int" s then
      (readCount? s.text.toList).bind fun n => if n < UInt32.size then some (.ofNat n) else none
    else none
  | _ => none

def truthValue? : Yaml.Node → Option Bool
  | .scalar s =>
    if canHold "bool" s then
      if ["true", "True", "TRUE"].contains s.text then some true
      else if ["false", "False", "FALSE"].contains s.text then some false
      else none
    else none
  | _ => none

def textsValue? (d : Document) : Yaml.Node → Option (List String)
  | .sequence elements => elements.mapM fun element => (d.resolve? element).bind textValue?
  | .scalar s => if isEmptyPlain s then some [] else none
  | _ => none

def fieldNames : List String := [
  "group_id", "region", "api_key", "display_name", "max_spot_percent_total",
  "max_spot_percent_one_market", "detailed_monitoring", "max_hours_instance_age",
  "instance_types", "target_capacity_vcpus", "target_capacity_instances",
  "target_spare_cpu_percent", "target_spare_memory_percent", "os_family", "api_endpoint",
  "cluster_state_endpoint"]

/-- The value of a field among named entries: none within the answer if it is not set. -/
def field? {α : Type} (entries : List (String × Yaml.Node)) (name : String)
    (decode : Yaml.Node → Option α) : Option (Option α) :=
  match entries.lookup name with
  | some node => fieldValue? decode node
  | none => some none

def areFieldNames (names : List String) : Bool :=
  names.all fieldNames.contains && decide names.Nodup

def ofEntries? (d : Document) (entries : List (String × Yaml.Node)) : Option Settings :=
  if areFieldNames (entries.map Prod.fst) then do
    return {
      groupId := ← field? entries "group_id" textValue?
      region := ← field? entries "region" textValue?
      apiKey := ← field? entries "api_key" textValue?
      displayName := ← field? entries "display_name" textValue?
      maxSpotPercentTotal := ← field? entries "max_spot_percent_total" countValue?
      maxSpotPercentOneMarket := ← field? entries "max_spot_percent_one_market" countValue?
      detailedMonitoring := ← field? entries "detailed_monitoring" truthValue?
      maxHoursInstanceAge := ← field? entries "max_hours_instance_age" countValue?
      instanceTypes := ← field? entries "instance_types" (textsValue? d)
      targetCapacityVcpus := ← field? entries "target_capacity_vcpus" countValue?
      targetCapacityInstances := ← field? entries "target_capacity_instances" countValue?
      targetSpareCpuPercent := ← field? entries "target_spare_cpu_percent" countValue?
      targetSpareMemoryPercent := ← field? entries "target_spare_memory_percent" countValue?
      osFamily := ← field? entries "os_family" textValue?
      apiEndpoint := ← field? entries "api_endpoint" textValue?
      clusterStateEndpoint := ← field? entries "cluster_state_endpoint" textValue? }
  else none

def withName? (d : Document) (entry : Yaml.Node × Yaml.Node) :
    Option (String × Yaml.Node) := do
  let name ← textValue? (← d.resolve? entry.1)
  return (name, ← d.resolve? entry.2)

def ofDocument? (d : Document) : Option Settings :=
  match d.content with
  | .mapping entries => (entries.mapM (withName? d)).bind (ofEntries? d)
  | .scalar s => if isEmptyPlain s then some {} else none
  | _ => none

def ofYaml (text : String) : Except ConfigError Settings :=
  if Text.isBlankText text then .ok {}
  else
    match Document.read? text with
    | some none => .ok {}
    | some (some document) =>
      match ofDocument? document with
      | some s => .ok s
      | none => .error (.yaml "the document does not describe settings")
    | none => .error (.yaml "the text is not a document")

def ofFile (files : FileTree) (path : String) : Except ConfigError Settings :=
  match files.text? path with
  | some text => ofYaml text
  | none => .error (.io "the file cannot be read as text")

def ofConfigFile (files : FileTree) (env : Environment) (explicit : Option String) :
    Except ConfigError Settings := do
  match ← findFile files env explicit with
  | some path => ofFile files path
  | none => return {}

end NodeScaling.Settings

namespace NodeScaling.Config

def load (files : FileTree) (env : Environment) (explicit : Option String) :
    Except ConfigError Config := do
  let settings ← Settings.ofConfigFile files env explicit
  (← settings.overlaid env).resolve

end NodeScaling.Config
