/-!
A tree of files and directories, and how a path finds its way through it. A path goes from the
root if it starts with a slash and from the working directory otherwise; each of its segments but
the last has to be a directory. The empty path leads nowhere.
-/
namespace NodeScaling

inductive FileEntry where
  | file (content : ByteArray)
  /-- A file that is there but may not be read. -/
  | closedFile
  | directory

/-- Files and directories by the names on the way from the root. The directories above an entry
need no entry of their own. -/
structure FileTree where
  entries : List (List String × FileEntry) := []
  workingDirectory : String := "/"
  /-- The path that the system tells for the working directory; it has none to tell if, for one, the
  directory has been removed. -/
  currentDirectory : Option String := some workingDirectory
  configDirectory : Option String := none

namespace FileTree

def entryAt? (t : FileTree) (names : List String) : Option FileEntry :=
  match t.entries.lookup names with
  | some entry => some entry
  | none =>
    if names.isEmpty || t.entries.any fun (other, _) => names.isPrefixOf other then
      some .directory
    else none

def isDirectory (t : FileTree) (names : List String) : Bool :=
  match t.entryAt? names with
  | some .directory => true
  | _ => false

/-- Follows the segments of a path from a place that is given by its names, innermost first. -/
def follow (t : FileTree) : List String → List String → Option (List String)
  | place, [] => some place
  | place, segment :: segments =>
    if t.isDirectory place.reverse then
      if segment = "" || segment = "." then t.follow place segments
      else if segment = ".." then t.follow place.tail segments
      else if (t.entryAt? (segment :: place).reverse).isSome then
        t.follow (segment :: place) segments
      else none
    else none

def segments (path : String) : List String :=
  (path.toList.splitOn '/').map String.ofList

def isAbsolute (path : String) : Bool :=
  path.toList.head? = some '/'

/-- The names from the root that the segments of a path lead to by themselves, whatever the tree
holds; the place is given innermost first. -/
def foldSegments : List String → List String → List String
  | place, [] => place.reverse
  | place, segment :: segments =>
    if segment = "" || segment = "." then foldSegments place segments
    else if segment = ".." then foldSegments place.tail segments
    else foldSegments (segment :: place) segments

def names (workingDirectory path : String) : List String :=
  let start := if isAbsolute path then [] else segments workingDirectory
  foldSegments [] (start ++ segments path)

def find? (t : FileTree) (path : String) : Option FileEntry :=
  if path.isEmpty then none
  else
    let start :=
      if isAbsolute path then some [] else t.follow [] (segments t.workingDirectory)
    (start.bind fun place => t.follow place (segments path)).bind fun place =>
      t.entryAt? place.reverse

def contains (t : FileTree) (path : String) : Bool :=
  (t.find? path).isSome

def content? (t : FileTree) (path : String) : Option ByteArray :=
  match t.find? path with
  | some (.file content) => some content
  | _ => none

def text? (t : FileTree) (path : String) : Option String :=
  (t.content? path).bind String.fromUTF8?

def join (directory name : String) : String :=
  if directory.toList.getLast? = some '/' then directory ++ name else directory ++ "/" ++ name

end FileTree

end NodeScaling
