/-!
# File trees

Files, symbolic links and folders below one folder.
-/

namespace CallGraph

/-- A file, a symbolic link or a folder. -/
inductive FileTree
  | file (content : ByteArray)
  | link (target : String)
  | folder (entries : List (String × FileTree))

namespace FileTree

/-- The folder without entries. -/
def empty : FileTree := folder []

/-- The entries of a folder; anything else has none. -/
def entries : FileTree → List (String × FileTree)
  | folder es => es
  | _ => []

/-- The entry of a folder with a given name. -/
def child? (t : FileTree) (name : String) : Option FileTree :=
  (t.entries.find? fun e => e.1 = name).map Prod.snd

/-- Changes the entry with a given name, or adds one. -/
def alterEntry (name : String) (f : Option FileTree → FileTree) :
    List (String × FileTree) → List (String × FileTree)
  | [] => [(name, f none)]
  | (n, t) :: rest =>
    if n = name then (n, f (some t)) :: rest
    else (n, t) :: alterEntry name f rest

/-- Changes what stands at a path, with folders on the way. -/
def alter (f : Option FileTree → FileTree) :
    List String → Option FileTree → FileTree
  | [], old => f old
  | name :: rest, old =>
    folder (alterEntry name (alter f rest) ((old.map entries).getD []))

/-- The names on a path, where empty names and `.` do not count. -/
def pathNames (path : String) : List String :=
  ((path.toList.splitOnP (· == '/')).map String.ofList).filter
    fun n => n ≠ "" ∧ n ≠ "."

/-- Puts a file at a path. -/
def putFile (t : FileTree) (path : String) (content : ByteArray) : FileTree :=
  alter (fun _ => file content) (pathNames path) (some t)

/-- Puts a symbolic link at a path. -/
def putLink (t : FileTree) (path target : String) : FileTree :=
  alter (fun _ => link target) (pathNames path) (some t)

/-- Makes a folder at a path, unless there is one. -/
def makeFolder (t : FileTree) (path : String) : FileTree :=
  alter (fun old => folder ((old.map entries).getD [])) (pathNames path)
    (some t)

end FileTree

end CallGraph
