import CallGraph.Directory.FileTree
import CallGraph.Failure

/-!
# Access by path

A path is followed name by name from the top of a file tree, through symbolic
links, of which only a limited number is followed.  Beyond the top lies a
directory of which nothing is known.
-/

namespace CallGraph

/-- A file tree and the place it stands for. -/
structure Directory where
  /-- The path of the directory, as it is shown. -/
  location : String
  top : FileTree

/-- Where a path leads: to the names from the top, nearest last; none is beyond
the top. -/
abbrev Place := Option (List String)

namespace Directory

/-- The number of symbolic links that are followed on one path. -/
def linkLimit : Nat := 40

/-- The number of bytes in a name at most. -/
def nameLimit : Nat := 255

/-- The number of bytes in a path at most, the way to the directory included. -/
def pathLimit : Nat := 4095

/-- What stands at a place; beyond the top there is an empty folder. -/
def nodeAt? (d : Directory) : Place → Option FileTree
  | none => some .empty
  | some names =>
    names.foldl (fun t name => t.bind (·.child? name)) (some d.top)

/-- Whether a path starts at the root of the file system. -/
def isAbsolute (path : String) : Bool := ['/'].isPrefixOf path.toList

/-- The pieces of a path between slashes, empty ones included. -/
def piecesOf (path : String) : List String :=
  (path.toList.splitOnP (· == '/')).map String.ofList

/-- Follows the pieces of a path from a place; `links` tells how many more
symbolic links may be followed. -/
def follow (d : Directory) (links : Nat) (place : Place)
    (pieces : List String) :
    Except AccessError Place :=
  match pieces with
  | [] => .ok place
  | piece :: rest =>
    match d.nodeAt? place with
    | some (.folder entries) =>
      if piece = "" ∨ piece = "." then d.follow links place rest
      else if piece = ".." then
        d.follow links (place.bind fun names =>
          if names = [] then none else some names.dropLast)
          rest
      else if nameLimit < piece.utf8ByteSize then .error .nameTooLong
      else match (FileTree.folder entries).child? piece with
        | none => .error .notFound
        | some (.link target) =>
          match links with
          | 0 => .error .tooManyLinks
          | links + 1 =>
            d.follow links (if isAbsolute target then none else place)
              (piecesOf target ++ rest)
        | some _ => d.follow links (place.map (· ++ [piece])) rest
    | _ => .error .notDirectory
termination_by (links, pieces.length)

/-- A path that is given from another one. -/
def joined (base path : String) : String :=
  if isAbsolute path then path
  else if ['/'].isSuffixOf base.toList then base ++ path
  else base ++ "/" ++ path

/-- Follows a path that is given from another one, both from the top. -/
def locate (d : Directory) (base path : String) : Except AccessError Place :=
  if '\x00' ∈ base.toList ∨ '\x00' ∈ path.toList then .error .embeddedNul
  else if pathLimit < (joined (joined d.location base) path).utf8ByteSize then
    .error .nameTooLong
  else if isAbsolute path then d.follow linkLimit none (piecesOf path)
  else if isAbsolute base then
    d.follow linkLimit none (piecesOf base ++ piecesOf path)
  else d.follow linkLimit (some []) (piecesOf base ++ piecesOf path)

/-- The entries of the folder at a path, if there is one. -/
def folderAt? (d : Directory) (path : String) :
    Option (List (String × FileTree)) :=
  match d.locate path "" with
  | .error _ => none
  | .ok place =>
    match d.nodeAt? place with
    | some (.folder entries) => some entries
    | _ => none

/-- Reads the file at a path that is given from `base`. -/
def readBytes (d : Directory) (base path : String) :
    Except AccessError ByteArray :=
  match d.locate base path with
  | .error e => .error e
  | .ok place =>
    match d.nodeAt? place with
    | some (.file content) => .ok content
    | some (.folder _) => .error .isDirectory
    | _ => .error .notFound

/-- Reads the text of the source file at a path that is given from `base`. -/
def readSource (d : Directory) (base path : String) : Except Failure String :=
  match d.readBytes base path with
  | .error e => .error (.ofFault path (.unreadable e))
  | .ok content =>
    match String.fromUTF8? content with
    | none => .error (.ofFault path .notUtf8)
    | some text => .ok text

/-- A path from the top, as it is shown. -/
def shownPath (d : Directory) (path : String) : String :=
  if path = "" then d.location
  else if isAbsolute path then path
  else d.location ++ "/" ++ path

end Directory

end CallGraph
