import CallGraph.Detection
import CallGraph.Directory.Access
import CallGraph.Exclusion
import CallGraph.Ignore.IgnoreFile

/-!
# Scanning a directory

The source files below a folder, without what its ignore files and the
exclusion rules leave out.  Symbolic links are passed over.  Of ignore files,
`.ignore` counts more than `.gitignore`, and that more than
`.git/info/exclude`; among files of one name, those nearer to a path count
more.  What lies below an ignored folder is out of reach of any rule.
-/

namespace CallGraph

/-- The ignore files of one folder. -/
structure FolderRules where
  /-- The number of names on the path to the folder. -/
  level : Nat
  ignore : IgnoreFile
  gitIgnore : IgnoreFile
  gitExclude : IgnoreFile

namespace FolderRules

/-- The first verdict of the folders of a list, nearest first, by one kind of
ignore file. -/
def firstVerdict? (stack : List FolderRules) (kind : FolderRules → IgnoreFile)
    (names : List String) (isDirectory : Bool) : Option Bool :=
  stack.findSome? fun f =>
    (kind f).verdict? (String.intercalate "/" (names.drop f.level)) isDirectory

/-- Whether the ignore files of the folders on the way leave out what stands at
a path. -/
def ignores (stack : List FolderRules) (names : List String)
    (isDirectory : Bool) : Bool :=
  ((firstVerdict? stack ignore names isDirectory).or
    ((firstVerdict? stack gitIgnore names isDirectory).or
      (firstVerdict? stack gitExclude names isDirectory))).getD false

end FolderRules

/-- What a walk needs to know: the rules, and how to read a file below the
root. -/
structure Walk where
  rules : ExclusionRules
  content? : List String → Option ByteArray

namespace Walk

/-- The ignore file at a path; without rules when it cannot be read. -/
def ignoreFileAt (w : Walk) (names : List String) : IgnoreFile :=
  match w.content? names with
  | none => []
  | some content => .ofContent content

/-- The ignore files of the folder at a path. -/
def rulesAt (w : Walk) (names : List String) : FolderRules :=
  { level := names.length
    ignore := w.ignoreFileAt (names ++ [".ignore"])
    gitIgnore := w.ignoreFileAt (names ++ [".gitignore"])
    gitExclude := w.ignoreFileAt (names ++ [".git", "info", "exclude"]) }

mutual

/-- The paths of the files at a path and below it. -/
def filesAt (w : Walk) (stack : List FolderRules) (names : List String) :
    FileTree → List (List String)
  | .link _ => []
  | .file _ => if FolderRules.ignores stack names false then [] else [names]
  | .folder entries =>
    if FolderRules.ignores stack names true ||
        w.rules.excludesDirectory (names.getLastD "") then []
    else w.filesIn (w.rulesAt names :: stack) names entries

/-- The paths of the files among the entries of the folder at a path, and below
them. -/
def filesIn (w : Walk) (stack : List FolderRules) (names : List String) :
    List (String × FileTree) → List (List String)
  | [] => []
  | (name, t) :: rest =>
    w.filesAt stack (names ++ [name]) t ++ w.filesIn stack names rest

end

/-- The path of a file as it is reported, where backslashes count as slashes. -/
def reportedPath (names : List String) : String :=
  String.ofList ((String.intercalate "/" names).toList.map
    fun c => if c = '\\' then '/' else c)

/-- The source files among the entries of the root, sorted. -/
def sourceFiles (w : Walk) (entries : List (String × FileTree)) : List String :=
  (((w.filesIn [w.rulesAt []] [] entries).map reportedPath).filter fun path =>
    (Language.detect? path).isSome && !w.rules.excludes path).mergeSort
      fun a b => a ≤ b

end Walk

namespace Directory

/-- The source files below the folder at `root`, as paths from there, sorted. -/
def scan (d : Directory) (root : String) (rules : ExclusionRules) :
    Except Failure (List String) :=
  match d.folderAt? root with
  | none => .error (.io s!"not a directory: {d.shownPath root}")
  | some entries =>
    let walk : Walk :=
      { rules
        content? := fun names =>
          match d.readBytes root (String.intercalate "/" names) with
          | .error _ => none
          | .ok content => some content }
    .ok (walk.sourceFiles entries)

end Directory

end CallGraph
