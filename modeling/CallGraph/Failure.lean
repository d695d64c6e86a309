/-!
# Failures

What can go wrong with one file, with a directory or with a whole run, and the
one place where each is put into words.
-/

namespace CallGraph

/-- Why a path of a directory could not be opened and read. -/
inductive AccessError
  | notFound
  | notDirectory
  | isDirectory
  | tooManyLinks
  | nameTooLong
  | embeddedNul
deriving DecidableEq

/-- The system's wording of an access error. -/
def AccessError.message : AccessError → String
  | notFound => "No such file or directory (os error 2)"
  | notDirectory => "Not a directory (os error 20)"
  | isDirectory => "Is a directory (os error 21)"
  | tooManyLinks => "Too many levels of symbolic links (os error 40)"
  | nameTooLong => "File name too long (os error 36)"
  | embeddedNul => "file name contained an unexpected NUL byte"

/-- Why the text of a file could not be analysed. -/
inductive FileFault
  /-- The text holds a zero character. -/
  | binary
  /-- The first broken node of the syntax tree starts on this line. -/
  | brokenSyntax (line : Nat)
  | unreadable (cause : AccessError)
  | notUtf8
deriving DecidableEq

/-- A file fault in words. -/
def FileFault.message : FileFault → String
  | binary => "binary or non-text content"
  | brokenSyntax line => s!"syntax error at line {line}"
  | unreadable cause => s!"unreadable: {cause.message}"
  | notUtf8 => "not valid UTF-8 text"

/-- A failure of one file (`parse`) or of a run. -/
inductive Failure
  | parse (path detail : String)
  | emptyProject (language : String)
  | noFunctions (files : Nat)
  | unsupportedLanguage (selector : String)
  | grammar (detail : String)
  | io (detail : String)
deriving DecidableEq

/-- The failure of the file at `path` because of `fault`. -/
def Failure.ofFault (path : String) (fault : FileFault) : Failure :=
  .parse path fault.message

/-- A failure in words. -/
def Failure.message : Failure → String
  | parse path detail => s!"{path}: {detail}"
  | emptyProject language => s!"No {language} files found to analyze"
  | noFunctions files => s!"No functions found in {files} analyzed file(s)"
  | unsupportedLanguage selector => s!"Unsupported language: {selector}"
  | grammar detail => s!"Grammar error: {detail}"
  | io detail => s!"IO error: {detail}"

end CallGraph
