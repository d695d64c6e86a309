import CallGraph.Extract.CSource
import CallGraph.Extract.PythonSource
import CallGraph.FileReport

/-!
# Analysis of one file

A grammar gives the syntax tree of a text; the tree gives the definitions, and
each definition its calls.  When a name is defined twice in a file, the first
definition is the record and the calls of all of them count.
-/

namespace CallGraph

/-- The syntax trees of texts in each language. -/
abbrev Grammar := Language → String → SyntaxTree

namespace Language

/-- The definitions of a file. -/
def definitions (language : Language) (t : SyntaxTree) (path : String)
    (includePrivate : Bool) :
    List Definition :=
  match language with
  | .python => PythonSource.definitions t path includePrivate
  | .c | .cpp => CSource.definitions t language path

/-- The names bound by the imports of a file, which only Python has. -/
def importMap (language : Language) (t : SyntaxTree) : ImportMap :=
  match language with
  | .python => t.importMap
  | .c | .cpp => {}

/-- How calls look. -/
def callSyntax : Language → CallSyntax
  | .python => PythonSource.callSyntax
  | .c | .cpp => CSource.callSyntax

/-- The calls of a definition. -/
def callSites (language : Language) (t : SyntaxTree) (d : Definition) :
    List CallSite :=
  language.callSyntax.sites t
    (fun callee => callee.candidates language (language.importMap t)
      d.info.className) d

/-- The outline of a file. -/
def outline (language : Language) (t : SyntaxTree) : Outline :=
  match language with
  | .python => PythonSource.outline t
  | .c | .cpp => CSource.outline t language

/-- Whether broken nodes make a file fail; in C and C++ they are common and are
passed over. -/
def needsSoundTree : Language → Bool
  | .python => true
  | .c | .cpp => false

end Language

/-- What keeps a file from being analysed: a zero character in its text, or a
broken node where that matters. -/
def fileFault? (language : Language) (text : String) (t : SyntaxTree) :
    Option FileFault :=
  if '\x00' ∈ text.toList then some .binary
  else if language.needsSoundTree then t.errorLine?.map .brokenSyntax
  else none

/-- The names called from each function of a file. -/
def fileCalls (language : Language) (t : SyntaxTree)
    (definitions : List Definition) : CallMap :=
  (CallMap.ofPairs (definitions.map fun d =>
    (d.info.name,
      NameSet.unions ((language.callSites t d).map (·.candidates))))).dropEmpty

/-- The report of a file with a usable tree. -/
def reportOfTree (language : Language) (path : String)
    (includePrivate : Bool) (t : SyntaxTree) :
    FileReport :=
  let definitions := language.definitions t path includePrivate
  { path, language
    functions := firstByName (definitions.map (·.info))
    calls := fileCalls language t definitions
    outline := language.outline t }

/-- Analyses the text of one file. -/
def analyzeText (grammar : Grammar) (includePrivate : Bool)
    (language : Language)
    (path text : String) : FileReport :=
  let t := grammar language text
  match fileFault? language text t with
  | some fault => .failed path language (.ofFault path fault)
  | none => reportOfTree language path includePrivate t

end CallGraph
