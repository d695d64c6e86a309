import CallGraph.Language
import CallGraph.Text.Word

/-!
# Names that need no definition

A called name without a definition is reported as external, unless the language
itself provides it or it has the special form `__name__`.
-/

namespace CallGraph

/-- The functions that every Python program has. -/
def pythonFunctions : List String := [
  "abs", "all", "any", "ascii", "bin", "bool", "breakpoint", "bytearray",
  "bytes", "callable", "chr", "classmethod", "compile", "complex", "delattr",
  "dict", "dir", "divmod", "enumerate", "eval", "exec", "filter", "float",
  "format", "frozenset", "getattr", "globals", "hasattr", "hash", "help",
  "hex", "id", "input", "int", "isinstance", "issubclass", "iter", "len",
  "list", "locals", "map", "max", "memoryview", "min", "next", "object", "oct",
  "open", "ord", "pow", "print", "property", "range", "repr", "reversed",
  "round", "set", "setattr", "slice", "sorted", "staticmethod", "str", "sum",
  "super", "tuple", "type", "vars", "zip"]

/-- The exceptions that every Python program has. -/
def pythonExceptions : List String := [
  "Exception", "BaseException", "ValueError", "TypeError", "KeyError",
  "IndexError", "AttributeError", "RuntimeError", "NotImplementedError",
  "StopIteration", "OSError", "IOError", "ImportError", "AssertionError",
  "ZeroDivisionError"]

/-- The methods of Python containers and strings. -/
def pythonMethods : List String := [
  "append", "extend", "insert", "remove", "pop", "clear", "copy", "count",
  "index", "sort", "reverse", "get", "items", "keys", "values", "update",
  "setdefault", "add", "discard", "join", "split", "rsplit", "strip", "lstrip",
  "rstrip", "replace", "lower", "upper", "startswith", "endswith", "encode",
  "decode", "splitlines"]

/-- Input and output in C. -/
def cInputOutput : List String := [
  "printf", "fprintf", "sprintf", "snprintf", "vprintf", "vfprintf",
  "vsnprintf", "scanf", "fscanf", "sscanf", "puts", "fputs", "putchar",
  "fputc", "getchar", "fgetc", "fgets", "fopen", "fclose", "fread", "fwrite",
  "fflush", "fseek", "ftell", "rewind", "perror", "remove", "rename"]

/-- Memory, conversion and control in C. -/
def cGeneral : List String := [
  "malloc", "calloc", "realloc", "free", "exit", "abort", "atexit", "atoi",
  "atol", "atof", "strtol", "strtoul", "strtod", "qsort", "bsearch", "rand",
  "srand", "abs", "labs", "getenv", "system"]

/-- Strings and memory blocks in C. -/
def cStrings : List String := [
  "strlen", "strcpy", "strncpy", "strcat", "strncat", "strcmp", "strncmp",
  "strchr", "strrchr", "strstr", "strtok", "strdup", "memcpy", "memmove",
  "memset", "memcmp"]

/-- Characters, time and mathematics in C. -/
def cOther : List String := [
  "assert", "sizeof", "isalpha", "isdigit", "isspace", "isalnum", "toupper",
  "tolower", "time", "clock", "sqrt", "pow", "floor", "ceil", "fabs", "sin",
  "cos", "tan", "log", "exp"]

/-- The library functions of C. -/
def cLibrary : List String := cInputOutput ++ cGeneral ++ cStrings ++ cOther

/-- The library functions, methods and casts of C++. -/
def cppLibrary : List String := [
  "cout", "cerr", "endl", "move", "forward", "swap", "make_shared",
  "make_unique", "make_pair", "make_tuple", "get", "begin", "end", "cbegin",
  "cend", "size", "empty", "push_back", "emplace_back", "pop_back",
  "push_front", "pop_front", "insert", "emplace", "erase", "clear", "find",
  "count", "at", "front", "back", "data", "reserve", "resize", "sort", "min",
  "max", "to_string", "stoi", "stol", "stod", "static_cast", "dynamic_cast",
  "reinterpret_cast", "const_cast", "c_str", "substr", "length", "append",
  "reset", "release", "lock", "unlock", "join", "detach"]

/-- Whether the language provides a function of this name. -/
def Language.provides (language : Language) (name : String) : Bool :=
  match language with
  | .python =>
    pythonFunctions.contains name || pythonExceptions.contains name ||
      pythonMethods.contains name
  | .c => cLibrary.contains name
  | .cpp =>
    "std::".toList.isPrefixOf name.toList || cppLibrary.contains name ||
      cLibrary.contains name

/-- What follows the last full stop or colon of a name. -/
def finalSegment (name : String) : List Char :=
  (name.toList.reverse.takeWhile fun c => c != '.' && c != ':').reverse

/-- Whether the final segment of a name has the form `__word__`. -/
def isDunder (name : String) : Bool :=
  let segment := finalSegment name
  let marks := ['_', '_']
  5 ≤ segment.length && marks.isPrefixOf segment && marks.isSuffixOf segment &&
    segment.all Text.isWord

/-- Whether a called name without a definition is reported. -/
def Language.reportsExternal (language : Language) (name : String) : Bool :=
  !language.provides name && !isDunder name

end CallGraph
