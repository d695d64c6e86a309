/-!
# Segments of a name

Of a dotted path, only the first and the last segment count.  A qualified name
is cut at every pair of colons, read from the left, into at least one segment,
possibly empty.
-/

namespace CallGraph.Text

/-- The segment of a dotted path before its first full stop. -/
def firstSegment (s : String) : String :=
  String.ofList (s.toList.takeWhile (· != '.'))

/-- The segment of a dotted path after its last full stop. -/
def lastSegment (s : String) : String :=
  String.ofList (s.toList.reverse.takeWhile (· != '.')).reverse

/-- Cuts a text at every pair of colons, taken from the left. -/
def splitColons : List Char → List (List Char)
  | [] => [[]]
  | ':' :: ':' :: rest => [] :: splitColons rest
  | c :: rest =>
    match splitColons rest with
    | [] => [[c]]
    | segment :: more => (c :: segment) :: more

/-- Joins segments with pairs of colons. -/
def joinColons (segments : List String) : String :=
  String.intercalate "::" segments

@[simp] theorem joinColons_singleton (segment : String) :
    joinColons [segment] = segment :=
  String.intercalate_singleton

theorem joinColons_append {xs ys : List String} (hxs : xs ≠ [])
    (hys : ys ≠ []) :
    joinColons (xs ++ ys) = joinColons xs ++ "::" ++ joinColons ys :=
  String.intercalate_append_of_ne_nil hxs hys

end CallGraph.Text
