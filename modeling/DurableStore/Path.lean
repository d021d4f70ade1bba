/-!
Paths as they are written: the names on the way to a file, outermost first.

A path keeps every name as it was given, the empty one included, so that `Path.text` of
`Path.ofText` gives a text back unchanged.  A slash at either end of the text is an empty name at
that end.
-/

namespace DurableStore

/-- How to get to a file or a directory. -/
structure Path where
  /-- The names on the way, outermost first. -/
  names : List String
  deriving DecidableEq, Inhabited, Repr

namespace Path

/-- Names written one behind the other with a slash between them. -/
def text (path : Path) : String :=
  "/".intercalate path.names

/-- The path that a text with slashes stands for. -/
def ofText (text : String) : Path :=
  ⟨text.splitOn "/"⟩

/-- Whether a path begins with a slash, so that it says by itself where it leads. -/
def isAbsolute (path : Path) : Bool :=
  path.names.head? == some "" && path.names != [""]

/-- Whether a path ends with a slash, so that only a directory can stand there. -/
def endsWithSlash (path : Path) : Bool :=
  path.names.getLast? == some "" && path.names != [""]

/-- The path that `suffix` leads to from the directory `path`.  No slash is put behind one that
stands there already. -/
def join (path suffix : Path) : Path :=
  if suffix.isAbsolute then suffix
  else if path.names.getLast? = some "" then ⟨path.names.dropLast ++ suffix.names⟩
  else ⟨path.names ++ suffix.names⟩

/-- The path of `name` inside the directory `path`. -/
def child (path : Path) (name : String) : Path :=
  path.join ⟨[name]⟩

/-- Whether a name leads nowhere: it is empty or a single dot. -/
def staysPut (name : String) : Bool :=
  name == "" || name == "."

/-- The path of the directory that the last name of a path stands in.  Names that lead nowhere do
not count. -/
def parent? (path : Path) : Option Path :=
  match path.names.reverse.dropWhile staysPut with
  | [] => none
  | _ :: before => some ⟨(before.dropWhile staysPut).reverse⟩

theorem length_parent? {path parent : Path} (h : path.parent? = some parent) :
    parent.names.length < path.names.length := by
  unfold parent? at h
  split at h
  next => cases h
  next before rest =>
    cases h
    have dropped := (List.dropWhile_sublist staysPut (l := path.names.reverse)).length_le
    have further := (List.dropWhile_sublist staysPut (l := before)).length_le
    simp only [rest, List.length_cons, List.length_reverse] at dropped ⊢
    omega

end Path

end DurableStore
