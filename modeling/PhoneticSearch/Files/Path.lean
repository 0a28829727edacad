import PhoneticSearch.Text.Pieces

/-!
# Paths

Paths are texts, taken apart at the slashes and put together without looking at any file.

* `Path.parent`: the directory that holds a file.
* `Path.join`: a path read from a directory.
-/

namespace PhoneticSearch.Path

/-- The parts of a path between the slashes; an absolute path has an empty first part. -/
def parts (path : String) : List String :=
  (Text.pieces (· == '/') path.toList).map String.ofList

/-- Whether a part names nothing: it is empty or stands for the directory itself. -/
def isIdle (part : String) : Bool := part == "" || part == "."

/-- Drops idle parts at the end, but never the first part. -/
def dropIdle (parts : List String) : List String :=
  match parts with
  | [] => []
  | first :: rest => first :: (rest.reverse.dropWhile isIdle).reverse

def isAbsolute (path : String) : Bool := path.toList.head? == some '/'

/-- The directory part of a path: empty for a bare file name, and the root for a file in it. -/
def parent (path : String) : String :=
  let held := dropIdle ((dropIdle (parts path)).dropLast)
  if held == [""] then "/" else "/".intercalate held

/-- The path `path`, read from the directory `base` unless it is absolute. -/
def join (base path : String) : String :=
  if isAbsolute path || base == "" then path
  else if base.toList.getLast? == some '/' then base ++ path
  else base ++ "/" ++ path

example : parent "sub//./c.json" = "sub" ∧ parent "c.json" = "" ∧ parent "/c.json" = "/" := by
  decide +kernel

end PhoneticSearch.Path
