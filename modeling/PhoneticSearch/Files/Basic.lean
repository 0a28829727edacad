import PhoneticSearch.Files.Path
import PhoneticSearch.Text.Utf8

/-!
# Files

All that this library asks of a file system is what reading a path gives.

* `Files`: what reading a path gives, its bytes or the reason why there are none.
* `Files.readText`: the text of a file that must be UTF-8; `Files.readLossy` repairs it instead.
* `Files.ofList`: the files of a directory held in memory.
* `Files.ofReadings`: files that have been read already.
-/

namespace PhoneticSearch

inductive ReadFault where
  | notFound
  | notDirectory
  | isDirectory
  | notUtf8
  | nameTooLong
  | nulInPath
  | other (reason : String)
deriving Repr, DecidableEq

def ReadFault.message : ReadFault → String
  | .notFound => "No such file or directory (os error 2)"
  | .notDirectory => "Not a directory (os error 20)"
  | .isDirectory => "Is a directory (os error 21)"
  | .notUtf8 => "stream did not contain valid UTF-8"
  | .nameTooLong => "File name too long (os error 36)"
  | .nulInPath => "file name contained an unexpected NUL byte"
  | .other reason => reason

/-- What reading each path gives. -/
structure Files where
  read : String → Except ReadFault (List UInt8)

namespace Files

/-- The text of a file, which must be UTF-8. -/
def readText (files : Files) (path : String) : Except ReadFault String :=
  match files.read path with
  | .error fault => .error fault
  | .ok bytes =>
    match Utf8.decode? bytes with
    | some text => .ok text
    | none => .error .notUtf8

/-- The text of a file, broken stretches replaced. -/
def readLossy (files : Files) (path : String) : Except ReadFault String :=
  (files.read path).map Utf8.decodeLossy

/-- Where a walk along a path stands: at a place below the working directory, or outside it. -/
inductive Place where
  | inside (parts : List String)
  | outside
deriving DecidableEq

def maxNameSize : Nat := 255

def maxPathSize : Nat := 4095

/-- The named parts of a path, without idle ones. -/
def places (path : String) : List String := (Path.parts path).filter fun part => !Path.isIdle part

structure Directory where
  entries : List (List String × List UInt8)

def Directory.file? (dir : Directory) (place : List String) : Option (List UInt8) :=
  dir.entries.lookup place

/-- The working directory itself and every directory above a file. -/
def Directory.isDirectory (dir : Directory) (place : List String) : Bool :=
  place.isEmpty ||
    dir.entries.any fun entry => place.isPrefixOf entry.1 && place.length < entry.1.length

def Directory.enter (dir : Directory) (place : Place) (part : String) : Except ReadFault Place :=
  match place with
  | .outside =>
    if Path.isIdle part || part == ".." then .ok .outside
    else .error (if maxNameSize < part.utf8ByteSize then .nameTooLong else .notFound)
  | .inside here =>
    if (dir.file? here).isSome then .error .notDirectory
    else if Path.isIdle part then .ok place
    else if part == ".." then
      .ok (if here.isEmpty then .outside else .inside here.dropLast)
    else
      let next := here ++ [part]
      if (dir.file? next).isSome || dir.isDirectory next then .ok (.inside next)
      else .error (if maxNameSize < part.utf8ByteSize then .nameTooLong else .notFound)

def Directory.read (dir : Directory) (path : String) : Except ReadFault (List UInt8) :=
  if path.toList.contains '\x00' then .error .nulInPath
  else if path == "" then .error .notFound
  else if maxPathSize < path.utf8ByteSize then .error .nameTooLong
  else
    let start := if Path.isAbsolute path then Place.outside else Place.inside []
    match (Path.parts path).foldlM dir.enter start with
    | .error fault => .error fault
    | .ok .outside => .error .isDirectory
    | .ok (.inside place) =>
      match dir.file? place with
      | some bytes => .ok bytes
      | none => .error .isDirectory

/-- The files of a directory in memory, each under its path. -/
def ofList (entries : List (String × List UInt8)) : Files where
  read := Directory.read ⟨entries.map fun entry => (places entry.1, entry.2)⟩

/-- Files of which it is known what reading each path gives. -/
def ofReadings (readings : List (String × Except ReadFault (List UInt8))) : Files where
  read path := (readings.lookup path).getD (.error .notFound)

end Files

end PhoneticSearch
