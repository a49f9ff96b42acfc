import Dialogs.Text.Pieces

/-!
# Paths

A path leads from the working directory, or from the root, through directories to a file or a directory. It
is followed name by name, so a path that leads back has to lead to a directory first. What is above the
working directory is not known, apart from some places that every system has.
-/

namespace Dialogs

/-- Why the system refuses to run a program or to open a file. -/
inductive SystemError where
  | notFound
  | permissionDenied
  | notADirectory
  | isADirectory
  | argumentListTooLong
  | alreadyExists
  | nameTooLong
  /-- A program or an argument that the system cannot be told. -/
  | nulByte
  /-- A path that the system cannot be told. -/
  | nulInPath
  deriving DecidableEq, Repr

/-- The words for a system error. -/
def SystemError.reason : SystemError → String
  | .notFound => "No such file or directory"
  | .permissionDenied => "Permission denied"
  | .notADirectory => "Not a directory"
  | .isADirectory => "Is a directory"
  | .argumentListTooLong => "Argument list too long"
  | .alreadyExists => "File exists"
  | .nameTooLong => "File name too long"
  | .nulByte => "nul byte found in provided data"
  | .nulInPath => "file name contained an unexpected NUL byte"

/-- The number of a system error, if the system itself has told it. -/
def SystemError.number? : SystemError → Option Nat
  | .notFound => some 2
  | .permissionDenied => some 13
  | .notADirectory => some 20
  | .isADirectory => some 21
  | .argumentListTooLong => some 7
  | .alreadyExists => some 17
  | .nameTooLong => some 36
  | .nulByte | .nulInPath => none

/-- The wording of a system error, with its number. -/
def SystemError.message (error : SystemError) : String :=
  match error.number? with
  | some number => error.reason ++ " (os error " ++ toString number ++ ")"
  | none => error.reason

/-- The files and directories that are known, by the names on the way to them from the working directory. The
way from the root begins with an empty name. -/
structure Terrain where
  isFile : List String → Bool
  isDirectory : List String → Bool

/-- Where a path leads. -/
inductive Place where
  | file (names : List String)
  /-- A directory. One above the working directory has no names. -/
  | directory (names : Option (List String))
  deriving DecidableEq, Repr

namespace Path

/-- The number of bytes from which on a path is too long. -/
def pathLimit : Nat := 4096

/-- The number of bytes of the longest name. -/
def nameLimit : Nat := 255

/-- The names on a path between its slashes. -/
def names (path : String) : List String := (Text.pieces '/' path).filter (· != "")

/-- The names on the way to a place, without those that stand for the directory itself. -/
def way (path : String) : List String :=
  (if path.startsWith "/" then [""] else []) ++ (names path).filter (· != ".")

/-- The path that consists of the names on a way. -/
def ofWay (names : List String) : String := "/".intercalate names

/-- Directories that every system has. -/
def systemDirectories : List (List String) :=
  ["/", "/bin", "/dev", "/dev/fd", "/etc", "/home", "/lib", "/proc", "/proc/self", "/proc/self/fd",
   "/root", "/sbin", "/sys", "/tmp", "/usr", "/usr/bin", "/usr/lib", "/usr/local", "/usr/local/bin",
   "/var"].map way

/-- The names under which every program finds its standard input. -/
def inputFiles : List (List String) := ["/dev/stdin", "/dev/fd/0", "/proc/self/fd/0"].map way

/-- Files that every system has and that can be read, with how such a file begins. -/
def systemTexts : List (List String × String) :=
  [(way "/dev/null", ""), (way "/etc/passwd", "root:x:0:0:root:/root:/bin/sh\n"),
   (way "/etc/group", "root:x:0:\n"), (way "/etc/hosts", "127.0.0.1\tlocalhost\n")]

/-- Files that every system has. -/
def systemFiles : List (List String) :=
  inputFiles ++ systemTexts.map Prod.fst ++
    ["/dev/zero", "/dev/stdout", "/dev/stderr", "/dev/fd/1", "/dev/fd/2"].map way

/-- Directories in which nothing can be created. -/
def fixedDirectories : List (List String) :=
  ["/dev/fd", "/proc", "/proc/self", "/proc/self/fd"].map way

/-- What a name leads to from a directory, if anything. -/
def enter? (terrain : Terrain) (reached : Option (List String)) (name : String) : Option Place := do
  let next := (← reached) ++ [name]
  if terrain.isFile next || systemFiles.contains next then some (.file next)
  else if terrain.isDirectory next || systemDirectories.contains next then some (.directory next)
  else none

/-- The directory above a directory. That of the root is the root. -/
def above : Option (List String) → Option (List String)
  | none | some [] => none
  | some [""] => some [""]
  | some names => some names.dropLast

/-- Follows names from a directory. -/
def follow (terrain : Terrain) (asDirectory : Bool) :
    Option (List String) → List String → Except SystemError Place
  | reached, [] => .ok (.directory reached)
  | reached, name :: rest =>
    if name == "." then follow terrain asDirectory reached rest
    else if name == ".." then follow terrain asDirectory (above reached) rest
    else if nameLimit < name.utf8ByteSize then .error .nameTooLong
    else match enter? terrain reached name with
      | none => .error .notFound
      | some (.directory next) => follow terrain asDirectory next rest
      | some place => if rest.isEmpty && !asDirectory then .ok place else .error .notADirectory

/-- The directory that a path starts from. -/
def start (path : String) : Option (List String) := some (if path.startsWith "/" then [""] else [])

/-- Why a path cannot even be tried. -/
def obstacle? (path : String) : Option SystemError :=
  if path.toList.contains '\x00' then some .nulInPath
  else if pathLimit ≤ path.utf8ByteSize then some .nameTooLong
  else none

/-- Where a path leads. A slash at its end asks for a directory. -/
def resolve (terrain : Terrain) (path : String) : Except SystemError Place :=
  match obstacle? path with
  | some cause => .error cause
  | none =>
    if path.isEmpty then .error .notFound
    else follow terrain (path.endsWith "/") (start path) (names path)

/-- Whether a path leads to a directory. -/
def isDirectory (terrain : Terrain) (path : String) : Bool :=
  match resolve terrain path with
  | .ok (.directory _) => true
  | _ => false

/-- The names of the file on a path, whether it is there or could be created there. -/
def site (terrain : Terrain) (path : String) : Except SystemError (List String) :=
  match resolve terrain path with
  | .ok (.file names) => .ok names
  | .ok (.directory _) => .error .isADirectory
  | .error .notFound => do
    match ← follow terrain true (start path) (names path).dropLast, (names path).getLast? with
    | .directory (some names), some name => return names ++ [name]
    | _, _ => throw .notFound
  | .error cause => .error cause

/-- The directories that are missing on the way along some names, behind those that are missing in front of
them. -/
def missingFrom (terrain : Terrain) (missing : List (List String)) :
    Option (List String) → List String → Except SystemError (List (List String))
  | _, [] => .ok missing
  | reached, name :: rest =>
    if name == "." then missingFrom terrain missing reached rest
    else if name == ".." then missingFrom terrain missing (above reached) rest
    else if nameLimit < name.utf8ByteSize then .error .nameTooLong
    else match enter? terrain reached name with
      | none =>
        if reached.any fixedDirectories.contains then .error .notFound
        else
          let next := reached.map (· ++ [name])
          missingFrom terrain (missing ++ next.toList) next rest
      | some (.directory next) => missingFrom terrain missing next rest
      | some (.file _) => .error (if rest.isEmpty then .alreadyExists else .notADirectory)

/-- The directories that have to be created for a path to lead to a directory. -/
def missing (terrain : Terrain) (path : String) : Except SystemError (List (List String)) :=
  match obstacle? path with
  | some cause => .error cause
  | none =>
    let names := names path
    let behind := (names.reverse.takeWhile (· == ".")).length
    missingFrom terrain [] (start path) (names.take (names.length - behind))

end Path

end Dialogs
