/-!
# Paths

A path is a text with `/` between its parts. Its written form drops empty parts and `.` parts
and a trailing slash, keeps `..` as it is, and starts with its root: `/` for an absolute path,
`//` for one that starts with exactly two slashes. Joining a part that is absolute starts the
path over.

Resolving a path against a working directory is lexical: the parts are pushed on a stack that
starts at the root or at the working directory, `..` takes the top part off (never the root), and
the result is absolute. A leading `~` or `~name` part stands for a home directory; when that
home cannot be told the path cannot be expanded.
-/

namespace SheetExport

namespace Path

/-- The pieces of a text between its slashes, empty ones included. -/
def pieces : List Char → List String
  | [] => [""]
  | c :: rest =>
    match pieces rest with
    | [] => [String.singleton c]
    | first :: others =>
      if c == '/' then "" :: first :: others else (String.singleton c ++ first) :: others

/-- The parts of a path that name something: no empty part and no `.`. -/
def parts (path : String) : List String :=
  (pieces path.toList).filter fun part => !part.isEmpty && part != "."

/-- The root of a path. -/
def root (path : String) : String :=
  if path.startsWith "//" && !path.startsWith "///" then "//"
  else if path.startsWith "/" then "/"
  else ""

/-- Whether a path is absolute. -/
def isAbsolute (path : String) : Bool := path.startsWith "/"

/-- The written form of a path; the empty path is `.`. -/
def normalize (path : String) : String :=
  let text := root path ++ "/".intercalate (parts path)
  if text.isEmpty then "." else text

/-- A path followed by more parts, each of which may hold slashes; an absolute part replaces all
before it. -/
def join (base : String) (more : List String) : String :=
  more.foldl (fun path part =>
    if isAbsolute part then normalize part
    else
      let text := root path ++ "/".intercalate (parts path ++ parts part)
      if text.isEmpty then "." else text) (normalize base)

/-- The directory that holds a path: the path without its last part, or the path itself when it
has no part beyond its root. -/
def parent (path : String) : String :=
  let named := parts path
  if named.isEmpty then normalize path
  else
    let text := root path ++ "/".intercalate named.dropLast
    if text.isEmpty then "." else text

/-- The stack of parts after walking a path's parts from `start`: `..` takes one part off. -/
def walk (start : List String) (path : String) : List String :=
  (pieces path.toList).foldl (fun stack part =>
    if part.isEmpty || part == "." then stack
    else if part == ".." then stack.dropLast
    else stack ++ [part]) start

/-- The absolute form of a path seen from a working directory, with `.` and `..` worked out. -/
def resolve (workingDirectory path : String) : String :=
  let start := if isAbsolute path then [] else walk [] workingDirectory
  "/" ++ "/".intercalate (walk start path)

/-- Why a path cannot be expanded. -/
inductive PathError where
  /-- The home directory of the user a path names cannot be told. -/
  | noHome
  deriving DecidableEq, Repr

/-- The class of a failure. -/
def PathError.className : PathError → String
  | .noHome => "RuntimeError"

/-- The message of a failure. -/
def PathError.message : PathError → String
  | .noHome => "Could not determine home directory."

/-- Expands a leading `~` (the current user) or `~name` part to that user's home directory, which
`home` gives, the empty name standing for the current user; the home loses its trailing slashes
and an empty result is the root. -/
def expandUser (home : String → Option String) (path : String) : Except PathError String :=
  match parts path with
  | first :: rest =>
    if root path == "" && first.startsWith "~" then
      match home (String.ofList (first.toList.drop 1)) with
      | some directory =>
        let trimmed := String.ofList (directory.toList.reverse.dropWhile (· == '/')).reverse
        let expanded := if trimmed.isEmpty then "/" else trimmed
        if expanded.startsWith "~" then .error .noHome
        else .ok (join expanded rest)
      | none => .error .noHome
    else .ok (normalize path)
  | [] => .ok (normalize path)

end Path

end SheetExport
