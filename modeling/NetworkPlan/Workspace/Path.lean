import NetworkPlan.Text.Splitting

/-!
# File paths

A path is a text of names with slashes between them. Empty names and a single point stay where
they are, and two points lead one directory up.
-/

namespace NetworkPlan
namespace Workspace

/-- The names of a path, in order. -/
def names (path : String) : List String :=
  (Text.splitAll '/' path.toList).map String.ofList

/-- The path of a file in a directory. -/
def join (directory file : String) : String :=
  match directory.toList.getLast? with
  | none => file
  | some '/' => directory ++ file
  | some _ => directory ++ "/" ++ file

/-- A path read from its end, without slashes and single points after its last name. The root
and a lone point stay. -/
def trimEnding : List Char → List Char
  | ['/'] => ['/']
  | '/' :: rest => trimEnding rest
  | ['.', '/'] => ['/']
  | '.' :: '/' :: rest => trimEnding rest
  | cs => cs

/-- How a message names a directory: without slashes and single points at the end. -/
def directoryText (directory : String) : String :=
  String.ofList (trimEnding directory.toList.reverse).reverse

/-- A name that a file or directory can have: it does not hold the null character and takes at
most 255 bytes. -/
def isName (name : String) : Bool :=
  !name.toList.contains '\x00' && name.utf8ByteSize ≤ 255

/-- Whether the text of a path can be looked up: it is not empty and takes less than 4096
bytes. -/
def isPath (path : String) : Bool :=
  path ≠ "" && path.utf8ByteSize < 4096

example : directoryText "a//./" = "a" ∧ directoryText "/." = "/" ∧ directoryText "./" = "." := by
  decide

end Workspace
end NetworkPlan
