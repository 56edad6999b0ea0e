import NetworkPlan.Workspace.Basic

/-!
# File trees

A file system as a value. A place is the list of names that lead to it from the working
directory; above that directory it starts with the names that lead up, and from the root of the
file system with the name of the root. Nothing but the way up is known to be outside the working
directory. Every name on the way to a place must be one of a directory.
-/

namespace NetworkPlan

/-- What a name in a file tree stands for. -/
inductive FileNode where
  | directory
  | file (bytes : ByteArray)

/-- Files and directories by their places. The working directory, those above it and the root
are always there. -/
structure FileTree where
  nodes : List (List String × FileNode)

namespace FileTree

/-- The name that leads up. -/
def upward : String := ".."

/-- The name of the root. -/
def root : String := "/"

/-- The tree without files. -/
def empty : FileTree := ⟨[]⟩

/-- The working directory, a directory above it, or the root. -/
def isStanding (place : List String) : Bool :=
  place.all (· = upward) || place = [root]

/-- What is at a place. -/
def node? (t : FileTree) (place : List String) : Option FileNode :=
  if isStanding place then some .directory else t.nodes.lookup place

def isDirectory (t : FileTree) (place : List String) : Bool :=
  match t.node? place with
  | some .directory => true
  | _ => false

/-- Puts something at a place, instead of what was there. -/
def put (t : FileTree) (place : List String) (node : FileNode) : FileTree :=
  ⟨t.nodes.filter (fun (other, _) => !(other == place)) ++ [(place, node)]⟩

/-!
## Places
-/

/-- The place that a name leads to from a place. The root leads up to itself. -/
def follow (place : List String) (name : String) : List String :=
  if name = "" ∨ name = "." then place
  else if name = upward then
    if place = [root] then place
    else if isStanding place then place ++ [upward]
    else place.dropLast
  else place ++ [name]

/-- The place where a path starts, and the names that follow. -/
def start (path : String) : List String × List String :=
  match path.toList with
  | '/' :: rest => ([root], Workspace.names (String.ofList rest))
  | _ => ([], Workspace.names path)

/-- The place that names lead to, if every place on the way is a directory. -/
def resolveNames (t : FileTree) (place : List String) : List String → Option (List String)
  | [] => some place
  | name :: rest =>
      if t.isDirectory place then resolveNames t (follow place name) rest else none

/-- The place that a path leads to. A text that is no path leads nowhere. -/
def resolve (t : FileTree) (path : String) : Option (List String) :=
  if Workspace.isPath path then
    let (place, names) := start path
    t.resolveNames place names
  else none

/-!
## Reading and writing
-/

def read (t : FileTree) (path : String) : FileContent :=
  match (t.resolve path).bind t.node? with
  | none => .absent
  | some .directory => .directory
  | some (.file bytes) => .bytes bytes

/-- Makes the directories on the way along names, as far as that is possible. -/
def makeDirectories (t : FileTree) (place : List String) :
    List String → FileTree × Except String Unit
  | [] => (t, .ok ())
  | name :: rest =>
      let next := follow place name
      match t.node? next with
      | some .directory => makeDirectories t next rest
      | some (.file _) => (t, .error "Not a directory (os error 20)")
      | none =>
          if Workspace.isName name then makeDirectories (t.put next .directory) next rest
          else (t, .error "Invalid argument (os error 22)")

/-- Makes the directory of a path and those above it. The empty text stands for the working
directory here. -/
def makeDirectory (t : FileTree) (path : String) : FileTree × Except String Unit :=
  if path = "" || Workspace.isPath path then
    let (place, names) := start path
    t.makeDirectories place names
  else (t, .error "File name too long (os error 36)")

def write (t : FileTree) (path text : String) : FileTree × Except String Unit :=
  match t.resolve path with
  | none => (t, .error "No such file or directory (os error 2)")
  | some place =>
      if t.isDirectory place then (t, .error FileContent.isDirectoryText)
      else (t.put place (.file text.toUTF8), .ok ())

/-- A file tree as the place where a run reads and writes. -/
def workspace : Workspace (StateM FileTree) where
  read path := return (← get).read path
  makeDirectory path := modifyGet fun t => (t.makeDirectory path).swap
  write path text := modifyGet fun t => (t.write path text).swap

/-- A place below the working directory. -/
def isBelow (place : List String) : Bool :=
  !(place.head? = some upward || place.head? = some root)

/-- The files below the working directory and their texts; a file that is not text is left
out. -/
def texts (t : FileTree) : List (List String × String) :=
  t.nodes.filterMap fun (place, node) =>
    match node with
    | .directory => none
    | .file bytes => if isBelow place then (String.fromUTF8? bytes).map (place, ·) else none

end FileTree
end NetworkPlan
