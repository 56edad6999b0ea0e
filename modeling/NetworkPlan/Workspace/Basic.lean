import NetworkPlan.Workspace.Path

/-!
# Workspaces

A workspace is where documents are read and files are written. What a run does with it is said
once, for every kind of workspace: the file system of a machine, or a tree of files kept as a
value.
-/

namespace NetworkPlan

/-- What a reader finds at a path. -/
inductive FileContent where
  | absent
  | directory
  /-- Something is there but cannot be read. -/
  | unreadable (detail : String)
  | bytes (bytes : ByteArray)

/-- Reading and writing, with effects in `m`. A failure is a text that says what is wrong. -/
structure Workspace (m : Type → Type) where
  read : String → m FileContent
  /-- Makes a directory, and those above it, unless they are there. -/
  makeDirectory : String → m (Except String Unit)
  /-- Writes a file, in place of an older one, into a directory that is there. -/
  write : String → String → m (Except String Unit)

namespace FileContent

/-- What is wrong with reading a directory as a text. -/
def isDirectoryText : String := "Is a directory (os error 21)"

/-- What is wrong with bytes that are not UTF-8. -/
def notUtf8Text : String := "stream did not contain valid UTF-8"

end FileContent
end NetworkPlan
