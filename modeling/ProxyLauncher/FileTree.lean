import ProxyLauncher.Text.Utf8

/-!
# File trees

A tree of files and directories, seen from a working directory. A path is
walked name by name. What lies outside the working directory is a directory
too, but one in which nothing is found.

The walk decides which fault is reported: a name is looked up only once all
names before it have led to a directory.
-/

namespace ProxyLauncher

/-- What a tree holds under a path. -/
inductive FileNode where
  | file (content : Bytes)
  | directory
  deriving DecidableEq, Repr

/-- The listed entries of a tree, by the names that lead to them. The directories on the way to an
entry exist without being listed. -/
structure FileTree where
  entries : List (List String × FileNode) := []

namespace FileTree

/-- The longest name, in bytes. -/
def longestName : Nat := 255

/-- The longest path, in bytes. -/
def longestPath : Nat := 4095

/-- Why a file cannot be read. -/
inductive Fault where
  | zeroByte
  | missing
  | notDirectory
  | isDirectory
  | nameTooLong
  | other (message : String)
  deriving DecidableEq, Repr

/-- How the system words a fault. A path with a zero byte never reaches the system. -/
def Fault.message : Fault → String
  | .zeroByte => "embedded null byte"
  | .missing => "No such file or directory"
  | .notDirectory => "Not a directory"
  | .isDirectory => "Is a directory"
  | .nameTooLong => "File name too long"
  | .other message => message

/-- Cuts a path at its strokes. Strokes next to each other and at either end leave empty names. -/
def splitPath (path : String) : List String :=
  (path.toList.splitOnP (· = '/')).map String.ofList

/-- The tree of listed paths. -/
def ofList (listed : List (String × FileNode)) : FileTree :=
  ⟨listed.map fun (path, node) =>
    ((splitPath path).filter fun name => name ≠ "" && name ≠ ".", node)⟩

/-- What stands under a list of names: an entry, or a directory on the way to one. -/
def find? (tree : FileTree) (names : List String) : Option FileNode :=
  match tree.entries.lookup names with
  | some node => some node
  | none =>
    if names.isEmpty || tree.entries.any (fun (listed, _) => names.isPrefixOf listed) then
      some .directory
    else none

/-- Where a walk has come: to a directory inside the working directory, or outside of it. -/
inductive Place where
  | inside (names : List String)
  | outside
  deriving DecidableEq, Repr

/-- The directory above. -/
def Place.parent : Place → Place
  | .inside [] => .outside
  | .inside names => .inside names.dropLast
  | .outside => .outside

/-- Walks along names from a directory to a file. An empty name stands for the directory itself. -/
def walk (tree : FileTree) (place : Place) : List String → Except Fault Bytes
  | [] => .error .isDirectory
  | name :: rest =>
    if name = "" || name = "." then walk tree place rest
    else if name = ".." then walk tree place.parent rest
    else if longestName < (Text.encodeUtf8 name).length then .error .nameTooLong
    else
      match place with
      | .outside => .error .missing
      | .inside names =>
        match tree.find? (names ++ [name]) with
        | none => .error .missing
        | some .directory => walk tree (.inside (names ++ [name])) rest
        | some (.file content) => if rest.isEmpty then .ok content else .error .notDirectory

/-- Reads the file at a path. -/
def read (tree : FileTree) (path : String) : Except Fault Bytes :=
  if path.toList.contains '\x00' then .error .zeroByte
  else if longestPath < (Text.encodeUtf8 path).length then .error .nameTooLong
  else
    match splitPath path with
    | "" :: rest => if path = "" then .error .missing else walk tree .outside rest
    | names => walk tree (.inside []) names

end FileTree

end ProxyLauncher
