/-!
# File trees

The files below one directory, and reading a text from one of them by its path. Of what lies above
that directory nothing is known but that the way up leads through directories.
-/

namespace WifiRoster

/-- Why a file gives no text. -/
inductive ReadError where
  /-- The path holds the character NUL. -/
  | nulInPath
  /-- The path or one of its names is too long. -/
  | nameTooLong
  | missing
  | notDirectory
  | isDirectory
  /-- The bytes of the file are no UTF-8. -/
  | notText
  | other (reason : String)
deriving DecidableEq, Repr

/-- The wording of the error. -/
def ReadError.message : ReadError → String
  | nulInPath => "file name contained an unexpected NUL byte"
  | nameTooLong => "File name too long (os error 36)"
  | missing => "No such file or directory (os error 2)"
  | notDirectory => "Not a directory (os error 20)"
  | isDirectory => "Is a directory (os error 21)"
  | notText => "stream did not contain valid UTF-8"
  | other reason => reason

/-- The text of a file with the given bytes. -/
def decodeText (bytes : ByteArray) : Except ReadError String :=
  match String.fromUTF8? bytes with
  | some text => .ok text
  | none => .error .notText

/-- What a name stands for. -/
inductive FileNode where
  | file (bytes : ByteArray)
  | directory

/-- Files and directories by the names that lead to them from the top. -/
structure FileTree where
  nodes : List (List String × FileNode)

namespace FileTree

/-- The names of a path between its slashes. -/
def names (path : String) : List String := path.splitOn "/"

/-- The tree of nodes with the given paths. -/
def ofPaths (nodes : List (String × FileNode)) : FileTree :=
  ⟨nodes.map fun (path, node) => ((names path).filter fun name => name != "" && name != ".", node)⟩

/-- What the names lead to. Whatever has something below it is a directory, and so is the top. -/
def node? (tree : FileTree) (names : List String) : Option FileNode :=
  match tree.nodes.find? (·.1 == names) with
  | some (_, node) => some node
  | none =>
    if names.isEmpty || tree.nodes.any (names.isPrefixOf ·.1) then some .directory else none

/-- The number of bytes that a path may take. -/
def longestPath : Nat := 4095

/-- The number of bytes that a name may take. -/
def longestName : Nat := 255

/-- What names lead to from above the top. Nothing is there but the way up. -/
def above : List String → Except ReadError FileNode
  | [] => .ok .directory
  | name :: rest =>
    if ["", ".", ".."].contains name then above rest
    else if longestName < name.utf8ByteSize then .error .nameTooLong
    else .error .missing

/-- Follows names from a place in the tree. Only a directory can be passed through. -/
def follow (tree : FileTree) (place : List String) : List String → Except ReadError FileNode
  | [] =>
    match tree.node? place with
    | some node => .ok node
    | none => .error .missing
  | name :: rest =>
    match tree.node? place with
    | none => .error .missing
    | some (.file _) => .error .notDirectory
    | some .directory =>
      if name = "" ∨ name = "." then follow tree place rest
      else if name = ".." then
        if place.isEmpty then above rest else follow tree place.dropLast rest
      else if longestName < name.utf8ByteSize then .error .nameTooLong
      else follow tree (place ++ [name]) rest

/-- What a path leads to. An empty path leads to the top, and one that starts with a slash starts
above the top. -/
def atPath (tree : FileTree) (path : String) : Except ReadError FileNode :=
  if path.toList.contains '\x00' then .error .nulInPath
  else if longestPath < path.utf8ByteSize then .error .nameTooLong
  else
    match names path with
    | "" :: name :: rest => above (name :: rest)
    | names => tree.follow [] names

/-- Reads the text of the file with the given path. -/
def read (tree : FileTree) (path : String) : Except ReadError String := do
  match ← tree.atPath path with
  | .directory => throw .isDirectory
  | .file bytes => decodeText bytes

end FileTree

end WifiRoster
