import JunctionReplay.TextFile

/-!
# Trees of files

Files in folders, as a program finds them by paths.  A path leads from the root or from a folder
down through names; a point stands for the folder that has been reached, two points for the one
that holds it.
-/

namespace JunctionReplay

/-- Files and folders, each with the names that lead to it from the root.  A folder that holds
anything need not be given. -/
structure FileTree where
  files : List (List String × ByteArray)
  folders : List (List String)

namespace FileTree

/-- The number of bytes that a name may have. -/
def longestName : Nat := 255

/-- Whether names lead to a folder. -/
def isFolder (tree : FileTree) (names : List String) : Bool :=
  names.isEmpty || tree.folders.any names.isPrefixOf ||
    tree.files.any fun file => names.isPrefixOf file.1

/-- What names lead to. -/
def stateAt (tree : FileTree) (names : List String) : FileState :=
  match tree.files.lookup names with
  | some content => .bytes content
  | none => if tree.isFolder names then .folder else .missing

/-- What the names of a path lead to. -/
def follow (tree : FileTree) : (reached names : List String) → FileState
  | reached, [] => tree.stateAt reached
  | reached, name :: names =>
    match tree.stateAt reached with
    | .folder =>
      if name = "" ∨ name = "." then tree.follow reached names
      else if name = ".." then tree.follow reached.dropLast names
      else if longestName < name.utf8ByteSize then .unnamable
      else tree.follow (reached ++ [name]) names
    | .bytes _ => .blocked
    | other => other

/-- What a path leads to from a folder.  No path leads nowhere, and one that starts with a slash
leads from the root. -/
def find (tree : FileTree) (folder : List String) (path : String) : FileState :=
  if path = "" then .missing
  else
    match path.splitOn "/" with
    | "" :: names => tree.follow [] names
    | names => tree.follow folder names

end FileTree

end JunctionReplay
