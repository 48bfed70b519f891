import Dialogue.Error

/-!
# File trees

A directory held in memory.  A path is followed component by component: `.` and
empty components stay where they are, `..` goes back, and only directories can
be passed through.  Components and paths have a greatest length.
-/

namespace Dialogue

inductive FileTree where
  | file (bytes : ByteArray)
  | directory (entries : List (String × FileTree))

namespace FileTree

def empty : FileTree :=
  directory []

def componentLimit : Nat := 255

def pathLimit : Nat := 4095

def child? : FileTree → String → Option FileTree
  | file _, _ => none
  | directory entries, name => entries.lookup name

def insert (tree : FileTree) (path : List String) (leaf : FileTree) : FileTree :=
  match path with
  | [] => leaf
  | name :: path =>
      let inner := ((tree.child? name).getD empty).insert path leaf
      match tree with
      | file _ => directory [(name, inner)]
      | directory entries => directory ((name, inner) :: entries)

/-- Follows a path from the innermost of the directories that lead to a place.
What lies outside the tree has no entries. -/
def follow : (trail : List FileTree) → List String → Except FileFault FileTree
  | tree :: _, [] => .ok tree
  | [], [] => .ok empty
  | file _ :: _, _ :: _ => .error .notDirectory
  | trail, component :: path =>
      if component = "" ∨ component = "." then follow trail path
      else if component = ".." then follow trail.tail path
      else if component.utf8ByteSize > componentLimit then .error .nameTooLong
      else
        match trail.head?.bind (·.child? component) with
        | none => .error .notFound
        | some tree => follow (tree :: trail) path

/-- The bytes of the file at a path.  A path that begins with a slash leads out of
the tree. -/
def read (tree : FileTree) (path : String) : Except FileFault ByteArray := do
  if path = "" then throw .notFound
  if path.contains '\x00' then
    throw (.other "file name contained an unexpected NUL byte")
  if path.utf8ByteSize > pathLimit then throw .nameTooLong
  let trail := if path.startsWith "/" then [] else [tree]
  match ← follow trail (path.splitOn "/") with
  | file bytes => return bytes
  | directory _ => throw .isDirectory

def readText (tree : FileTree) (path : String) : Except FileFault String := do
  let bytes ← tree.read path
  match String.fromUTF8? bytes with
  | some text => return text
  | none => throw .notText

end FileTree

end Dialogue
