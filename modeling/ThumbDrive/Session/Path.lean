import ThumbDrive.Fat.Directory
import ThumbDrive.Text.Uppercase

/-! Paths, and what they lead to on a volume.

A path is cut at slashes; empty components and `.` do not count. A component names the first
entry whose long or short name is the same up to case. Dot entries are never followed. -/
namespace ThumbDrive

namespace Path

/-- The pieces between slashes. -/
def pieces : List Char → List (List Char)
  | [] => [[]]
  | c :: cs =>
      if c = '/' then [] :: pieces cs
      else
        match pieces cs with
        | [] => [[c]]
        | p :: ps => (c :: p) :: ps

/-- Whether a piece counts as a component. -/
def isComponent (piece : List Char) : Bool := piece != [] && piece != ['.']

/-- The components of a path. -/
def components (path : String) : List String :=
  ((pieces path.toList).filter isComponent).map String.ofList

end Path

/-- What a path leads to. -/
inductive Node where
  | directory (d : Directory)
  | file (e : DirEntry)

namespace DirEntry

/-- Whether a path component names the entry. -/
def answersTo (component : String) (e : DirEntry) : Bool :=
  !e.isDot && (Text.sameLetters e.name component || Text.sameLetters e.shortName component)

end DirEntry

namespace Volume
variable {δ : Type} [BlockDevice δ] (v : Volume)

/-- What an entry is. -/
def nodeOf (e : DirEntry) : Node := if e.isDirectory then .directory (v.directoryOf e) else .file e

/-- Where the components lead from a directory; nowhere through a file. -/
def walkFrom (d : Directory) : List String → IoOn (BlockStream δ) (Option Node)
  | [] => pure (some (.directory d))
  | c :: cs => do
      match ← d.find? v (DirEntry.answersTo c) with
      | none => return none
      | some e =>
          match v.nodeOf e with
          | .directory d => walkFrom d cs
          | .file e => return if cs = [] then some (.file e) else none

/-- Where a path leads. -/
def resolve (path : String) : IoOn (BlockStream δ) (Option Node) :=
  walkFrom v v.root (Path.components path)

end Volume
end ThumbDrive
