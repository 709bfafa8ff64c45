import CrashTrace.System.Descriptor
import CrashTrace.Text.Cut
import CrashTrace.Text.Split

/-!
# Opening paths

A path names a file by the directories that lead to it. Opening a file for output makes it if it
is not there, as long as its directory is. A link is another name of a place.

## Main definitions

- `PathTarget`, `FileTree` — what there is, and where relative paths begin
- `FileTree.enter?`, `FileTree.make?` — one name on the way, and the last name
- `FileTree.openOutput?` — opening a path for output

## Design notes

Names are followed one after the other, so the first name that leads nowhere decides how a path
fails. A slash at the end asks for a directory, and a directory is never opened for output. A link
is followed as soon as its name is read, and it leads to a place that is no link.
-/

namespace CrashTrace

/-- The place of a file: the names that lead to it from the root. -/
abbrev FilePlace := List Text

/-- What a name leads to. -/
inductive PathTarget where
  | directory
  /-- A directory in which nothing can be made, and how that fails. -/
  | sealed (failure : IoFailure)
  /-- Something that can be opened for output. -/
  | output (kind : DescriptorKind)
  /-- Something that is there but cannot be opened. -/
  | locked (failure : IoFailure)
  /-- Another name of a place. -/
  | link (place : FilePlace)
  deriving DecidableEq

/-- What there is besides the root, and the directory where relative paths begin. -/
structure FileTree where
  targets : Entries FilePlace PathTarget
  start : FilePlace

namespace FileTree

/-- The most bytes of a name. -/
def nameLimit : Nat := 255

/-- The most bytes of a path. -/
def pathLimit : Nat := 4095

/-- The name of the directory itself. -/
def here : Text := ['.']

/-- The name of the directory above. -/
def above : Text := ['.', '.']

def target? (t : FileTree) (place : FilePlace) : Option PathTarget :=
  if place = [] then some .directory else t.targets.find? place

/-- The place that a name leads to in a directory. -/
def follow (t : FileTree) (place : FilePlace) (name : Text) : FilePlace :=
  match t.target? (place ++ [name]) with
  | some (.link place) => place
  | _ => place ++ [name]

/-- The directory that a name leads to from another one. Nothing is above the root but the root. -/
def enter? (t : FileTree) (place : FilePlace) (name : Text) : Except IoFailure FilePlace :=
  if name = here then .ok place
  else if name = above then .ok place.dropLast
  else if nameLimit < name.width then .error .nameTooLong
  else
    let inner := t.follow place name
    match t.target? inner with
    | some .directory | some (.sealed _) => .ok inner
    | some _ => .error .notDirectory
    | none => .error .noSuchFile

/-- Opens a name in a directory for output, and makes it if it is not there. -/
def make? (t : FileTree) (place : FilePlace) (name : Text) : Except IoFailure DescriptorKind :=
  if name = here || name = above then .error .isDirectory
  else if nameLimit < name.width then .error .nameTooLong
  else
    match t.target? (t.follow place name) with
    | some .directory | some (.sealed _) => .error .isDirectory
    | some (.output kind) => .ok kind
    | some (.locked failure) => .error failure
    | some (.link _) | none =>
      match t.target? place with
      | some (.sealed failure) => .error failure
      | _ => .ok .file

/-- The names in a path. Several slashes are as good as one. -/
def namesOf (path : Text) : List Text := (path.split '/').filter (!·.isEmpty)

def openOutput? (t : FileTree) (path : Text) : Except IoFailure DescriptorKind :=
  if path.isEmpty then .error .noSuchFile
  else if pathLimit < path.width then .error .nameTooLong
  else
    let names := namesOf path
    match names.getLast? with
    | none => .error .isDirectory
    | some last => do
      let place ← names.dropLast.foldlM t.enter? (if path.head? = some '/' then [] else t.start)
      if path.getLast? = some '/' then .error .isDirectory else t.make? place last

end FileTree

end CrashTrace
