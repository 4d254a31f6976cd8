import PointerChain.Host.Fault
import PointerChain.Host.Path

/-!
# Files

The files that a run may see, as a value: their places with their contents. A directory is there as
soon as a file lies below it, and the working directory is there in any case.

* `FileStore.locate` follows a path, `FileStore.read` also gives the contents of the file at its
  end.
* `FileStore.put` stores a file.
-/

namespace PointerChain.Host

/-- The contents of a file. -/
abbrev Contents := List UInt8

/-- Files by their places. -/
structure FileStore where
  /-- The place of the working directory. -/
  workingPlace : Place
  /-- The files. -/
  files : List (Place × Contents) := []
  /-- Directories that are there even if no file lies below them. -/
  directories : List Place := []

/-- What is at a place. -/
inductive Node where
  /-- A file. -/
  | file (contents : Contents)
  /-- A directory. -/
  | directory
  /-- Nothing. -/
  | missing

/-- The greatest number of bytes of a name. -/
def longestName : Nat := 255

/-- The greatest number of bytes of a path. -/
def longestPath : Nat := 4095

namespace FileStore

/-- The contents of the file at a place. -/
def contents? (store : FileStore) (place : Place) : Option Contents :=
  (store.files.find? (·.1 = place)).map (·.2)

/-- Whether a directory is at a place where no file is. -/
def hasDirectory (store : FileStore) (place : Place) : Bool :=
  place.isPrefixOf store.workingPlace || store.directories.any place.isPrefixOf ||
    store.files.any fun file => place.isPrefixOf file.1

/-- What is at a place. -/
def node (store : FileStore) (place : Place) : Node :=
  match store.contents? place with
  | some contents => .file contents
  | none => if store.hasDirectory place then .directory else .missing

/-- Follows names from a place, and gives what is there or a fault number. -/
def follow (store : FileStore) (place : Place) : List Name → Except Nat Node
  | [] => .ok (store.node place)
  | name :: names =>
    match store.node place with
    | .file _ => .error notDirectory
    | .missing => .error noEntry
    | .directory =>
      -- A name is only looked at in a directory that is there.
      if longestName < byteSize name then .error nameTooLong
      else follow store (place.move name) names

/-- What a path leads to, or a fault number. -/
def locate (store : FileStore) (path : Path) : Except Nat Node :=
  if path.isEmpty then .error noEntry
  else if longestPath < byteSize path.marks then .error nameTooLong
  else store.follow (store.workingPlace.start path) path.names

/-- The contents of a file, or the fault of opening it. -/
def read (store : FileStore) (path : Path) : Except Fault Contents :=
  let fault (number : Nat) : Fault := { number, path := some path }
  match store.locate path with
  | .ok (.file contents) => .ok contents
  | .ok .directory => .error (fault isDirectory)
  | .ok .missing => .error (fault noEntry)
  | .error number => .error (fault number)

/-- Whether a path leads to a file or directory. -/
def holds (store : FileStore) (path : Path) : Bool :=
  match store.locate path with
  | .ok (.file _) | .ok .directory => true
  | _ => false

/-- A path written out from the root. -/
def absolute (store : FileStore) (path : Path) : Path :=
  store.workingPlace.absolute path

/-- Stores a file in place of what a path leads to. -/
def put (store : FileStore) (path : Path) (contents : Contents) : FileStore :=
  let place := store.workingPlace.ofPath path
  { store with files := (place, contents) :: store.files.filter (·.1 != place) }

/-- Stores files one after the other. -/
def putAll (store : FileStore) (files : List (Path × Contents)) : FileStore :=
  files.foldl (fun store file => store.put file.1 file.2) store

/-- Appends to a file, which need not be there. -/
def append (store : FileStore) (path : Path) (contents : Contents) : FileStore :=
  let before := (store.contents? (store.workingPlace.ofPath path)).getD []
  store.put path (before ++ contents)

end FileStore

end PointerChain.Host
