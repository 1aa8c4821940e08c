import Rustasea.Library.FileTree

namespace Rustasea.Storage

open FileTree

/-!
# A local disk

Keys are paths below the root of a disk.  A path is confined before it is used:
where it leads has to be below the root, or the deepest entry above it when it
leads nowhere yet.
-/

/-! ## Confinement -/

/-- Why a key is rejected. -/
inductive Traversal where
  | absoluteKey (key : String)
  | parentEscape (candidate root : Path)
  | outside (path root : Path)
  | throughLink (key : String)
  deriving DecidableEq

inductive StorageError where
  | notFound (key : String)
  | pathTraversal (reason : Traversal)
  | io (path : Path) (source : Failure)
  | unknownDisk (name : String)
  | storeUnavailable (cause : String)
  | connectionFailed (cause : String)
  | config (cause : String)
  deriving DecidableEq

inductive PathOutcome where
  | confined (path : Path)
  | traversal
  deriving DecidableEq

def hasParentEscape (path : Path) : Bool := path.components.contains .up

variable {Bytes : Type}

def deepestExistingFrom (tree : FileSystem Bytes) (absolute : Bool) : List Component → Option Path
  | [] =>
    let path : Path := { absolute := absolute, components := [], ending := .plain }
    if tree.pathExists path then some path
    else none
  | last :: before =>
    let path : Path :=
      { absolute := absolute, components := (last :: before).reverse, ending := .plain }
    if tree.pathExists path then some path
    else deepestExistingFrom tree absolute before

def deepestExistingAncestor (tree : FileSystem Bytes) (path : Path) : Option Path :=
  if tree.pathExists path then some path
  else
    match path.components.reverse with
    | [] => none
    | _ :: before => deepestExistingFrom tree path.absolute before

def confinePath (tree : FileSystem Bytes) (root candidate : Path) : Except Traversal PathOutcome :=
  let root := (tree.canonicalize root).toOption.getD root
  if hasParentEscape candidate then .error (.parentEscape candidate root)
  else
    match tree.canonicalize candidate with
    | .ok path =>
      if path.startsWith root then .ok (.confined path)
      else .error (.outside path root)
    | .error _ =>
      -- The candidate leads nowhere yet: a pending write.
      match deepestExistingAncestor tree candidate with
      | none => .ok (.confined (root.join candidate))
      | some anchor =>
        match tree.canonicalize anchor with
        | .ok path =>
          if path.startsWith root then .ok (.confined (root.join candidate))
          else .ok .traversal
        | .error _ => .ok (.confined (root.join candidate))

/-! ## The disk -/

structure LocalDisk where
  configured : Path
  deriving DecidableEq

namespace LocalDisk

def root (disk : LocalDisk) (tree : FileSystem Bytes) : Path :=
  (tree.canonicalize disk.configured).toOption.getD disk.configured

def confinedPath (disk : LocalDisk) (key : String)
    (tree : FileSystem Bytes) : Except StorageError Path :=
  let relative := Path.parse key
  if relative.absolute then .error (.pathTraversal (.absoluteKey key))
  else
    let root := disk.root tree
    match confinePath tree root (root.join relative) with
    | .error reason => .error (.pathTraversal reason)
    | .ok (.confined path) => .ok path
    | .ok .traversal => .error (.pathTraversal (.throughLink key))

def resolve (disk : LocalDisk) (key : String)
    (tree : FileSystem Bytes) : Except StorageError Path × FileSystem Bytes :=
  match tree.createDirAll (disk.root tree) with
  | (.error failure, after) => (.error (.io (disk.root tree) failure), after)
  | (.ok (), after) => (disk.confinedPath key after, after)

def get (disk : LocalDisk) (key : String) (tree : FileSystem Bytes) :
    Except StorageError (Location × Bytes) × FileSystem Bytes :=
  match disk.resolve key tree with
  | (.error error, after) => (.error error, after)
  | (.ok path, after) =>
    match after.readFile path with
    | .ok read => (.ok read, after)
    | .error .notFound => (.error (.notFound key), after)
    | .error failure => (.error (.io path failure), after)

def createParent (path : Path)
    (tree : FileSystem Bytes) : Except StorageError Unit × FileSystem Bytes :=
  match path.parent? with
  | none => (.ok (), tree)
  | some parent =>
    match tree.createDirAll parent with
    | (.error failure, after) => (.error (.io parent failure), after)
    | (.ok (), after) => (.ok (), after)

def put (disk : LocalDisk) (key : String) (bytes : Bytes)
    (tree : FileSystem Bytes) : Except StorageError Location × FileSystem Bytes :=
  match disk.resolve key tree with
  | (.error error, after) => (.error error, after)
  | (.ok path, after) =>
    match createParent path after with
    | (.error error, made) => (.error error, made)
    | (.ok (), made) =>
      match made.writeFile path bytes with
      | (.ok location, written) => (.ok location, written)
      | (.error failure, written) => (.error (.io path failure), written)

/-- Whether there is something at a key, and then where. -/
def exists? (disk : LocalDisk) (key : String) (tree : FileSystem Bytes) :
    Except StorageError (Option Location) × FileSystem Bytes :=
  match disk.resolve key tree with
  | (.error error, after) => (.error error, after)
  | (.ok path, after) => (.ok (after.resolve false path).toOption, after)

/-- Remove a key; the location is the one removed, if any. -/
def delete (disk : LocalDisk) (key : String) (tree : FileSystem Bytes) :
    Except StorageError (Option Location) × FileSystem Bytes :=
  match disk.resolve key tree with
  | (.error error, after) => (.error error, after)
  | (.ok path, after) =>
    match after.removeFile path with
    | (.ok location, removed) => (.ok (some location), removed)
    | (.error .notFound, _) => (.ok none, after)
    | (.error failure, _) => (.error (.io path failure), after)

end LocalDisk

end Rustasea.Storage
