import Mathlib.Data.List.Infix

namespace FileTree

open List Function

/-!
# Files, directories and symbolic links

A path is walked component by component, and a symbolic link on the way is
replaced by its target; so many links may be followed and no more.  Calls
address entries by paths, but entries are at locations: a location is a path
without links.
-/

/-! ## Paths -/

/-- A step of a walk. -/
inductive Component where
  | here
  | up
  | name (name : String)
  deriving DecidableEq

/-- What stands after the last component. -/
inductive Ending where
  | plain
  | slash
  | dot
  deriving DecidableEq

/-- A path, without the dots and doubled slashes within. -/
structure Path where
  absolute : Bool
  components : List Component
  ending : Ending
  deriving DecidableEq

abbrev Location := List String

namespace Path

def ofLocation (location : Location) : Path :=
  { absolute := true, components := location.reverse.map .name, ending := .plain }

/-- The components, and that what they lead to is a directory. -/
def walked (path : Path) : List Component :=
  match path.ending with
  | .plain => path.components
  | .slash | .dot => path.components ++ [.here]

/-- No call takes a path with a zero byte, or one without any text. -/
def isInvalid (path : Path) : Bool :=
  path.components.any fun component =>
    match component with
    | .name name => name.toList.contains '\x00'
    | _ => false

def isEmpty (path : Path) : Bool :=
  !path.absolute && path.components.isEmpty && path.ending = .plain

/-- The path of the directory that the last component is in. -/
def parent? (path : Path) : Option Path :=
  if path.components = [] then none
  else some { path with components := path.components.dropLast, ending := .plain }

def join (base path : Path) : Path :=
  if path.absolute then path
  else
    { absolute := base.absolute
      components := base.components ++ path.components
      ending := path.ending }

def startsWith (path base : Path) : Bool :=
  (base.absolute = path.absolute ∧ base.components <+: path.components) ∨
    (base.absolute = false ∧ base.components = [])

/-- Read a path; an empty one ends in the slash that joining it leaves. -/
def parse (text : String) : Path :=
  let pieces := text.toList.splitOn '/'
  { absolute := text.toList.head? = some '/'
    components :=
      pieces.filterMap fun piece =>
        if piece = [] ∨ piece = ['.'] then none
        else if piece = ['.', '.'] then some .up
        else some (.name (String.ofList piece))
    ending :=
      if pieces.getLast? = some [] then .slash
      else if pieces.getLast? = some ['.'] then .dot
      else .plain }

end Path

def fromRoot (components : List Component) : Path :=
  { absolute := true, components := components, ending := .plain }

/-! ## Trees -/

/-- Why a call fails. -/
inductive Failure where
  | notFound
  | notDirectory
  | isDirectory
  | alreadyExists
  | tooManyLinks
  | invalidInput
  deriving DecidableEq

variable {Bytes : Type}

inductive Entry (Bytes : Type) where
  | directory
  | file (bytes : Bytes)
  | link (target : Path)
  deriving DecidableEq

/-- Entries are in directories, and so is whoever makes the calls. -/
structure FileSystem (Bytes : Type) where
  entries : Location → Option (Entry Bytes)
  working : Location
  root : entries [] = some .directory
  isWorking : entries working = some .directory
  parents : ∀ name parent, entries (name :: parent) ≠ none → entries parent = some .directory

namespace FileSystem

@[grind =]
def isDirectory (tree : FileSystem Bytes) (location : Location) : Bool :=
  match tree.entries location with
  | some .directory => true
  | _ => false

theorem isDirectory_iff {tree : FileSystem Bytes} {location : Location} :
    tree.isDirectory location = true ↔ tree.entries location = some .directory := by
  unfold isDirectory
  rcases tree.entries location with _ | _ | bytes | target <;> simp

theorem entries_eq_none {tree : FileSystem Bytes} {location : Location}
    (notDirectory : tree.isDirectory location = false) (name : String) :
    tree.entries (name :: location) = none := by
  by_contra isSome
  have isDirectory := tree.parents name location isSome
  rw [← isDirectory_iff, notDirectory] at isDirectory
  cases isDirectory

/-- Put an entry into a directory, unless a directory is in its place. -/
def place (tree : FileSystem Bytes) (entry : Entry Bytes) : Location → FileSystem Bytes
  | [] => tree
  | name :: parent =>
    if fits : tree.isDirectory parent = true ∧ tree.isDirectory (name :: parent) = false then
      { entries :=
          update tree.entries (name :: parent) (some entry)
        working := tree.working
        root := by
          rw [update_of_ne (cons_ne_nil name parent).symm]
          exact tree.root
        isWorking := by
          rw [update_of_ne]
          · exact tree.isWorking
          · rintro same
            have isDirectory := isDirectory_iff.mpr tree.isWorking
            rw [same, fits.2] at isDirectory
            cases isDirectory
        parents := fun child above isIn => by
          have notPlaced : above ≠ name :: parent := by
            rintro rfl
            rw [update_of_ne (cons_ne_self child _), entries_eq_none fits.2] at isIn
            exact isIn rfl
          rw [update_of_ne notPlaced]
          by_cases isNew : child :: above = name :: parent
          · cases isNew
            exact isDirectory_iff.mp fits.1
          · rw [update_of_ne isNew] at isIn
            exact tree.parents child above isIn }
    else tree

/-- Take an entry out of the tree, unless it is a directory. -/
def erase (tree : FileSystem Bytes) (location : Location) : FileSystem Bytes :=
  if isOther : tree.isDirectory location = false then
    { entries := update tree.entries location none
      working := tree.working
      root := by
        rw [update_of_ne]
        · exact tree.root
        · rintro rfl
          rw [isDirectory_iff.mpr tree.root] at isOther
          cases isOther
      isWorking := by
        rw [update_of_ne]
        · exact tree.isWorking
        · rintro rfl
          rw [isDirectory_iff.mpr tree.isWorking] at isOther
          cases isOther
      parents := fun child above isIn => by
        have notErased : child :: above ≠ location := by
          rintro rfl
          rw [update_self] at isIn
          exact isIn rfl
        rw [update_of_ne notErased] at isIn
        have isDirectory := tree.parents child above isIn
        rw [update_of_ne]
        · exact isDirectory
        · rintro rfl
          rw [isDirectory_iff.mpr isDirectory] at isOther
          cases isOther }
  else tree

/-! ## Walks -/

def linkStart (location : Location) (target : Path) : Location :=
  if target.absolute then []
  else location

/--
Walk on from a location, with `follow` for the next link.  A walk that creates
may end where nothing is yet.
-/
@[grind =] def walkWith (tree : FileSystem Bytes) (creates : Bool) (links : Nat)
    (follow : Location → List Component → Except Failure (Nat × Location)) :
    Location → List Component → Except Failure (Nat × Location)
  | location, [] => .ok (links, location)
  | location, component :: rest =>
    if tree.isDirectory location then
      match component with
      | .here => walkWith tree creates links follow location rest
      | .up => walkWith tree creates links follow location.tail rest
      | .name name =>
        match tree.entries (name :: location) with
        | none =>
          if creates ∧ rest = [] then .ok (links, name :: location)
          else .error .notFound
        | some (.link target) => follow (linkStart location target) (target.walked ++ rest)
        | some _ => walkWith tree creates links follow (name :: location) rest
    else .error .notDirectory

/-- Walk on from a location, following as many links at most. -/
@[grind =] def walk (tree : FileSystem Bytes) (creates : Bool) :
    Nat → Location → List Component → Except Failure (Nat × Location)
  | 0 => walkWith tree creates 0 fun _ _ => .error .tooManyLinks
  | links + 1 => walkWith tree creates (links + 1) (walk tree creates links)

section Walks

variable {tree : FileSystem Bytes} {creates : Bool} {links : Nat} {location : Location}
  {rest : List Component}

@[simp] theorem walk_nil : walk tree creates links location [] = .ok (links, location) := by
  cases links <;> rfl

theorem walk_cons_of_not_isDirectory
    (notDirectory : tree.isDirectory location = false) (component : Component) :
    walk tree creates links location (component :: rest) = .error .notDirectory := by
  cases links <;> simp [walk, walkWith, notDirectory]

theorem walk_here (isDirectory : tree.isDirectory location = true) :
    walk tree creates links location (.here :: rest) = walk tree creates links location rest := by
  cases links <;> simp [walk, walkWith, isDirectory]

theorem walk_up (isDirectory : tree.isDirectory location = true) :
    walk tree creates links location (.up :: rest) =
      walk tree creates links location.tail rest := by
  cases links <;> simp [walk, walkWith, isDirectory]

variable {name : String}

theorem walk_name_none (isDirectory : tree.isDirectory location = true)
    (isMissing : tree.entries (name :: location) = none) :
    walk tree creates links location (.name name :: rest) =
      if creates ∧ rest = [] then .ok (links, name :: location)
      else .error .notFound := by
  cases links <;> simp [walk, walkWith, isDirectory, isMissing]

@[grind =] def isSolid (tree : FileSystem Bytes) (location : Location) : Bool :=
  match tree.entries location with
  | some .directory | some (.file _) => true
  | _ => false

theorem walk_name_solid (isDirectory : tree.isDirectory location = true)
    (isSolid : tree.isSolid (name :: location) = true) :
    walk tree creates links location (.name name :: rest) =
      walk tree creates links (name :: location) rest := by
  unfold FileSystem.isSolid at isSolid
  split at isSolid
  · next isEntry =>
    cases links <;> simp [walk, walkWith, isDirectory, isEntry]
  · next isEntry =>
    cases links <;> simp [walk, walkWith, isDirectory, isEntry]
  · cases isSolid

variable {target : Path}

theorem walk_name_link_zero (isDirectory : tree.isDirectory location = true)
    (isLink : tree.entries (name :: location) = some (.link target)) :
    walk tree creates 0 location (.name name :: rest) = .error .tooManyLinks := by
  simp [walk, walkWith, isDirectory, isLink]

theorem walk_name_link_succ (isDirectory : tree.isDirectory location = true)
    (isLink : tree.entries (name :: location) = some (.link target)) :
    walk tree creates (links + 1) location (.name name :: rest) =
      walk tree creates links (linkStart location target) (target.walked ++ rest) := by
  simp [walk, walkWith, isDirectory, isLink]

theorem entry_cases (tree : FileSystem Bytes) (location : Location) :
    tree.entries location = none ∨ tree.isSolid location = true ∨
    ∃ target, tree.entries location = some (.link target) := by
  unfold FileSystem.isSolid
  rcases tree.entries location with _ | _ | bytes | target <;> simp

theorem walk_induction_at (tree : FileSystem Bytes) {motive : Location → List Component → Prop}
    (nil : ∀ location, motive location []) (notDirectory : ∀ location component rest,
      tree.isDirectory location = false → motive location (component :: rest)) (here :
      ∀ location rest,
      tree.isDirectory location = true → motive location rest → motive location (.here :: rest))
    (up : ∀ location rest, tree.isDirectory location = true → motive location.tail rest →
      motive location (.up :: rest)) (missing : ∀ location name rest,
      tree.isDirectory location = true → tree.entries (name :: location) = none →
      motive location (.name name :: rest)) (solid : ∀ location name rest,
      tree.isDirectory location = true → tree.isSolid (name :: location) = true →
      motive (name :: location) rest → motive location (.name name :: rest)) (link :
      ∀ location name rest target,
      tree.isDirectory location = true → tree.entries (name :: location) = some (.link target) →
      motive location (.name name :: rest))
    (location : Location) (components : List Component) : motive location components := by
  induction components generalizing location with
  | nil => exact nil location
  | cons component rest ih =>
    cases isDirectory : tree.isDirectory location with
    | false => exact notDirectory location component rest isDirectory
    | true =>
      cases component with
      | here => exact here location rest isDirectory (ih location)
      | up => exact up location rest isDirectory (ih location.tail)
      | name name =>
        rcases tree.entry_cases (name :: location) with isMissing | isSolid | ⟨target, isLink⟩
        · exact missing location name rest isDirectory isMissing
        · exact solid location name rest isDirectory isSolid (ih (name :: location))
        · exact link location name rest target isDirectory isLink

theorem walk_induction (tree : FileSystem Bytes) {motive : Nat → Location → List Component → Prop}
    (nil : ∀ links location, motive links location [])
    (notDirectory : ∀ links location component rest, tree.isDirectory location = false →
      motive links location (component :: rest))
    (here : ∀ links location rest, tree.isDirectory location = true → motive links location rest →
      motive links location (.here :: rest))
    (up : ∀ links location rest, tree.isDirectory location = true →
      motive links location.tail rest → motive links location (.up :: rest))
    (missing : ∀ links location name rest, tree.isDirectory location = true →
      tree.entries (name :: location) = none → motive links location (.name name :: rest))
    (solid : ∀ links location name rest, tree.isDirectory location = true →
      tree.isSolid (name :: location) = true → motive links (name :: location) rest →
      motive links location (.name name :: rest))
    (tooMany : ∀ location name rest target, tree.isDirectory location = true →
      tree.entries (name :: location) = some (.link target) →
      motive 0 location (.name name :: rest))
    (link : ∀ links location name rest target, tree.isDirectory location = true →
      tree.entries (name :: location) = some (.link target) →
      motive links (linkStart location target) (target.walked ++ rest) →
      motive (links + 1) location (.name name :: rest)) (links : Nat) (location : Location)
    (components : List Component) :
    motive links location components := by
  induction links generalizing location components with
  | zero =>
    exact walk_induction_at tree (nil 0) (notDirectory 0) (here 0) (up 0)
      (missing 0) (solid 0) tooMany location components
  | succ links fewer =>
    refine walk_induction_at tree (nil _) (notDirectory _) (here _) (up _)
      (missing _) (solid _) ?_ location components
    intro location name rest target isDirectory isLink
    exact link links location name rest target isDirectory isLink (fewer _ _)

/-- A walk goes on from where the walk along its first part ends. -/
theorem walk_append {later : List Component} (isLater : later ≠ [] ∨ creates = false)
    (links : Nat) (location : Location) (earlier : List Component) :
    walk tree creates links location (earlier ++ later) =
      (walk tree false links location earlier).bind fun reached =>
        walk tree creates reached.1 reached.2 later := by
  induction links, location, earlier using walk_induction tree with
  | nil links location =>
    rw [walk_nil]
    rfl
  | notDirectory links location component rest notDirectory =>
    rw [cons_append, walk_cons_of_not_isDirectory notDirectory,
      walk_cons_of_not_isDirectory notDirectory]
    rfl
  | here links location rest isDirectory ih =>
    rw [cons_append, walk_here isDirectory, walk_here isDirectory]
    exact ih
  | up links location rest isDirectory ih =>
    rw [cons_append, walk_up isDirectory, walk_up isDirectory]
    exact ih
  | missing links location name rest isDirectory isMissing =>
    have notLast : ¬ (creates = true ∧ rest ++ later = []) := by
      rintro ⟨isCreating, isLast⟩
      rcases isLater with isLater | isLater
      · exact isLater (append_eq_nil_iff.mp isLast).2
      · rw [isCreating] at isLater
        cases isLater
    rw [cons_append, walk_name_none isDirectory isMissing,
      walk_name_none isDirectory isMissing, if_neg notLast]
    simp [Except.bind]
  | solid links location name rest isDirectory isSolid ih =>
    rw [cons_append, walk_name_solid isDirectory isSolid, walk_name_solid isDirectory isSolid]
    exact ih
  | tooMany location name rest target isDirectory isLink =>
    rw [cons_append, walk_name_link_zero isDirectory isLink,
      walk_name_link_zero isDirectory isLink]
    rfl
  | link links location name rest target isDirectory isLink
      ih =>
      rw [cons_append, walk_name_link_succ isDirectory isLink,
        walk_name_link_succ isDirectory isLink, ← append_assoc]
      exact ih

theorem isSolid_of_isDirectory (isDirectory : tree.isDirectory location = true) :
    tree.isSolid location = true := by
  unfold isSolid
  rw [isDirectory_iff.mp isDirectory]

theorem isDirectory_of_isSolid (isSolid : tree.isSolid (name :: location) = true) :
    tree.isDirectory location = true := by
  refine isDirectory_iff.mpr (tree.parents name location fun isMissing => ?_)
  unfold FileSystem.isSolid at isSolid
  rw [isMissing] at isSolid
  cases isSolid

theorem isDirectory_tail (isDirectory : tree.isDirectory location = true) :
    tree.isDirectory location.tail = true := by
  cases location with
  | nil => exact isDirectory
  | cons name parent => exact isDirectory_of_isSolid (isSolid_of_isDirectory isDirectory)

theorem isDirectory_linkStart (isDirectory : tree.isDirectory location = true) (target : Path) :
    tree.isDirectory (linkStart location target) = true := by
  unfold linkStart
  split
  · exact isDirectory_iff.mpr tree.root
  · exact isDirectory

variable {components : List Component}

theorem isSolid_of_walk {reached : Nat × Location} (isSolid : tree.isSolid location = true)
    (isReached : walk tree false links location components = .ok reached) :
    tree.isSolid reached.2 = true := by
  induction links, location, components using walk_induction tree with
  | nil links location =>
    rw [walk_nil] at isReached
    cases isReached
    exact isSolid
  | notDirectory links location component rest notDirectory =>
    rw [walk_cons_of_not_isDirectory notDirectory] at isReached
    cases isReached
  | here links location rest isDirectory ih =>
    rw [walk_here isDirectory] at isReached
    exact ih isSolid isReached
  | up links location rest isDirectory ih =>
    rw [walk_up isDirectory] at isReached
    exact ih (isSolid_of_isDirectory (isDirectory_tail isDirectory)) isReached
  | missing links location name rest isDirectory isMissing =>
    rw [walk_name_none isDirectory isMissing] at isReached
    simp at isReached
  | solid links location name rest isDirectory isNext ih =>
    rw [walk_name_solid isDirectory isNext] at isReached
    exact ih isNext isReached
  | tooMany location name rest target isDirectory isLink =>
    rw [walk_name_link_zero isDirectory isLink] at isReached
    cases isReached
  | link links location name rest target isDirectory isLink
      ih =>
      rw [walk_name_link_succ isDirectory isLink] at isReached
      exact ih (isSolid_of_isDirectory (isDirectory_linkStart isDirectory target)) isReached

theorem walk_creating {reached : Nat × Location}
    (isReached : walk tree true links location components = .ok reached) :
    walk tree false links location components = .ok reached ∨
    walk tree false links location components = .error .notFound ∧ tree.entries reached.2 = none ∧
      ∃ name parent, reached.2 = name :: parent ∧ tree.isDirectory parent = true := by
  induction links, location, components using walk_induction tree with
  | nil links location =>
    rw [walk_nil] at isReached ⊢
    exact .inl isReached
  | notDirectory links location component rest notDirectory =>
    rw [walk_cons_of_not_isDirectory notDirectory] at isReached
    cases isReached
  | here links location rest isDirectory ih =>
    rw [walk_here isDirectory] at isReached ⊢
    exact ih isReached
  | up links location rest isDirectory ih =>
    rw [walk_up isDirectory] at isReached ⊢
    exact ih isReached
  | missing links location name rest isDirectory isMissing =>
    rw [walk_name_none isDirectory isMissing] at isReached ⊢
    split at isReached
    · cases isReached
      exact .inr ⟨by simp, isMissing, name, location, rfl, isDirectory⟩
    · cases isReached
  | solid links location name rest isDirectory isNext ih =>
    rw [walk_name_solid isDirectory isNext] at isReached ⊢
    exact ih isReached
  | tooMany location name rest target isDirectory isLink =>
    rw [walk_name_link_zero isDirectory isLink] at isReached
    cases isReached
  | link links location name rest target isDirectory isLink
      ih =>
      rw [walk_name_link_succ isDirectory isLink] at isReached ⊢
      exact ih isReached

theorem walk_ofLocation (isSolid : tree.isSolid location = true) (rest : List Component) :
    walk tree creates links [] (location.reverse.map Component.name ++ rest) =
      walk tree creates links location rest := by
  induction location generalizing rest with
  | nil => rfl
  | cons name parent ih =>
    have isDirectory := isDirectory_of_isSolid isSolid
    rw [reverse_cons, map_append, append_assoc,
      ih (isSolid_of_isDirectory isDirectory)]
    exact walk_name_solid isDirectory isSolid

end Walks

/-! ## Larger trees -/

def Extends (tree larger : FileSystem Bytes) : Prop :=
  ∀ location entry, tree.entries location = some entry → larger.entries location = some entry

section LargerTrees

variable {tree larger : FileSystem Bytes}

theorem Extends.refl (tree : FileSystem Bytes) : Extends tree tree := fun _ _ isEntry => isEntry

theorem Extends.trans {largest : FileSystem Bytes} (first : Extends tree larger)
    (second : Extends larger largest) : Extends tree largest :=
  fun location entry isEntry => second location entry (first location entry isEntry)

variable {location : Location}

theorem Extends.isDirectory (isExtended : Extends tree larger)
    (isDirectory : tree.isDirectory location = true) : larger.isDirectory location = true :=
  isDirectory_iff.mpr (isExtended location _ (isDirectory_iff.mp isDirectory))

theorem Extends.isSolid (isExtended : Extends tree larger)
    (isSolid : tree.isSolid location = true) : larger.isSolid location = true := by
  unfold FileSystem.isSolid at isSolid ⊢
  split at isSolid
  · next isEntry => rw [isExtended location _ isEntry]
  · next isEntry => rw [isExtended location _ isEntry]
  · cases isSolid

theorem Extends.walk (isExtended : Extends tree larger) {links : Nat}
    {components : List Component} {reached : Nat × Location}
    (isReached : FileSystem.walk tree false links location components = .ok reached) :
    FileSystem.walk larger false links location components = .ok reached := by
  induction links, location, components using walk_induction tree with
  | nil links location =>
    rw [walk_nil] at isReached ⊢
    exact isReached
  | notDirectory links location component rest notDirectory =>
    rw [walk_cons_of_not_isDirectory notDirectory] at isReached
    cases isReached
  | here links location rest isDirectory ih =>
    rw [walk_here isDirectory] at isReached
    rw [walk_here (isExtended.isDirectory isDirectory)]
    exact ih isReached
  | up links location rest isDirectory ih =>
    rw [walk_up isDirectory] at isReached
    rw [walk_up (isExtended.isDirectory isDirectory)]
    exact ih isReached
  | missing links location name rest isDirectory isMissing =>
    rw [walk_name_none isDirectory isMissing] at isReached
    simp at isReached
  | solid links location name rest isDirectory isSolid ih =>
    rw [walk_name_solid isDirectory isSolid] at isReached
    rw [walk_name_solid (isExtended.isDirectory isDirectory) (isExtended.isSolid isSolid)]
    exact ih isReached
  | tooMany location name rest target isDirectory isLink =>
    rw [walk_name_link_zero isDirectory isLink] at isReached
    cases isReached
  | link links location name rest target isDirectory isLink
      ih =>
      rw [walk_name_link_succ isDirectory isLink] at isReached
      rw [walk_name_link_succ (isExtended.isDirectory isDirectory) (isExtended _ _ isLink)]
      exact ih isReached

end LargerTrees

/-! ## Calls -/

def maxLinks : Nat := 40

def start (tree : FileSystem Bytes) (path : Path) : Location :=
  if path.absolute then []
  else tree.working

def resolve (tree : FileSystem Bytes) (creates : Bool) (path : Path) : Except Failure Location :=
  if path.isInvalid then .error .invalidInput
  else if path.isEmpty then .error .notFound
  else (walk tree creates maxLinks (tree.start path) path.walked).map Prod.snd

/-- Where the entry of the last component is, which is not followed. -/
def entryAt (tree : FileSystem Bytes) (path : Path) : Except Failure Location :=
  match path.ending, path.components.getLast? with
  | .dot, _ => tree.resolve false path
  | _, some (.name name) =>
    if path.isInvalid then .error .invalidInput
    else
      match walk tree false maxLinks (tree.start path) path.components.dropLast with
      | .ok (_, parent) =>
        if tree.isDirectory parent then .ok (name :: parent)
        else .error .notDirectory
      | .error failure => .error failure
  | _, _ => tree.resolve false path

/-- The path without links that leads to the same place. -/
def canonicalize (tree : FileSystem Bytes) (path : Path) : Except Failure Path :=
  (tree.resolve false path).map Path.ofLocation

def pathExists (tree : FileSystem Bytes) (path : Path) : Bool := (tree.resolve false path).isOk

def leadsToDirectory (tree : FileSystem Bytes) (path : Path) : Bool :=
  match tree.resolve false path with
  | .ok location => tree.isDirectory location
  | .error _ => false

@[grind =] def makeDirectory (tree : FileSystem Bytes)
    (path : Path) : Except Failure Unit × FileSystem Bytes :=
  match tree.entryAt path with
  | .ok location =>
    if (tree.entries location).isSome then (.error .alreadyExists, tree)
    else (.ok (), tree.place .directory location)
  | .error failure => (.error failure, tree)

/-- A directory that is there already is as good as a new one. -/
def makeOrFind (tree : FileSystem Bytes) (path : Path) : Except Failure Unit × FileSystem Bytes :=
  match tree.makeDirectory path with
  | (.ok (), after) => (.ok (), after)
  | (.error failure, after) =>
    if tree.leadsToDirectory path then (.ok (), after)
    else (.error failure, after)

/-- Make a directory, after those that it is in; the path is reversed. -/
def createDirAllFrom (tree : FileSystem Bytes) (absolute : Bool) :
    List Component → Ending → Except Failure Unit × FileSystem Bytes
  | [], _ => (.ok (), tree)
  | last :: before, ending =>
    let path : Path :=
      { absolute := absolute, components := (last :: before).reverse, ending := ending }
    match tree.makeDirectory path with
    | (.error .notFound, _) =>
      match createDirAllFrom tree absolute before .plain with
      | (.ok (), after) => after.makeOrFind path
      | (.error failure, after) => (.error failure, after)
    | _ => tree.makeOrFind path

def createDirAll (tree : FileSystem Bytes) (path : Path) : Except Failure Unit × FileSystem Bytes :=
  tree.createDirAllFrom path.absolute path.components.reverse path.ending

def readFile (tree : FileSystem Bytes) (path : Path) : Except Failure (Location × Bytes) :=
  match tree.resolve false path with
  | .ok location =>
    match tree.entries location with
    | some (.file bytes) => .ok (location, bytes)
    | _ => .error .isDirectory
  | .error failure => .error failure

/-- Replace a file or make a new one; the location is the one written. -/
def writeFile (tree : FileSystem Bytes) (path : Path)
    (bytes : Bytes) : Except Failure Location × FileSystem Bytes :=
  match tree.resolve true path with
  | .ok location =>
    if tree.isDirectory location then (.error .isDirectory, tree)
    else (.ok location, tree.place (.file bytes) location)
  | .error failure => (.error failure, tree)

def removeFile (tree : FileSystem Bytes)
    (path : Path) : Except Failure Location × FileSystem Bytes :=
  match tree.entryAt path with
  | .ok location =>
    match tree.entries location with
    | none => (.error .notFound, tree)
    | some .directory => (.error .isDirectory, tree)
    | some _ =>
      if path.ending = .plain then (.ok location, tree.erase location)
      else (.error .notDirectory, tree)
  | .error failure => (.error failure, tree)

section Calls

variable {tree : FileSystem Bytes} {path : Path} {location : Location}

theorem walk_of_resolve {creates : Bool} (isResolved : tree.resolve creates path = .ok location) :
    path.isInvalid = false ∧ path.isEmpty = false ∧
    ∃ links, walk tree creates maxLinks (tree.start path) path.walked = .ok (links, location) := by
  unfold resolve at isResolved
  split at isResolved
  · cases isResolved
  · next isValid =>
    split at isResolved
    · cases isResolved
    · next hasText =>
      refine ⟨Bool.eq_false_iff.mpr isValid, Bool.eq_false_iff.mpr hasText, ?_⟩
      cases isReached : walk tree creates maxLinks (tree.start path) path.walked with
      | error failure =>
        rw [isReached] at isResolved
        cases isResolved
      | ok reached =>
        rw [isReached] at isResolved
        cases isResolved
        exact ⟨reached.1, rfl⟩

variable {reached : Nat × Location}

theorem resolve_of_walk {creates : Bool} (isValid : path.isInvalid = false)
    (hasText : path.isEmpty = false)
    (isReached : walk tree creates maxLinks (tree.start path) path.walked = .ok reached) :
    tree.resolve creates path = .ok reached.2 := by
  unfold resolve
  rw [isValid, hasText, isReached]
  rfl

theorem isSolid_start (tree : FileSystem Bytes) (path : Path) :
    tree.isSolid (tree.start path) = true := by
  unfold start
  split
  · exact isSolid_of_isDirectory (isDirectory_iff.mpr tree.root)
  · exact isSolid_of_isDirectory (isDirectory_iff.mpr tree.isWorking)

theorem isSolid_of_resolve
    (isResolved : tree.resolve false path = .ok location) : tree.isSolid location = true := by
  obtain ⟨-, -, links, isReached⟩ := walk_of_resolve isResolved
  exact isSolid_of_walk (tree.isSolid_start path) isReached

variable {name : String} {parent : Location} {entry : Entry Bytes}

theorem place_entries (isDirectory : tree.isDirectory parent = true)
    (notDirectory : tree.isDirectory (name :: parent) = false) :
    (tree.place entry (name :: parent)).entries =
      update tree.entries (name :: parent) (some entry) := by
  dsimp only [place]
  rw [dif_pos ⟨isDirectory, notDirectory⟩]

theorem isDirectory_eq_false_of_none (isMissing : tree.entries location = none) :
    tree.isDirectory location = false := by
  unfold isDirectory
  rw [isMissing]

theorem extends_place (isDirectory : tree.isDirectory parent = true)
    (isMissing : tree.entries (name :: parent) = none) :
    Extends tree (tree.place entry (name :: parent)) := by
  intro location other isOther
  rw [place_entries isDirectory (isDirectory_eq_false_of_none isMissing), update_of_ne]
  · exact isOther
  · rintro rfl
    rw [isMissing] at isOther
    cases isOther

/-! ## Creating directories -/

theorem isEmpty_fromRoot (components : List Component) : (fromRoot components).isEmpty = false :=
  rfl

/-- The deepest directory or file above; the path is reversed. -/
def deepest (tree : FileSystem Bytes) : List Component → Location
  | [] => []
  | last :: before =>
    match tree.resolve false (fromRoot (last :: before).reverse) with
    | .ok location => location
    | .error _ => tree.deepest before

variable {reversed : List Component}

theorem deepest_of_resolve
    (isResolved : tree.resolve false (fromRoot reversed.reverse) = .ok location) :
    tree.deepest reversed = location := by
  cases reversed with
  | nil =>
    have isReached : walk tree false maxLinks (tree.start (fromRoot [])) (fromRoot []).walked =
        .ok (maxLinks, []) :=
      walk_nil
    exact Except.ok.inj ((resolve_of_walk rfl rfl isReached).symm.trans isResolved)
  | cons last before =>
    unfold deepest
    rw [isResolved]

theorem entryAt_name (before : List Component) (name : String) :
    tree.entryAt (fromRoot (before ++ [.name name])) =
      if (fromRoot (before ++ [.name name])).isInvalid then .error .invalidInput
      else
        match walk tree false maxLinks [] before with
        | .ok (_, parent) =>
          if tree.isDirectory parent then .ok (name :: parent)
          else .error .notDirectory
        | .error failure => .error failure := by
  simp only [entryAt, fromRoot, getLast?_concat, dropLast_concat]
  rfl

variable {before : List Component}

theorem entryAt_ok (isEntry : tree.entryAt (fromRoot (before ++ [.name name])) = .ok location) :
    (fromRoot (before ++ [.name name])).isInvalid = false ∧
      ∃ links parent, walk tree false maxLinks [] before = .ok (links, parent) ∧
        tree.isDirectory parent = true ∧ location = name :: parent := by
  rw [entryAt_name] at isEntry
  split at isEntry
  · cases isEntry
  · next isValid =>
    split at isEntry
    · next links parent isReached =>
      split at isEntry
      · next isDirectory =>
        cases isEntry
        exact ⟨Bool.eq_false_iff.mpr isValid, links, parent, isReached, isDirectory, rfl⟩
      · cases isEntry
    · cases isEntry

variable {after : FileSystem Bytes}

theorem makeDirectory_ok (isMade : tree.makeDirectory path = (.ok (), after)) :
    ∃ location, tree.entryAt path = .ok location ∧ tree.entries location = none ∧
      after = tree.place .directory location := by
  unfold makeDirectory at isMade
  split at isMade
  · next location isEntry =>
    split at isMade
    · cases isMade
    · next isMissing =>
      cases isMade
      exact ⟨location, isEntry, by simpa using isMissing, rfl⟩
  · cases isMade

theorem makeDirectory_error {failure : Failure}
    (isRefused : tree.makeDirectory path = (.error failure, after)) : after = tree := by
  unfold makeDirectory at isRefused
  split at isRefused
  · split at isRefused <;> cases isRefused
    rfl
  · cases isRefused
    rfl

theorem walk_last {creates : Bool} {links : Nat} {component : Component}
    (isReached : walk tree creates links location (before ++ [component]) = .ok reached) :
    ∃ left parent, walk tree false links location before = .ok (left, parent) ∧
      tree.isDirectory parent = true ∧ walk tree creates left parent [component] = .ok reached := by
  rw [walk_append (.inl (cons_ne_nil _ _))] at isReached
  cases isBefore : walk tree false links location before with
  | error failure =>
    rw [isBefore] at isReached
    cases isReached
  | ok parent =>
    rw [isBefore] at isReached
    refine ⟨parent.1, parent.2, rfl, ?_, isReached⟩
    by_contra notDirectory
    rw [Except.bind, walk_cons_of_not_isDirectory (Bool.eq_false_iff.mpr notDirectory)] at isReached
    cases isReached

theorem isSome_of_walk_name {links : Nat} (isDirectory : tree.isDirectory parent = true)
    (isReached : walk tree false links parent [.name name] = .ok reached) :
    (tree.entries (name :: parent)).isSome = true := by
  by_contra isMissing
  rw [Option.not_isSome_iff_eq_none] at isMissing
  rw [walk_name_none isDirectory isMissing] at isReached
  simp at isReached

theorem makeDirectory_of_resolve
    (isResolved : tree.resolve false (fromRoot (before ++ [.name name])) = .ok location) :
    tree.makeDirectory (fromRoot (before ++ [.name name])) = (.error .alreadyExists, tree) := by
  obtain ⟨isValid, -, links, isReached⟩ := walk_of_resolve isResolved
  obtain ⟨left, parent, isBefore, isDirectory, isLast⟩ := walk_last isReached
  unfold makeDirectory
  rw [entryAt_name, isValid]
  change walk tree false maxLinks [] before = .ok (left, parent) at isBefore
  rw [isBefore]
  simp [isDirectory, isSome_of_walk_name isDirectory isLast]

theorem Extends.resolve {larger : FileSystem Bytes} (isExtended : Extends tree larger)
    {components : List Component}
    (isResolved : tree.resolve false (fromRoot components) = .ok location) :
    larger.resolve false (fromRoot components) = .ok location := by
  obtain ⟨isValid, hasText, links, isReached⟩ := walk_of_resolve isResolved
  exact resolve_of_walk isValid hasText (isExtended.walk isReached)

theorem deepest_of_makeDirectory
    {larger after : FileSystem Bytes} (isExtended : Extends tree larger)
    (isMade : larger.makeDirectory (fromRoot (.name name :: before).reverse) = (.ok (), after)) :
    tree.deepest (.name name :: before) = tree.deepest before := by
  cases isResolved : tree.resolve false (fromRoot (Component.name name :: before).reverse) with
  | error failure => rw [deepest, isResolved]
  | ok location =>
    have isThere := isExtended.resolve isResolved
    rw [reverse_cons] at isThere isMade
    rw [makeDirectory_of_resolve isThere] at isMade
    cases isMade

theorem makeOrFind_ok (isMade : tree.makeOrFind path = (.ok (), after)) :
    tree.makeDirectory path = (.ok (), after) ∨
    after = tree ∧ tree.leadsToDirectory path = true := by
  unfold makeOrFind at isMade
  split at isMade
  · next made isNew =>
    cases isMade
    exact .inl isNew
  · next failure same isRefused =>
    split at isMade
    · next leads =>
      cases isMade
      exact .inr ⟨makeDirectory_error isRefused, leads⟩
    · cases isMade

theorem resolve_of_leadsToDirectory (leads : tree.leadsToDirectory path = true) :
    ∃ location, tree.resolve false path = .ok location ∧ tree.isDirectory location = true := by
  unfold leadsToDirectory at leads
  split at leads
  · next location isResolved => exact ⟨location, isResolved, leads⟩
  · cases leads

theorem isInvalid_of_append {before after : List Component}
    (isValid : (fromRoot (before ++ after)).isInvalid = false) :
    (fromRoot before).isInvalid = false := by
  unfold Path.isInvalid fromRoot at isValid ⊢
  rw [any_append, Bool.or_eq_false_iff] at isValid
  exact isValid.1

theorem walk_place {links : Nat}
    (isReached : walk tree false maxLinks [] before = .ok (links, parent))
    (isDirectory : tree.isDirectory parent = true)
    (isMissing : tree.entries (name :: parent) = none) :
    let after := tree.place .directory (name :: parent)
    walk after false maxLinks [] (before ++ [.name name]) = .ok (links, name :: parent) ∧
      after.isDirectory (name :: parent) = true ∧
      ∀ child, after.entries (child :: name :: parent) = none := by
  intro after
  have notDirectory := isDirectory_eq_false_of_none isMissing
  have isExtended : Extends tree after := extends_place isDirectory isMissing
  have areEntries : after.entries = _ := place_entries isDirectory notDirectory
  have isPlaced : after.isDirectory (name :: parent) = true := by
    rw [isDirectory_iff, areEntries, update_self]
  refine ⟨?_, isPlaced, fun child => ?_⟩
  · rw [walk_append (.inl (cons_ne_nil _ _)), isExtended.walk isReached]
    change walk after false links parent [.name name] = _
    rw [walk_name_solid (isExtended.isDirectory isDirectory)
      (isSolid_of_isDirectory isPlaced), walk_nil]
  · rw [areEntries, update_of_ne (cons_ne_self child _)]
    exact entries_eq_none notDirectory child

theorem createDirAllFrom_cons {last : Component}
    (isCreated : tree.createDirAllFrom true (last :: before) .plain = (.ok (), after)) :
    tree.makeOrFind (fromRoot (last :: before).reverse) = (.ok (), after) ∨
      ∃ between, tree.createDirAllFrom true before .plain = (.ok (), between) ∧
        between.makeOrFind (fromRoot (last :: before).reverse) = (.ok (), after) := by
  rw [createDirAllFrom] at isCreated
  split at isCreated
  · split at isCreated
    · next between isBefore => exact .inr ⟨between, isBefore, isCreated⟩
    · cases isCreated
  · exact .inl isCreated

theorem makeDirectory_spec
    (isMade : tree.makeDirectory (fromRoot (before ++ [.name name])) = (.ok (), after)) :
    (fromRoot before).isInvalid = false ∧ Extends tree after ∧
    ∃ links parent, walk tree false maxLinks [] before = .ok (links, parent) ∧
      walk after false maxLinks [] (before ++ [.name name]) = .ok (links, name :: parent) ∧
      after.isDirectory (name :: parent) = true ∧
      ∀ child, after.entries (child :: name :: parent) = none := by
  obtain ⟨location, isEntry, isMissing, rfl⟩ := makeDirectory_ok isMade
  obtain ⟨isValid, links, parent, isReached, isDirectory, rfl⟩ := entryAt_ok isEntry
  exact ⟨isInvalid_of_append isValid, extends_place isDirectory isMissing,
    links, parent, isReached, walk_place isReached isDirectory isMissing⟩

/-- What a call left of a path that was to be a directory. -/
def Created (tree after : FileSystem Bytes) (reversed : List Component) : Prop :=
  Extends tree after ∧ ∃ links parent,
      walk after false maxLinks [] reversed.reverse = .ok (links, parent) ∧
        after.isDirectory parent = true ∧ tree.deepest reversed <:+ parent ∧
        (after = tree ∨ ∀ child, after.entries (child :: parent) = none)

theorem created_of_leads (leads : tree.leadsToDirectory (fromRoot reversed.reverse) = true) :
    Created tree tree reversed := by
  obtain ⟨location, isResolved, isDirectory⟩ := resolve_of_leadsToDirectory leads
  obtain ⟨-, -, links, isReached⟩ := walk_of_resolve isResolved
  exact ⟨.refl tree, links, location, isReached, isDirectory,
    deepest_of_resolve isResolved ▸ suffix_rfl, .inl rfl⟩

variable {names : List String}

/--
When a path has been created, it leads to a directory below the deepest entry
that was there before, and what is new there is empty.
-/
theorem createDirAllFrom_spec {tree after : FileSystem Bytes}
    (isCreated : tree.createDirAllFrom true (names.map .name) .plain = (.ok (), after)) :
    Created tree after (names.map .name) := by
  induction names generalizing after with
  | nil =>
    cases isCreated
    exact ⟨.refl tree, maxLinks, [], walk_nil,
      isDirectory_iff.mpr tree.root, suffix_rfl, .inl rfl⟩
  | cons name before ih =>
    have shape : (Component.name name :: before.map .name).reverse =
        (before.map .name).reverse ++ [.name name] :=
      reverse_cons
    rw [map_cons] at isCreated ⊢
    rcases createDirAllFrom_cons isCreated with isCreated | ⟨between, isBefore, isCreated⟩
    · rcases makeOrFind_ok isCreated with isMade | ⟨rfl, leads⟩
      · have isDeepest := deepest_of_makeDirectory (.refl tree) isMade
        rw [shape] at isMade
        obtain ⟨isValid, isExtended, links, parent, isReached, made⟩ := makeDirectory_spec isMade
        have isParent := deepest_of_resolve (resolve_of_walk isValid (isEmpty_fromRoot _) isReached)
        refine ⟨isExtended, links, name :: parent, shape ▸ made.1, made.2.1, ?_, .inr made.2.2⟩
        rw [isDeepest, isParent]
        exact suffix_cons name parent
      · exact created_of_leads leads
    · obtain ⟨isExtended, links, parent, isReached, isDirectory,
        isBelow, isFresh⟩ := ih isBefore
      rcases makeOrFind_ok isCreated with isMade | ⟨rfl, leads⟩
      · have isDeepest := deepest_of_makeDirectory isExtended isMade
        rw [shape] at isMade
        obtain ⟨-, extendsAgain, left, location, isReachedAgain, made⟩ := makeDirectory_spec isMade
        cases isReached.symm.trans isReachedAgain
        refine ⟨isExtended.trans extendsAgain, links, name :: parent,
          shape ▸ made.1, made.2.1, ?_, .inr made.2.2⟩
        rw [isDeepest]
        exact isBelow.trans (suffix_cons name parent)
      · rcases isFresh with rfl | isFresh
        · exact created_of_leads leads
        · obtain ⟨location, isResolved, -⟩ := resolve_of_leadsToDirectory leads
          obtain ⟨-, -, left, isReachedAgain⟩ := walk_of_resolve isResolved
          rw [shape] at isReachedAgain
          obtain ⟨_, _, isReachedBefore, -, isLast⟩ := walk_last isReachedAgain
          cases isReached.symm.trans isReachedBefore
          have isThere := isSome_of_walk_name isDirectory isLast
          rw [isFresh name] at isThere
          cases isThere

theorem makeOrFind_of_leads
    (leads : tree.leadsToDirectory (fromRoot (before ++ [.name name])) = true) :
    tree.makeOrFind (fromRoot (before ++ [.name name])) = (.ok (), tree) := by
  obtain ⟨location, isResolved, -⟩ := resolve_of_leadsToDirectory leads
  unfold makeOrFind
  rw [makeDirectory_of_resolve isResolved]
  simp [leads]

theorem createDirAllFrom_of_leads
    (leads : tree.leadsToDirectory (fromRoot (names.map .name).reverse) = true) :
    tree.createDirAllFrom true (names.map .name) .plain = (.ok (), tree) := by
  cases names with
  | nil => rfl
  | cons name before =>
    obtain ⟨location, isResolved, -⟩ := resolve_of_leadsToDirectory leads
    rw [map_cons, reverse_cons] at isResolved leads
    have isRefused := makeDirectory_of_resolve isResolved
    have isFound := makeOrFind_of_leads leads
    rw [← reverse_cons] at isRefused isFound
    rw [map_cons, createDirAllFrom]
    split
    · next isMissing =>
      cases isMissing.symm.trans isRefused
    · exact isFound

end Calls

end FileSystem

end FileTree
