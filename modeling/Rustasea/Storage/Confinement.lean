import Rustasea.Storage.LocalDisk

namespace Rustasea.Storage

open FileTree FileTree.FileSystem List

/-!
# Keys stay below the root

Whatever links a tree has, an operation on a key stays below the root of its
disk, unless it writes through a link that leads nowhere yet.
-/

variable {Bytes : Type}

namespace LocalDisk

/-! ## What stays inside -/

/-- The tree that an operation works on, once the root has been created. -/
def opened (disk : LocalDisk) (tree : FileSystem Bytes) : FileSystem Bytes :=
  (tree.createDirAll (disk.root tree)).2

def rootLocation? (disk : LocalDisk) (tree : FileSystem Bytes) : Option Location :=
  match tree.createDirAll (disk.root tree) with
  | (.error _, _) => none
  | (.ok (), after) => (after.resolve false disk.configured).toOption

/-- What is read, written, found or removed under a key is below the root. -/
structure StaysInside (disk : LocalDisk) (tree : FileSystem Bytes) (key : String) (bytes : Bytes)
    (root : Location) : Prop where
  get : ∀ read, (disk.get key tree).1 = .ok read → root <:+ read.1
  put : ∀ location, (disk.put key bytes tree).1 = .ok location → root <:+ location
  exists? : ∀ location, (disk.exists? key tree).1 = .ok (some location) → root <:+ location
  delete : ∀ location, (disk.delete key tree).1 = .ok (some location) → root <:+ location

def candidate (root : Location) (key : Path) : Path := (Path.ofLocation root).join key

/--
A key is that of a link below the root, which leads nowhere, but through which
a new file would be outside.
-/
structure DanglesOutside (tree : FileSystem Bytes) (root : Location) (key : Path) : Prop where
  relative : key.absolute = false
  noParents : hasParentEscape key = false
  missing : ∀ location, tree.resolve false (candidate root key) ≠ .ok location
  isLink : ∃ name parent target, tree.entryAt (candidate root key) = .ok (name :: parent) ∧
        root <:+ parent ∧ tree.entries (name :: parent) = some (.link target)
  outside : ∃ location, tree.resolve true (candidate root key) = .ok location ∧ ¬ root <:+ location

/-! ## Paths of locations -/

theorem ofLocation_eq (location : Location) :
    Path.ofLocation location = fromRoot (location.reverse.map .name) :=
  rfl

theorem startsWith_ofLocation {location root : Location} :
    (Path.ofLocation location).startsWith (Path.ofLocation root) = true ↔ root <:+ location := by
  have injective : Function.Injective Component.name := fun _ _ same => Component.name.inj same
  simp only [Path.startsWith, Path.ofLocation, Bool.true_eq_false,
    true_and, false_and, or_false, decide_eq_true_eq]
  rw [prefix_map_iff_of_injective injective, reverse_prefix]

variable {tree : FileSystem Bytes}

theorem resolve_ofLocation {creates : Bool} {location reached : Location}
    (isSolid : tree.isSolid location = true)
    (isResolved : tree.resolve creates (Path.ofLocation location) = .ok reached) :
    reached = location := by
  obtain ⟨-, -, links, isReached⟩ := walk_of_resolve isResolved
  have atLocation : walk tree creates maxLinks [] (location.reverse.map Component.name ++ []) =
      walk tree creates maxLinks location [] :=
    walk_ofLocation isSolid []
  rw [append_nil] at atLocation
  cases isReached.symm.trans atLocation
  rfl

theorem canonicalize_ok {path canonical : Path}
    (isCanonical : tree.canonicalize path = .ok canonical) :
    ∃ location, tree.resolve false path = .ok location ∧ canonical = Path.ofLocation location := by
  unfold canonicalize at isCanonical
  cases isResolved : tree.resolve false path with
  | error failure =>
    rw [isResolved] at isCanonical
    cases isCanonical
  | ok location =>
    rw [isResolved] at isCanonical
    cases isCanonical
    exact ⟨location, rfl, rfl⟩

theorem canonicalize_root {root : Location} (isSolid : tree.isSolid root = true) :
    (tree.canonicalize (Path.ofLocation root)).toOption.getD (Path.ofLocation root) =
      Path.ofLocation root := by
  cases isCanonical : tree.canonicalize (Path.ofLocation root) with
  | error failure => rfl
  | ok canonical =>
    obtain ⟨location, isResolved, rfl⟩ := canonicalize_ok isCanonical
    rw [resolve_ofLocation isSolid isResolved]
    rfl

/-! ## Confined paths -/

theorem deepestExistingFrom_spec (tree : FileSystem Bytes) (reversed : List Component) :
    ∃ anchor, deepestExistingFrom tree true reversed = some anchor ∧
      tree.resolve false anchor = .ok (tree.deepest reversed) := by
  induction reversed with
  | nil =>
    have isReached : walk tree false maxLinks (tree.start (fromRoot [])) (fromRoot []).walked =
        .ok (maxLinks, []) :=
      walk_nil
    have isResolved : tree.resolve false (fromRoot []) = .ok [] := resolve_of_walk rfl rfl isReached
    refine ⟨fromRoot [], ?_, isResolved⟩
    have isThere : tree.pathExists (fromRoot []) = true := by
      rfl
    unfold deepestExistingFrom
    exact if_pos isThere
  | cons last before ih =>
    cases isResolved : tree.resolve false (fromRoot (last :: before).reverse) with
    | ok location =>
      have isThere : tree.pathExists (fromRoot (last :: before).reverse) = true := by
        rw [pathExists, isResolved]
        rfl
      refine ⟨fromRoot (last :: before).reverse, if_pos isThere, ?_⟩
      rw [isResolved, deepest_of_resolve isResolved]
    | error failure =>
      have isMissing : ¬ tree.pathExists (fromRoot (last :: before).reverse) = true := by
        rw [pathExists, isResolved]
        exact Bool.false_ne_true
      obtain ⟨anchor, isAnchor, leads⟩ := ih
      refine ⟨anchor, (if_neg isMissing).trans isAnchor, ?_⟩
      rw [deepest, isResolved]
      exact leads

section Confined

variable {disk : LocalDisk} {tree : FileSystem Bytes} {key : String} {root : Location}

inductive Confined (tree : FileSystem Bytes) (root : Location) (target : Path) : Path → Prop where
  | resolved {location : Location} : tree.resolve false target = .ok location → root <:+ location →
      Confined tree root target (.ofLocation location)
  | pending : (∀ location, tree.resolve false target ≠ .ok location) →
      root <:+ tree.deepest target.components.reverse.tail → Confined tree root target target

variable {path : Path}

theorem resolve_ne_ok_of_canonicalize
    {failure : Failure} (isRefused : tree.canonicalize path = .error failure)
    (location : Location) : tree.resolve false path ≠ .ok location := by
  intro isResolved
  rw [canonicalize, isResolved] at isRefused
  cases isRefused

variable {relative : Path}

theorem candidate_eq (isRelative : relative.absolute = false) :
    candidate root relative =
      { absolute := true
        components := root.reverse.map .name ++ relative.components
        ending := relative.ending } := by
  rw [candidate, Path.join, isRelative]
  rfl

theorem join_candidate (isRelative : relative.absolute = false) :
    (Path.ofLocation root).join (candidate root relative) = candidate root relative := by
  have isAbsolute : (candidate root relative).absolute = true := by rw [candidate_eq isRelative]
  rw [Path.join, if_pos isAbsolute]

theorem deepestExistingAncestor_of_missing
    (isMissing : ∀ location, tree.resolve false path ≠ .ok location) :
    deepestExistingAncestor tree path =
      match path.components.reverse with
      | [] => none
      | _ :: before =>
        deepestExistingFrom tree path.absolute before := by
  have notThere : ¬ tree.pathExists path = true := by
    rw [pathExists]
    cases isResolved : tree.resolve false path with
    | ok location => exact absurd isResolved (isMissing location)
    | error failure => exact Bool.false_ne_true
  exact if_neg notThere

theorem confinePath_ok (isSolid : tree.isSolid root = true) {relative path : Path}
    (isRelative : relative.absolute = false)
    (isConfined : confinePath tree (.ofLocation root) (candidate root relative) =
      .ok (.confined path)) :
    hasParentEscape (candidate root relative) = false ∧
      Confined tree root (candidate root relative) path := by
  unfold confinePath at isConfined
  rw [canonicalize_root isSolid] at isConfined
  dsimp only at isConfined
  split at isConfined
  · cases isConfined
  · next noParents =>
    refine ⟨Bool.eq_false_iff.mpr noParents, ?_⟩
    split at isConfined
    · next canonical isCanonical =>
      split at isConfined
      · next isInside =>
        cases isConfined
        obtain ⟨location, isResolved, rfl⟩ := canonicalize_ok isCanonical
        exact .resolved isResolved (startsWith_ofLocation.mp isInside)
      · cases isConfined
    · next failure isRefused =>
      have isMissing := resolve_ne_ok_of_canonicalize isRefused
      rw [join_candidate isRelative, deepestExistingAncestor_of_missing isMissing] at isConfined
      cases above : (candidate root relative).components.reverse with
      | nil =>
        rw [above] at isConfined
        cases isConfined
        have isRoot : root = [] := by
          have isEmpty := reverse_eq_nil_iff.mp above
          rw [candidate_eq isRelative] at isEmpty
          have noNames := (append_eq_nil_iff.mp isEmpty).1
          rw [map_eq_nil_iff, reverse_eq_nil_iff] at noNames
          exact noNames
        exact .pending isMissing (isRoot ▸ nil_suffix)
      | cons last before =>
        obtain ⟨anchor, isAnchor, leads⟩ := deepestExistingFrom_spec tree before
        have isCanonical : tree.canonicalize anchor = .ok (.ofLocation (tree.deepest before)) := by
          rw [canonicalize, leads]
          rfl
        have isAbsolute : (candidate root relative).absolute = true := by
          rw [candidate_eq isRelative]
        rw [above, isAbsolute] at isConfined
        dsimp only at isConfined
        rw [isAnchor] at isConfined
        dsimp only at isConfined
        rw [isCanonical] at isConfined
        dsimp only at isConfined
        split at isConfined
        · next isInside =>
          cases isConfined
          refine .pending isMissing ?_
          rw [above]
          exact startsWith_ofLocation.mp isInside
        · cases isConfined

theorem root_opened (isRoot : disk.rootLocation? tree = some root) :
    tree.createDirAll (disk.root tree) = (.ok (), disk.opened tree) ∧
    (disk.opened tree).isSolid root = true ∧ disk.root (disk.opened tree) = .ofLocation root := by
  unfold rootLocation? at isRoot
  split at isRoot
  · cases isRoot
  · next after isCreated =>
    have isOpened : disk.opened tree = after := by rw [opened, isCreated]
    cases isResolved : after.resolve false disk.configured with
    | error failure =>
      rw [isResolved] at isRoot
      cases isRoot
    | ok location =>
      rw [isResolved] at isRoot
      cases isRoot
      rw [isOpened]
      refine ⟨isCreated, isSolid_of_resolve isResolved, ?_⟩
      rw [LocalDisk.root, canonicalize, isResolved]
      rfl

theorem resolve_ok {after : FileSystem Bytes} (isRoot : disk.rootLocation? tree = some root)
    (isPath : disk.resolve key tree = (.ok path, after)) :
    after = disk.opened tree ∧ (Path.parse key).absolute = false ∧
    hasParentEscape (candidate root (Path.parse key)) = false ∧
    Confined after root (candidate root (Path.parse key)) path := by
  obtain ⟨isCreated, isSolid, isPathOfRoot⟩ := root_opened isRoot
  unfold resolve at isPath
  rw [isCreated] at isPath
  obtain ⟨isPath, rfl⟩ := Prod.mk.inj isPath
  refine ⟨rfl, ?_⟩
  unfold confinedPath at isPath
  dsimp only at isPath
  split at isPath
  · cases isPath
  · next isRelative =>
    have isRelative := Bool.eq_false_iff.mpr isRelative
    rw [isPathOfRoot] at isPath
    split at isPath
    · cases isPath
    · next confined isConfined =>
      cases isPath
      exact ⟨isRelative, confinePath_ok isSolid isRelative isConfined⟩
    · cases isPath

/-! ## Reading -/

variable {target path : Path}

theorem readFile_inside (isConfined : Confined tree root target path)
    {read : Location × Bytes} (isRead : tree.readFile path = .ok read) : root <:+ read.1 := by
  unfold readFile at isRead
  split at isRead
  · next location isResolved =>
    split at isRead
    · cases isRead
      cases isConfined with
      | resolved leads isInside =>
        rw [resolve_ofLocation (isSolid_of_resolve leads) isResolved]
        exact isInside
      | pending isMissing _ => exact absurd isResolved (isMissing location)
    · cases isRead
  · cases isRead

variable {location : Location}

theorem resolve_inside (isConfined : Confined tree root target path)
    (isResolved : tree.resolve false path = .ok location) : root <:+ location := by
  cases isConfined with
  | resolved leads isInside =>
    rw [resolve_ofLocation (isSolid_of_resolve leads) isResolved]
    exact isInside
  | pending isMissing _ => exact absurd isResolved (isMissing location)

/-! ## Removing -/

theorem removeFile_ok {removed : FileSystem Bytes}
    (isRemoved : tree.removeFile path = (.ok location, removed)) :
    tree.entryAt path = .ok location ∧ tree.isDirectory location = false ∧
    path.ending = .plain := by
  unfold removeFile at isRemoved
  split at isRemoved
  · next found isEntry =>
    split at isRemoved
    · cases isRemoved
    · cases isRemoved
    · next entry notDirectory isThere =>
      split at isRemoved
      · next isPlain =>
        cases isRemoved
        refine ⟨isEntry, Bool.eq_false_iff.mpr fun isDirectory => ?_, isPlain⟩
        exact notDirectory (Option.some.inj (isThere.symm.trans (isDirectory_iff.mp isDirectory)))
      · cases isRemoved
  · cases isRemoved

theorem entryAt_ofLocation {location found : Location} (isSolid : tree.isSolid location = true)
    (isEntry : tree.entryAt (.ofLocation location) = .ok found) : found = location := by
  cases location with
  | nil => exact resolve_ofLocation isSolid isEntry
  | cons name parent =>
    rw [ofLocation_eq, reverse_cons, map_append] at isEntry
    obtain ⟨-, links, above, isReached, -, rfl⟩ := entryAt_ok isEntry
    have isDirectory := isDirectory_of_isSolid isSolid
    have atParent : walk tree false maxLinks [] (parent.reverse.map Component.name ++ []) =
        walk tree false maxLinks parent [] :=
      walk_ofLocation (isSolid_of_isDirectory isDirectory) []
    rw [append_nil] at atParent
    cases isReached.symm.trans atParent
    rfl

variable {names : List String}

theorem entryAt_names (isEntry : tree.entryAt (fromRoot (names.map .name)) = .ok location)
    (notDirectory : tree.isDirectory location = false) :
    tree.deepest (names.map .name).reverse.tail <:+ location := by
  rcases names.eq_nil_or_concat' with rfl | ⟨before, name, rfl⟩
  · exact nil_suffix
  · rw [map_append] at isEntry
    obtain ⟨isValid, links, parent, isReached, -, rfl⟩ := entryAt_ok isEntry
    have isParent : tree.resolve false (fromRoot (before.map .name)) = .ok parent :=
      resolve_of_walk (isInvalid_of_append isValid) (isEmpty_fromRoot _) isReached
    have isDeepest : tree.deepest (before.map .name).reverse = parent := by
      refine deepest_of_resolve ?_
      rw [reverse_reverse]
      exact isParent
    rw [map_append, reverse_append]
    change tree.deepest (before.map .name).reverse <:+ _
    rw [isDeepest]
    exact suffix_cons name parent

variable {location : Location}

theorem removeFile_inside
    (isTarget : target =
      { absolute := true, components := names.map .name, ending := target.ending })
    (isConfined : Confined tree root target path) {removed : FileSystem Bytes}
    (isRemoved : tree.removeFile path = (.ok location, removed)) : root <:+ location := by
  obtain ⟨isEntry, notDirectory, isPlain⟩ := removeFile_ok isRemoved
  cases isConfined with
  | resolved leads isInside =>
    rw [entryAt_ofLocation (isSolid_of_resolve leads) isEntry]
    exact isInside
  | pending _ isInside =>
    rw [isPlain] at isTarget
    rw [isTarget] at isEntry isInside
    exact isInside.trans (entryAt_names isEntry notDirectory)

/-! ## Writing -/

variable {bytes : Bytes}

theorem writeFile_ok {written : FileSystem Bytes}
    (isWritten : tree.writeFile path bytes = (.ok location, written)) :
    tree.resolve true path = .ok location ∧ tree.isDirectory location = false := by
  unfold writeFile at isWritten
  split at isWritten
  · next found isResolved =>
    split at isWritten
    · cases isWritten
    · next notDirectory =>
      cases isWritten
      exact ⟨isResolved, Bool.eq_false_iff.mpr notDirectory⟩
  · cases isWritten

variable {made : FileSystem Bytes}

theorem createParent_ok (isMade : createParent path tree = (.ok (), made)) :
    path.components = [] ∧ made = tree ∨
    path.components ≠ [] ∧
      tree.createDirAllFrom path.absolute path.components.reverse.tail .plain = (.ok (), made) := by
  unfold createParent Path.parent? at isMade
  split at isMade
  · next noParent =>
    split at noParent
    · next noNames =>
      cases isMade
      exact .inl ⟨noNames, rfl⟩
    · cases noParent
  · next parent isParent =>
    split at isParent
    · cases isParent
    · next hasNames =>
      cases isParent
      split at isMade
      · cases isMade
      · next after isCreated =>
        cases isMade
        refine .inr ⟨hasNames, ?_⟩
        rw [tail_reverse]
        exact isCreated

theorem created_parent {ending : Ending}
    (isMade : createParent { absolute := true, components := names.map .name, ending := ending }
      tree =
      (.ok (), made)) :
    names = [] ∧ made = tree ∨
      ∃ before name, names = before ++ [name] ∧
        Created tree made (before.map Component.name).reverse := by
  rcases names.eq_nil_or_concat' with rfl | ⟨before, name, rfl⟩
  · rcases createParent_ok isMade with ⟨-, isSame⟩ | ⟨hasNames, -⟩
    · exact .inl ⟨rfl, isSame⟩
    · exact absurd rfl hasNames
  · rcases createParent_ok isMade with ⟨noNames, -⟩ | ⟨-, isCreated⟩
    · simp at noNames
    · refine .inr ⟨before, name, rfl, ?_⟩
      have shape :
          ((before ++ [name]).map Component.name).reverse.tail = before.reverse.map .name := by
        simp
      rw [shape] at isCreated
      rw [← map_reverse]
      exact createDirAllFrom_spec isCreated

theorem plain_of_resolve {ending : Ending}
    (isResolved : tree.resolve true
          { absolute := true, components := names.map .name, ending := ending } =
        .ok location)
    (notDirectory : tree.isDirectory location = false) : ending = .plain ∧ names ≠ [] := by
  obtain ⟨-, -, links, isReached⟩ := walk_of_resolve isResolved
  have endsInDirectory
      (reached : walk tree true maxLinks [] (names.map .name ++ [.here]) = .ok (links, location)) :
      False := by
    obtain ⟨left, parent, -, isDirectory, isLast⟩ := walk_last reached
    rw [walk_here isDirectory, walk_nil] at isLast
    cases isLast
    rw [isDirectory] at notDirectory
    cases notDirectory
  cases ending with
  | plain =>
    refine ⟨rfl, ?_⟩
    rintro rfl
    change walk tree true maxLinks [] [] = _ at isReached
    cases isReached
    rw [isDirectory_iff.mpr tree.root] at notDirectory
    cases notDirectory
  | slash | dot => exact (endsInDirectory isReached).elim

theorem resolve_creating {before : List String} {name : String}
    (isResolved : tree.resolve true (fromRoot ((before ++ [name]).map .name)) = .ok location) :
    ∃ links parent, walk tree false maxLinks [] (before.map .name) = .ok (links, parent) ∧
      (location = name :: parent ∨
        ∃ target, tree.entryAt (fromRoot ((before ++ [name]).map .name)) = .ok (name :: parent) ∧
          tree.entries (name :: parent) = some (.link target)) := by
  rw [map_append] at isResolved ⊢
  obtain ⟨isValid, -, links, isReached⟩ := walk_of_resolve isResolved
  obtain ⟨left, parent, isParent, isDirectory, isLast⟩ := walk_last isReached
  refine ⟨left, parent, isParent, ?_⟩
  rcases tree.entry_cases (name :: parent) with isMissing | isSolid | ⟨target, isLink⟩
  · rw [walk_name_none isDirectory isMissing] at isLast
    cases isLast
    exact .inl rfl
  · rw [walk_name_solid isDirectory isSolid, walk_nil] at isLast
    cases isLast
    exact .inl rfl
  · refine .inr ⟨target, ?_, isLink⟩
    have hasNoZero : (fromRoot (before.map .name ++ [.name name])).isInvalid = false := isValid
    change walk tree false maxLinks [] (before.map .name) = _ at isParent
    change tree.entryAt (fromRoot (before.map .name ++ [.name name])) = _
    rw [entryAt_name, hasNoZero, isParent]
    simp [isDirectory]

/-- A file is made below the root, or through a link that leads nowhere. -/
theorem writeFile_inside
    (isTarget :
      target = { absolute := true, components := names.map .name, ending := target.ending })
    (isConfined : Confined tree root target path)
    (isMade : createParent path tree = (.ok (), made)) {bytes : Bytes}
    {written : FileSystem Bytes} (isWritten : made.writeFile path bytes = (.ok location, written)) :
    root <:+ location ∨
    (∀ location, tree.resolve false target ≠ .ok location) ∧
      tree.resolve true target = .ok location ∧
      ∃ name parent link, tree.entryAt target = .ok (name :: parent) ∧ root <:+ parent ∧
          tree.entries (name :: parent) = some (.link link) := by
  obtain ⟨isResolved, notDirectory⟩ := writeFile_ok isWritten
  cases isConfined with
  | @resolved found leads isInside =>
    have isSolid := isSolid_of_resolve leads
    have staysSolid : made.isSolid found = true := by
      have isMadeBelow : createParent
            { absolute := true, components := found.reverse.map .name, ending := .plain }
            tree =
          (.ok (), made) :=
        isMade
      rcases created_parent isMadeBelow with ⟨-, rfl⟩ | ⟨before, name, -, isCreated⟩
      · exact isSolid
      · exact isCreated.1.isSolid isSolid
    rw [resolve_ofLocation staysSolid isResolved]
    exact .inl isInside
  | pending isMissing isInside =>
    rw [isTarget] at isResolved
    obtain ⟨isPlain, hasNames⟩ := plain_of_resolve isResolved notDirectory
    rw [isTarget] at isMade
    rcases created_parent isMade with ⟨noNames, -⟩ | ⟨before, name, rfl, isCreated⟩
    · exact absurd noNames hasNames
    · rw [isPlain] at isTarget isResolved
      obtain ⟨-, links, parent, isReached, -, isBelow, isFresh⟩ := isCreated
      rw [reverse_reverse] at isReached
      obtain ⟨left, above, isReachedAgain, isMadeHere⟩ := resolve_creating isResolved
      cases isReached.symm.trans isReachedAgain
      have shape : target.components.reverse.tail = (before.map Component.name).reverse := by
        rw [isTarget]
        simp
      rw [shape] at isInside
      have rootAbove := isInside.trans isBelow
      rcases isMadeHere with rfl | ⟨link, isEntry, isLink⟩
      · exact .inl (rootAbove.trans (suffix_cons name parent))
      · rcases isFresh with rfl | isFresh
        · rw [isTarget]
          refine
            .inr ⟨isTarget ▸ isMissing, isResolved, name, parent, link, isEntry, rootAbove, isLink⟩
        · rw [isFresh name] at isLink
          cases isLink

/-! ## Every key -/

theorem parse_ne_here (key : String) : Component.here ∉ (Path.parse key).components := by
  intro isIn
  obtain ⟨piece, -, isPiece⟩ := mem_filterMap.mp isIn
  split at isPiece
  · cases isPiece
  · split at isPiece
    · cases isPiece
    · cases isPiece

theorem names_of_components {components : List Component} (noHere : Component.here ∉ components)
    (noParents : Component.up ∉ components) :
    ∃ names : List String, components = names.map .name := by
  induction components with
  | nil => exact ⟨[], rfl⟩
  | cons component rest ih =>
    rw [mem_cons, not_or] at noHere noParents
    obtain ⟨names, rfl⟩ := ih noHere.2 noParents.2
    cases component with
    | here => exact absurd rfl noHere.1
    | up => exact absurd rfl noParents.1
    | name name => exact ⟨name :: names, rfl⟩

theorem candidate_names (isRelative : (Path.parse key).absolute = false)
    (noParents : hasParentEscape (candidate root (Path.parse key)) = false) :
    hasParentEscape (Path.parse key) = false ∧ ∃ names : List String,
        candidate root (Path.parse key) =
          { absolute := true
            components := names.map .name
            ending := (candidate root (Path.parse key)).ending } := by
  have noUp : Component.up ∉ (Path.parse key).components := by
    intro isIn
    rw [candidate_eq isRelative, hasParentEscape, contains_eq_mem,
      decide_eq_false_iff_not] at noParents
    exact noParents (mem_append_right _ isIn)
  obtain ⟨names, areNames⟩ := names_of_components (parse_ne_here key) noUp
  refine ⟨?_, root.reverse ++ names, ?_⟩
  · rw [hasParentEscape, contains_eq_mem, decide_eq_false_iff_not]
    exact noUp
  · rw [candidate_eq isRelative, areNames, map_append]

theorem staysInside_of_not_dangles (isRoot : disk.rootLocation? tree = some root)
    (notOutside : ¬ DanglesOutside (disk.opened tree) root (Path.parse key)) :
    disk.StaysInside tree key bytes root := by
  refine
    { get := fun read isRead => ?_
      put := fun location isPut => ?_
      exists? := fun location isFound => ?_
      delete := fun location isDeleted => ?_ }
  · unfold get at isRead
    split at isRead
    · cases isRead
    · next path after isPath =>
      obtain ⟨-, -, -, isConfined⟩ := resolve_ok isRoot isPath
      split at isRead
      · next found isFound =>
        cases isRead
        exact readFile_inside isConfined isFound
      · cases isRead
      · cases isRead
  · unfold put at isPut
    split at isPut
    · cases isPut
    · next path after isPath =>
      obtain ⟨rfl, isRelative, noParents, isConfined⟩ := resolve_ok isRoot isPath
      obtain ⟨noParentsInKey, names, areNames⟩ := candidate_names isRelative noParents
      split at isPut
      · cases isPut
      · next made isMade =>
        split at isPut
        · next found written isWritten =>
          cases isPut
          rcases writeFile_inside areNames isConfined isMade isWritten
            with isInside | ⟨isMissing, isCreated, isLink⟩
          · exact isInside
          · by_contra isOutside
            exact notOutside
              { relative := isRelative
                noParents := noParentsInKey
                missing := isMissing
                isLink := isLink
                outside := ⟨location, isCreated, isOutside⟩ }
        · cases isPut
  · unfold exists? at isFound
    split at isFound
    · cases isFound
    · next path after isPath =>
      obtain ⟨-, -, -, isConfined⟩ := resolve_ok isRoot isPath
      cases isResolved : after.resolve false path with
      | error failure =>
        rw [isResolved] at isFound
        cases isFound
      | ok found =>
        rw [isResolved] at isFound
        cases isFound
        exact resolve_inside isConfined isResolved
  · unfold delete at isDeleted
    split at isDeleted
    · cases isDeleted
    · next path after isPath =>
      obtain ⟨-, isRelative, noParents, isConfined⟩ := resolve_ok isRoot isPath
      obtain ⟨-, names, areNames⟩ := candidate_names isRelative noParents
      split at isDeleted
      · next found removed isRemoved =>
        cases isDeleted
        exact removeFile_inside areNames isConfined isRemoved
      · cases isDeleted
      · cases isDeleted

/-! ## Links to the outside -/

theorem confinePath_of_missing (isSolid : tree.isSolid root = true)
    (isRelative : relative.absolute = false)
    (noParents : hasParentEscape (candidate root relative) = false)
    (isMissing : ∀ location, tree.resolve false (candidate root relative) ≠ .ok location)
    (hasNames : (candidate root relative).components ≠ [])
    (isInside : root <:+ tree.deepest (candidate root relative).components.reverse.tail) :
    confinePath tree (.ofLocation root) (candidate root relative) =
      .ok (.confined (candidate root relative)) := by
  have isAbsolute : (candidate root relative).absolute = true := by rw [candidate_eq isRelative]
  obtain ⟨last, before, above⟩ := exists_cons_of_ne_nil (reverse_ne_nil_iff.mpr hasNames)
  obtain ⟨anchor, isAnchor, leads⟩ := deepestExistingFrom_spec tree before
  have isCanonical : tree.canonicalize anchor = .ok (.ofLocation (tree.deepest before)) := by
    rw [canonicalize, leads]
    rfl
  have starts : (Path.ofLocation (tree.deepest before)).startsWith (.ofLocation root) =
      true := by
    rw [above] at isInside
    exact startsWith_ofLocation.mpr isInside
  unfold confinePath
  rw [canonicalize_root isSolid, noParents]
  cases isRefused : tree.canonicalize (candidate root relative) with
  | ok canonical =>
    obtain ⟨location, isResolved, -⟩ := canonicalize_ok isRefused
    exact absurd isResolved (isMissing location)
  | error failure =>
    rw [deepestExistingAncestor_of_missing isMissing, above, isAbsolute]
    dsimp only
    rw [isAnchor]
    dsimp only
    rw [isCanonical]
    dsimp only
    rw [starts, join_candidate isRelative]
    rfl

theorem noParents_candidate (isRelative : relative.absolute = false)
    (noParents : hasParentEscape relative = false) :
    hasParentEscape (candidate root relative) = false := by
  rw [hasParentEscape, contains_eq_mem, decide_eq_false_iff_not] at noParents ⊢
  rw [candidate_eq isRelative, mem_append, not_or]
  refine ⟨fun isIn => ?_, noParents⟩
  obtain ⟨name, -, isName⟩ := mem_map.mp isIn
  cases isName

theorem notDirectory_of_creating (isMissing : ∀ location, tree.resolve false path ≠ .ok location)
    (isResolved : tree.resolve true path = .ok location) : tree.isDirectory location = false := by
  obtain ⟨isValid, hasText, links, isReached⟩ := walk_of_resolve isResolved
  rcases walk_creating isReached with isThere | ⟨-, isNew, -⟩
  · exact absurd (resolve_of_walk isValid hasText isThere) (isMissing location)
  · exact isDirectory_eq_false_of_none isNew

/-- What a link that leads nowhere is written through to is outside. -/
theorem put_of_dangles (bytes : Bytes) (isRoot : disk.rootLocation? tree = some root)
    (dangles : DanglesOutside (disk.opened tree) root (Path.parse key)) :
    ∃ location, (disk.put key bytes tree).1 = .ok location ∧ ¬ root <:+ location := by
  obtain ⟨isCreated, isSolid, isPathOfRoot⟩ := root_opened isRoot
  obtain ⟨isRelative, noParentsInKey, isMissing, ⟨name, parent, link, isEntry, isInside, isLink⟩,
    location, isResolved, isOutside⟩ := dangles
  have noParents : hasParentEscape (candidate root (Path.parse key)) = false :=
    noParents_candidate isRelative noParentsInKey
  obtain ⟨-, names, areNames⟩ := candidate_names isRelative noParents
  have notDirectory := notDirectory_of_creating isMissing isResolved
  have isPlain : (candidate root (Path.parse key)).ending = .plain ∧ names ≠ [] := by
    rw [areNames] at isResolved
    exact plain_of_resolve isResolved notDirectory
  obtain ⟨before, last, rfl⟩ := names.eq_nil_or_concat'.resolve_left isPlain.2
  rw [isPlain.1] at areNames
  have isEntryOfNames := isEntry
  rw [areNames, map_append] at isEntryOfNames
  obtain ⟨isValid, links, above, isReached, isDirectory, same⟩ := entryAt_ok isEntryOfNames
  cases same
  have isParent : (disk.opened tree).resolve false (fromRoot (before.map .name)) = .ok parent :=
    resolve_of_walk (isInvalid_of_append isValid) (isEmpty_fromRoot _) isReached
  have shape :
      (candidate root (Path.parse key)).components.reverse.tail = before.reverse.map .name := by
    rw [areNames]
    simp
  have isDeepest : (disk.opened tree).deepest (before.reverse.map .name) = parent := by
    refine deepest_of_resolve ?_
    rw [map_reverse, reverse_reverse]
    exact isParent
  have hasNames : (candidate root (Path.parse key)).components ≠ [] := by
    rw [areNames]
    simp
  have isAbsolute : (candidate root (Path.parse key)).absolute = true := by rw [areNames]
  have isConfined := confinePath_of_missing isSolid isRelative noParents isMissing hasNames
      (by rw [shape, isDeepest]; exact isInside)
  have leads : (disk.opened tree).leadsToDirectory
        (fromRoot (before.reverse.map Component.name).reverse) =
      true := by
    rw [map_reverse, reverse_reverse, leadsToDirectory, isParent]
    exact isDirectory
  have isMade : createParent (candidate root (Path.parse key)) (disk.opened tree) =
      (.ok (), disk.opened tree) := by
    have isThere := createDirAllFrom_of_leads leads
    rw [← shape] at isThere
    unfold createParent Path.parent?
    rw [if_neg hasNames]
    dsimp only [createDirAll]
    rw [← tail_reverse, isAbsolute, isThere]
  have isPath :
      disk.resolve key tree = (.ok (candidate root (Path.parse key)), disk.opened tree) := by
    unfold resolve
    rw [isCreated]
    unfold confinedPath
    dsimp only
    rw [isRelative, isPathOfRoot]
    have isChecked := isConfined
    rw [candidate] at isChecked
    rw [isChecked]
    rfl
  refine ⟨location, ?_, isOutside⟩
  unfold put
  rw [isPath]
  dsimp only
  rw [isMade]
  dsimp only
  unfold writeFile
  rw [isResolved]
  dsimp only
  rw [notDirectory]
  rfl

/--
Operations on a key stay below the root of the disk, exactly when the key does
not name a link that leads nowhere yet but to the outside.
-/
theorem keys_stay_inside_iff (bytes : Bytes) (isRoot : disk.rootLocation? tree = some root) :
    disk.StaysInside tree key bytes root ↔
      ¬ DanglesOutside (disk.opened tree) root (Path.parse key) := by
  constructor
  · intro staysInside dangles
    obtain ⟨location, isPut, isOutside⟩ := put_of_dangles bytes isRoot dangles
    exact isOutside (staysInside.put location isPut)
  · exact staysInside_of_not_dangles isRoot

end Confined

def rootOnly : FileSystem Nat :=
  { entries := fun location =>
      if location = [] then some .directory else none
    working := []
    root := rfl
    isWorking := rfl
    parents := fun _ _ isIn => absurd rfl isIn }

def linkedTree : FileSystem Nat :=
  ((((rootOnly.place .directory ["disk"]).place .directory
          ["real", "disk"]).place (.link (Path.parse "real"))
        ["album", "disk"]).place .directory ["etc"]).place
    (.link (Path.parse "/etc/new")) ["out", "disk"]

def mainDisk : LocalDisk :=
  { configured := Path.parse "/disk" }

theorem photo_stays_inside :
    mainDisk.StaysInside linkedTree "album/2024/photo" 7 ["disk"] ∧
    (mainDisk.put "album/2024/photo" 7 linkedTree).1 = .ok ["photo", "2024", "real", "disk"] := by
  refine ⟨(keys_stay_inside_iff 7 (by decide +kernel)).mpr fun dangles => ?_, by decide +kernel⟩
  have isRefused : (mainDisk.opened linkedTree).resolve true
        (candidate ["disk"] (Path.parse "album/2024/photo")) =
      .error .notFound := by
    decide +kernel
  obtain ⟨location, isCreated, -⟩ := dangles.outside
  cases isCreated.symm.trans isRefused

/-- A file is made outside, through a link that leads nowhere yet. -/
theorem link_is_written_through :
    mainDisk.rootLocation? linkedTree = some ["disk"] ∧
    (mainDisk.put "out" 7 linkedTree).1 = .ok ["new", "etc"] ∧
    ¬ mainDisk.StaysInside linkedTree "out" 7 ["disk"] := by
  have isPut : (mainDisk.put "out" 7 linkedTree).1 = .ok ["new", "etc"] := by decide +kernel
  refine ⟨by decide +kernel, isPut, fun staysInside => ?_⟩
  exact absurd (staysInside.put _ isPut) (by decide)

end LocalDisk

end Rustasea.Storage
