import Rustasea.Storage.LocalDisk

namespace Rustasea.Storage.LinkCreation

open FileTree FileTree.FileSystem

/-!
# Creating the configured links

The entries are handled one after another: both paths are checked, a link path
that is taken is skipped, and else the directories above it and then the link
are made.  Nothing that is there is ever changed, so what one entry left is
there for all later ones.
-/

variable {Bytes : Type}

/-! ## The call -/

inductive LinkError where
  | pathTraversal (path : String)
  | io (path : Path) (source : Failure)
  deriving DecidableEq

/-- An entry of the configuration. -/
structure Link where
  link : String
  target : String

/-- A path as a call takes it; one without any text leads nowhere. -/
def pathOf (text : String) : Path :=
  if text = "" then { absolute := false, components := [], ending := .plain }
  else Path.parse text

def validateLinkPaths (link target : String) : Except LinkError Unit :=
  if hasParentEscape (pathOf link) then .error (.pathTraversal link)
  else if hasParentEscape (pathOf target) then .error (.pathTraversal target)
  else .ok ()

/-- Where the entry of a path is; a link is followed when a slash is behind. -/
@[grind =] def symlinkMetadata (tree : FileSystem Bytes) (path : Path) : Except Failure Location :=
  match path.ending with
  | .plain => tree.entryAt path
  | .slash | .dot => tree.resolve false path

def isThere (tree : FileSystem Bytes) (path : Path) : Bool :=
  match symlinkMetadata tree path with
  | .ok location => (tree.entries location).isSome
  | .error _ => false

/-- A path from the root directory, by way of the working one. -/
def absolutePath (tree : FileSystem Bytes) (target : String) : Path :=
  if (pathOf target).absolute then pathOf target
  else (Path.ofLocation tree.working).join (Path.parse target)

def absoluteTarget (tree : FileSystem Bytes) (target : String) : Path :=
  match tree.canonicalize (pathOf target) with
  | .ok path => path
  | .error _ => absolutePath tree target

/-- Only a directory may be made where a slash or a dot is behind. -/
def makeSymlink (tree : FileSystem Bytes)
    (target link : Path) : Except Failure Unit × FileSystem Bytes :=
  if target.isInvalid then (.error .invalidInput, tree)
  else
    match tree.entryAt link with
    | .error failure => (.error failure, tree)
    | .ok location =>
      if (tree.entries location).isSome then (.error .alreadyExists, tree)
      else if link.ending = .plain then (.ok (), tree.place (.link target) location)
      else (.error .notFound, tree)

def createParents (tree : FileSystem Bytes)
    (link : Path) : Except LinkError Unit × FileSystem Bytes :=
  match link.parent? with
  | none => (.ok (), tree)
  | some parent =>
    if parent.isEmpty then (.ok (), tree)
    else
      match tree.createDirAll parent with
      | (.ok (), after) => (.ok (), after)
      | (.error failure, after) => (.error (.io parent failure), after)

@[grind =] def createLink (tree : FileSystem Bytes)
    (entry : Link) : Except LinkError (Option Path) × FileSystem Bytes :=
  match validateLinkPaths entry.link entry.target with
  | .error failure => (.error failure, tree)
  | .ok () =>
    let link := pathOf entry.link
    if isThere tree link then (.ok none, tree)
    else
      match createParents tree link with
      | (.error failure, after) => (.error failure, after)
      | (.ok (), between) =>
        match makeSymlink between (absoluteTarget between entry.target) link with
        | (.error failure, after) => (.error (.io link failure), after)
        | (.ok (), after) => (.ok (some link), after)

@[grind =] def createLinksFrom (tree : FileSystem Bytes) (created : List Path) :
    List Link → Except LinkError (List Path) × FileSystem Bytes
  | [] => (.ok created, tree)
  | entry :: rest =>
    match createLink tree entry with
    | (.error failure, after) => (.error failure, after)
    | (.ok path, after) => createLinksFrom after (created ++ path.toList) rest

/-- Materialize the links, in the order of the map; the paths are of those created. -/
def createLinks (tree : FileSystem Bytes)
    (links : List Link) : Except LinkError (List Path) × FileSystem Bytes :=
  createLinksFrom tree [] links

/--
The entry is a link, and its text is the path of the target or leads to where
the target leads.
-/
def PointsTo (tree : FileSystem Bytes) (entry : Link) : Prop :=
  ∃ location target, symlinkMetadata tree (pathOf entry.link) = .ok location ∧
      tree.entries location = some (.link target) ∧
      (target = absolutePath tree entry.target ∨ ∃ links reached,
          walk tree false maxLinks (linkStart location.tail target)
              target.walked = .ok (links, reached) ∧
            tree.resolve false (pathOf entry.target) = .ok reached)

/-! ## Trees that grow -/

/-- What was there is there, and so is whoever makes the calls. -/
structure Grows (tree after : FileSystem Bytes) : Prop where
  kept : Extends tree after
  working : after.working = tree.working

/-- Whatever is new is a directory. -/
structure AddsDirectories (tree after : FileSystem Bytes) : Prop
    extends Grows tree after where
  directories : ∀ location entry,
      after.entries location = some entry → tree.entries location = some entry ∨ entry = .directory

section Growth

variable {tree between after : FileSystem Bytes} {path : Path} {location : Location}

theorem Grows.refl (tree : FileSystem Bytes) : Grows tree tree := ⟨.refl tree, rfl⟩

theorem Grows.trans (first : Grows tree between) (second : Grows between after) :
    Grows tree after :=
  ⟨first.kept.trans second.kept, second.working.trans first.working⟩

theorem AddsDirectories.refl (tree : FileSystem Bytes) : AddsDirectories tree tree :=
  ⟨.refl tree, fun _ _ isEntry => .inl isEntry⟩

theorem AddsDirectories.trans (first : AddsDirectories tree between)
    (second : AddsDirectories between after) : AddsDirectories tree after := by
  refine ⟨first.toGrows.trans second.toGrows, fun location entry isEntry => ?_⟩
  rcases second.directories location entry isEntry with isBefore | isDirectory
  · exact first.directories location entry isBefore
  · exact .inr isDirectory

theorem Grows.start (grows : Grows tree after) (path : Path) :
    after.start path = tree.start path := by
  unfold FileSystem.start
  rw [grows.working]

theorem Grows.resolve (grows : Grows tree after)
    (isResolved : tree.resolve false path = .ok location) :
    after.resolve false path = .ok location := by
  obtain ⟨isValid, hasText, links, isReached⟩ := walk_of_resolve isResolved
  have isReachedAgain := grows.kept.walk isReached
  rw [← grows.start] at isReachedAgain
  exact resolve_of_walk isValid hasText isReachedAgain

theorem Grows.entryAt (grows : Grows tree after) (isEntry : tree.entryAt path = .ok location) :
    after.entryAt path = .ok location := by
  unfold FileSystem.entryAt at isEntry ⊢
  split at isEntry
  · exact grows.resolve isEntry
  · split at isEntry
    · cases isEntry
    · next isValid =>
      rw [if_neg isValid, grows.start]
      split at isEntry
      · next links parent isReached =>
        rw [grows.kept.walk isReached]
        split at isEntry
        · next isDirectory =>
          dsimp only
          rw [if_pos (grows.kept.isDirectory isDirectory)]
          exact isEntry
        · cases isEntry
      · cases isEntry
  · exact grows.resolve isEntry

theorem Grows.symlinkMetadata (grows : Grows tree after)
    (isEntry : symlinkMetadata tree path = .ok location) :
    LinkCreation.symlinkMetadata after path = .ok location := by
  unfold LinkCreation.symlinkMetadata at isEntry ⊢
  split at isEntry
  · exact grows.entryAt isEntry
  · exact grows.resolve isEntry
  · exact grows.resolve isEntry

theorem Grows.isThere (grows : Grows tree after) (isIn : isThere tree path = true) :
    LinkCreation.isThere after path = true := by
  unfold LinkCreation.isThere at isIn ⊢
  split at isIn
  · next location isEntry =>
    rw [grows.symlinkMetadata isEntry]
    obtain ⟨entry, isHere⟩ := Option.isSome_iff_exists.mp isIn
    exact Option.isSome_iff_exists.mpr ⟨entry, grows.kept _ _ isHere⟩
  · cases isIn

theorem Grows.absolutePath (grows : Grows tree after) (target : String) :
    absolutePath after target = absolutePath tree target := by
  unfold LinkCreation.absolutePath
  rw [grows.working]

theorem Grows.pointsTo {entry : Link} (grows : Grows tree after) (points : PointsTo tree entry) :
    PointsTo after entry := by
  obtain ⟨location, target, isEntry, isLink, leads⟩ := points
  refine ⟨location, target, grows.symlinkMetadata isEntry, grows.kept _ _ isLink, ?_⟩
  rcases leads with same | ⟨links, reached, isReached, isTarget⟩
  · exact .inl (same.trans (grows.absolutePath entry.target).symm)
  · exact .inr ⟨links, reached, grows.kept.walk isReached, grows.resolve isTarget⟩

theorem place_working (tree : FileSystem Bytes) (entry : Entry Bytes) (location : Location) :
    (tree.place entry location).working = tree.working := by
  cases location with
  | nil => rfl
  | cons name parent =>
    dsimp only [place]
    split <;> rfl

theorem place_of_missing {entry : Entry Bytes} (isEntry : tree.entryAt path = .ok location)
    (isMissing : tree.entries location = none) :
    Grows tree (tree.place entry location) ∧
    (tree.place entry location).entries = Function.update tree.entries location (some entry) := by
  have notResolved : tree.resolve false path ≠ .ok location := by
    intro isResolved
    have isSolid := isSolid_of_resolve isResolved
    rw [FileSystem.isSolid, isMissing] at isSolid
    cases isSolid
  unfold FileSystem.entryAt at isEntry
  split at isEntry
  · exact absurd isEntry notResolved
  · split at isEntry
    · cases isEntry
    · split at isEntry
      · split at isEntry
        · next isDirectory =>
          cases isEntry
          exact ⟨⟨extends_place isDirectory isMissing, place_working _ _ _⟩,
            place_entries isDirectory (isDirectory_eq_false_of_none isMissing)⟩
        · cases isEntry
      · cases isEntry
  · exact absurd isEntry notResolved

theorem makeDirectory_adds (tree : FileSystem Bytes) (path : Path) :
    AddsDirectories tree (tree.makeDirectory path).2 := by
  cases isMade : tree.makeDirectory path with
  | mk result after =>
    cases result with
    | error failure =>
      rw [makeDirectory_error isMade]
      exact .refl tree
    | ok _ =>
      obtain ⟨location, isEntry, isMissing, rfl⟩ := makeDirectory_ok isMade
      obtain ⟨grows, areEntries⟩ := place_of_missing isEntry isMissing
      refine ⟨grows, fun other entry isOther => ?_⟩
      rw [areEntries, Function.update_apply] at isOther
      split at isOther
      · exact .inr (Option.some.inj isOther).symm
      · exact .inl isOther

theorem makeOrFind_adds (tree : FileSystem Bytes) (path : Path) :
    AddsDirectories tree (tree.makeOrFind path).2 := by
  have adds := makeDirectory_adds tree path
  unfold makeOrFind
  split
  · next isMade => simpa only [isMade] using adds
  · next isMade =>
    split <;> simpa only [isMade] using adds

theorem createDirAllFrom_adds
    (tree : FileSystem Bytes) (absolute : Bool) (reversed : List Component) (ending : Ending) :
    AddsDirectories tree (tree.createDirAllFrom absolute reversed ending).2 := by
  induction reversed generalizing ending with
  | nil => exact .refl tree
  | cons last before ih =>
    have adds := ih .plain
    rw [createDirAllFrom]
    split
    · split
      · next between isBefore =>
        rw [isBefore] at adds
        exact adds.trans (makeOrFind_adds between _)
      · next isBefore => simpa only [isBefore] using adds
    · exact makeOrFind_adds tree _

theorem createParents_adds (tree : FileSystem Bytes) (link : Path) :
    AddsDirectories tree (createParents tree link).2 := by
  unfold createParents
  split
  · exact .refl tree
  · next parent _ =>
    have adds := createDirAllFrom_adds tree parent.absolute parent.components.reverse parent.ending
    rw [← createDirAll] at adds
    split
    · exact .refl tree
    · split <;> next isCreated => simpa only [isCreated] using adds

theorem createParents_error {link : Path} {error : LinkError}
    (isRefused : createParents tree link = (.error error, after)) :
    ∃ path failure, error = .io path failure := by
  unfold createParents at isRefused
  split at isRefused
  · cases isRefused
  · split at isRefused
    · cases isRefused
    · split at isRefused <;> cases isRefused
      exact ⟨_, _, rfl⟩

theorem walk_to_solid (isSolid : tree.isSolid location = true) :
    walk tree false maxLinks [] (location.reverse.map .name) = .ok (maxLinks, location) := by
  rw [← List.append_nil (location.reverse.map _), walk_ofLocation isSolid, walk_nil]

theorem absoluteTarget_cases (tree : FileSystem Bytes) (target : String) :
    absoluteTarget tree target = absolutePath tree target ∨
      ∃ reached, tree.resolve false (pathOf target) = .ok reached ∧
        absoluteTarget tree target = Path.ofLocation reached := by
  unfold absoluteTarget canonicalize
  cases isResolved : tree.resolve false (pathOf target) with
  | error failure => exact .inl rfl
  | ok reached => exact .inr ⟨reached, rfl, rfl⟩

theorem pointsTo_of_makeSymlink {entry : Link}
    (isMade : makeSymlink tree (absoluteTarget tree entry.target) (pathOf entry.link) =
      (.ok (), after)) : Grows tree after ∧ PointsTo after entry := by
  unfold makeSymlink at isMade
  split at isMade
  · cases isMade
  · split at isMade
    · cases isMade
    · next location isEntry =>
      split at isMade
      · cases isMade
      · next isMissing =>
        rw [Option.not_isSome_iff_eq_none] at isMissing
        split at isMade
        · next isPlain =>
          cases isMade
          obtain ⟨grows, areEntries⟩ := place_of_missing isEntry isMissing
          have isAt : symlinkMetadata tree (pathOf entry.link) = .ok location := by
            rw [symlinkMetadata, isPlain]
            exact isEntry
          refine ⟨grows, location, _, grows.symlinkMetadata isAt,
            by rw [areEntries, Function.update_self], ?_⟩
          rcases absoluteTarget_cases tree entry.target with same | ⟨reached, isResolved, same⟩
          · exact .inl (same.trans (grows.absolutePath entry.target).symm)
          · have isSolid := grows.kept.isSolid (isSolid_of_resolve isResolved)
            refine .inr ⟨maxLinks, reached, ?_, grows.resolve isResolved⟩
            rw [same] at isSolid ⊢
            exact walk_to_solid isSolid
        · cases isMade

theorem makeSymlink_error {target link : Path} {failure : Failure}
    (isRefused : makeSymlink tree target link = (.error failure, after)) : after = tree := by
  unfold makeSymlink at isRefused
  split at isRefused
  · cases isRefused
    rfl
  · split at isRefused
    · cases isRefused
      rfl
    · split at isRefused
      · cases isRefused
        rfl
      · split at isRefused <;> cases isRefused
        rfl

end Growth

/-! ## One entry -/

section Entries

variable {tree after : FileSystem Bytes} {entry : Link}

def IsConfined (entry : Link) : Prop :=
  hasParentEscape (pathOf entry.link) = false ∧ hasParentEscape (pathOf entry.target) = false

theorem validateLinkPaths_cases (link target : String) :
    hasParentEscape (pathOf link) = false ∧ hasParentEscape (pathOf target) = false ∧
      validateLinkPaths link target = .ok () ∨
    ∃ path, validateLinkPaths link target = .error (.pathTraversal path) := by
  unfold validateLinkPaths
  cases hasParentEscape (pathOf link) with
  | true => exact .inr ⟨link, rfl⟩
  | false =>
    cases hasParentEscape (pathOf target) with
    | true => exact .inr ⟨target, rfl⟩
    | false => exact .inl ⟨rfl, rfl, rfl⟩

/-- What is done to an entry: it is rejected, skipped, given up or created. -/
inductive Handled (tree : FileSystem Bytes) (entry : Link) :
    Except LinkError (Option Path) → FileSystem Bytes → Prop where
  | rejected (path : String)
      (rejection : validateLinkPaths entry.link entry.target = .error (.pathTraversal path)) :
      Handled tree entry (.error (.pathTraversal path)) tree
  | skipped (confined : IsConfined entry)
      (isTaken : isThere tree (pathOf entry.link) = true) : Handled tree entry (.ok none) tree
  | failed (path : Path) (failure : Failure) (after : FileSystem Bytes)
      (isFree : isThere tree (pathOf entry.link) = false)
      (adds : AddsDirectories tree after) : Handled tree entry (.error (.io path failure)) after
  | created (after : FileSystem Bytes) (confined : IsConfined entry)
      (isFree : isThere tree (pathOf entry.link) = false) (grows : Grows tree after)
      (points : PointsTo after entry) : Handled tree entry (.ok (some (pathOf entry.link))) after

theorem createLink_handled (tree : FileSystem Bytes) (entry : Link) :
    Handled tree entry (createLink tree entry).1 (createLink tree entry).2 := by
  rcases validateLinkPaths_cases entry.link entry.target with
    ⟨isBelow, leadsBelow, isValid⟩ | ⟨path, rejection⟩
  · have adds := createParents_adds tree (pathOf entry.link)
    unfold createLink
    rw [isValid]
    dsimp only
    split
    · next isTaken => exact .skipped ⟨isBelow, leadsBelow⟩ isTaken
    · next notTaken =>
      have isTaken := Bool.eq_false_iff.mpr notTaken
      split
      · next failure after isRefused =>
        obtain ⟨path, source, rfl⟩ := createParents_error isRefused
        rw [isRefused] at adds
        exact .failed path source after isTaken adds
      · next between isCreated =>
        rw [isCreated] at adds
        split
        · next failure after isRefused =>
          rw [makeSymlink_error isRefused]
          exact .failed _ failure between isTaken adds
        · next after isMade =>
          obtain ⟨grows, points⟩ := pointsTo_of_makeSymlink isMade
          exact .created after ⟨isBelow, leadsBelow⟩ isTaken (adds.toGrows.trans grows) points
  · unfold createLink
    rw [rejection]
    exact .rejected path rejection

theorem Handled.grows {result : Except LinkError (Option Path)}
    (handled : Handled tree entry result after) : Grows tree after := by
  cases handled with
  | rejected => exact .refl tree
  | skipped => exact .refl tree
  | failed path failure after isFree adds => exact adds.toGrows
  | created after confined isFree grows points => exact grows

theorem PointsTo.isThere (points : PointsTo tree entry) :
    isThere tree (pathOf entry.link) = true := by
  obtain ⟨location, target, isEntry, isLink, -⟩ := points
  unfold LinkCreation.isThere
  rw [isEntry]
  exact Option.isSome_iff_exists.mpr ⟨_, isLink⟩

end Entries

/-! ## All entries -/

section Runs

variable {tree after : FileSystem Bytes} {made created : List Path} {error : LinkError}

theorem createLinksFrom_grows (tree : FileSystem Bytes) (created : List Path)
    (entries : List Link) : Grows tree (createLinksFrom tree created entries).2 := by
  induction entries generalizing tree created with
  | nil => exact .refl tree
  | cons entry rest ih =>
    have grows := (createLink_handled tree entry).grows
    rw [createLinksFrom]
    split
    · next isHandled =>
      rw [isHandled] at grows
      exact grows
    · next isHandled =>
      rw [isHandled] at grows
      exact grows.trans (ih _ _)

variable {entries : List Link}

theorem prefix_of_ok
    (isOk : createLinksFrom tree created entries = (.ok made, after)) : created <+: made := by
  induction entries generalizing tree created with
  | nil =>
    cases isOk
    exact List.prefix_rfl
  | cons entry rest ih =>
    rw [createLinksFrom] at isOk
    split at isOk
    · cases isOk
    · exact (List.prefix_append _ _).trans (ih isOk)

theorem createLinksFrom_split {before rest : List Link} {entry : Link}
    (isOk : createLinksFrom tree created (before ++ entry :: rest) = (.ok made, after)) :
    ∃ between path next listed, (createLinksFrom tree created before).2 = between ∧
      createLink between entry = (.ok path, next) ∧
      createLinksFrom next (listed ++ path.toList) rest = (.ok made, after) := by
  induction before generalizing tree created with
  | nil =>
    rw [List.nil_append, createLinksFrom] at isOk
    split at isOk
    · cases isOk
    · next path next isHandled => exact ⟨tree, path, next, created, rfl, isHandled, isOk⟩
  | cons first before ih =>
    rw [List.cons_append, createLinksFrom] at isOk
    rw [createLinksFrom]
    cases isHandled : createLink tree first with
    | mk result next =>
      rw [isHandled] at isOk
      cases result with
      | error failure => cases isOk
      | ok path => exact ih isOk

theorem createLinksFrom_error
    (isError : createLinksFrom tree created entries = (.error error, after)) :
    ∃ before entry rest listed between, entries = before ++ entry :: rest ∧
      createLinksFrom tree created before = (.ok listed, between) ∧
      createLink between entry = (.error error, after) := by
  induction entries generalizing tree created with
  | nil => cases isError
  | cons entry rest ih =>
    rw [createLinksFrom] at isError
    split at isError
    · next isHandled =>
      cases isError
      exact ⟨[], entry, rest, created, tree, rfl, rfl, isHandled⟩
    · next path next isHandled =>
      obtain ⟨before, other, later, listed, between, rfl, isOk, isRefused⟩ := ih isError
      refine ⟨entry :: before, other, later, listed, between, rfl, ?_, isRefused⟩
      rw [createLinksFrom, isHandled]
      exact isOk

theorem createLinksFrom_of_taken
    (areTaken : ∀ entry ∈ entries, IsConfined entry ∧ isThere tree (pathOf entry.link) = true) :
    createLinksFrom tree created entries = (.ok created, tree) := by
  induction entries with
  | nil => rfl
  | cons entry rest ih =>
    obtain ⟨⟨confined, isTaken⟩, areTaken⟩ := List.forall_mem_cons.mp areTaken
    have isSkipped : createLink tree entry = (.ok none, tree) := by
      simp [createLink, validateLinkPaths, confined.1, confined.2, isTaken]
    rw [createLinksFrom, isSkipped]
    simpa using ih areTaken

theorem entry_of_ok {before rest : List Link} {entry : Link}
    (isOk : createLinksFrom tree created (before ++ entry :: rest) = (.ok made, after)) :
    IsConfined entry ∧ isThere after (pathOf entry.link) = true ∧
    (isThere (createLinksFrom tree created before).2 (pathOf entry.link) = false →
      pathOf entry.link ∈ made ∧ PointsTo after entry) := by
  obtain ⟨between, path, next, listed, rfl, isHandled, isLater⟩ := createLinksFrom_split isOk
  have later := createLinksFrom_grows next (listed ++ path.toList) rest
  have isListed := prefix_of_ok isLater
  have handled := createLink_handled (createLinksFrom tree created before).2 entry
  rw [isLater] at later
  rw [isHandled] at handled
  cases handled with
  | skipped confined isTaken =>
    refine ⟨confined, later.isThere isTaken, fun isFree => ?_⟩
    rw [isTaken] at isFree
    cases isFree
  | created _ confined isFree grows points =>
    have isLast := later.pointsTo points
    refine ⟨confined, isLast.isThere, fun _ => ⟨?_, isLast⟩⟩
    exact isListed.subset (by simp)

theorem confined_of_ok (isOk : createLinksFrom tree created entries = (.ok made, after)) :
    ∀ entry ∈ entries, IsConfined entry ∧ isThere after (pathOf entry.link) = true := by
  intro entry isIn
  obtain ⟨before, rest, rfl⟩ := List.append_of_mem isIn
  exact ⟨(entry_of_ok isOk).1, (entry_of_ok isOk).2.1⟩

end Runs

/-! ## The call as a whole -/

/-- Every link points to its target, or nothing is made; nor is it again. -/
def AllOrNothing (tree : FileSystem Bytes) (links : List Link) : Prop :=
  match createLinks tree links with
  | (.error _, after) => after = tree
  | (.ok _, after) =>
    (∀ entry ∈ links, PointsTo after entry) ∧ createLinks after links = (.ok [], after)

theorem after_of_taken {tree between : FileSystem Bytes} {before : List Link} {made : List Path}
    (isOk : createLinks tree before = (.ok made, between))
    (areTaken : ∀ entry ∈ before, isThere tree (pathOf entry.link) = true) : between = tree := by
  have isSame : createLinks tree before = (.ok [], tree) :=
    createLinksFrom_of_taken fun entry isIn =>
      ⟨(confined_of_ok isOk entry isIn).1, areTaken entry isIn⟩
  exact congrArg Prod.snd (isOk.symm.trans isSame)

/--
Whatever is there stays.  When the call ends well, every link path is there, and
those that were free when their turn came point to their targets; the call
changes nothing when it is made again.  An error of the system leaves what the
entries before it left, and directories at most; a rejection leaves nothing new
behind entries whose link paths were all taken.
-/
theorem createLinks_outcome (tree : FileSystem Bytes) (links : List Link) :
    Extends tree (createLinks tree links).2 ∧
      match createLinks tree links with
      | (.ok made, after) =>
        (∀ before entry rest, links = before ++ entry :: rest →
          IsConfined entry ∧ isThere after (pathOf entry.link) = true ∧
          (isThere (createLinks tree before).2 (pathOf entry.link) = false →
            pathOf entry.link ∈ made ∧ PointsTo after entry)) ∧
          createLinks after links = (.ok [], after)
      | (.error (.io _ _), after) =>
        ∃ before entry rest made, links = before ++ entry :: rest ∧
          (createLinks tree before).1 = .ok made ∧
          isThere (createLinks tree before).2 (pathOf entry.link) = false ∧
          AddsDirectories (createLinks tree before).2 after
      | (.error (.pathTraversal path), after) =>
        ∃ before entry rest, links = before ++ entry :: rest ∧
          validateLinkPaths entry.link entry.target = .error (.pathTraversal path) ∧
          ((∀ earlier ∈ before, isThere tree (pathOf earlier.link) = true) → after = tree) := by
  refine ⟨(createLinksFrom_grows tree [] links).kept, ?_⟩
  cases isRun : createLinks tree links with
  | mk result after =>
    cases result with
    | ok made =>
      refine ⟨?_, createLinksFrom_of_taken (confined_of_ok isRun)⟩
      rintro before entry rest rfl
      exact entry_of_ok isRun
    | error error =>
      obtain ⟨before, entry, rest, listed, between, rfl, isOk, isRefused⟩ :=
        createLinksFrom_error isRun
      have handled := createLink_handled between entry
      rw [isRefused] at handled
      have isBefore : createLinks tree before = (.ok listed, between) := isOk
      cases handled with
      | rejected path rejection =>
        exact ⟨before, entry, rest, rfl, rejection, after_of_taken isBefore⟩
      | failed path failure _ isFree adds =>
        refine ⟨before, entry, rest, listed, rfl, ?_⟩
        rw [isBefore]
        exact ⟨rfl, isFree, adds⟩

/-! ## A path that is taken -/

def fileInRoot (name : String) : FileSystem Unit where
  entries location :=
    if location = [] then some .directory
    else if location = [name] then some (.file ())
    else none
  working := []
  root := rfl
  isWorking := rfl
  parents child parent isIn := by
    by_cases isRoot : parent = [] <;> simp_all

/-- A file is skipped; and below a file an entry fails behind a link made. -/
theorem links_are_partly_made :
    ¬ AllOrNothing (fileInRoot "public") [⟨"public", "storage"⟩] ∧
      ¬ AllOrNothing (fileInRoot "public")
        [⟨"images", "storage"⟩, ⟨"public/storage", "storage"⟩] := by
  constructor
  · have isSkipped :
        createLinks (fileInRoot "public") [⟨"public", "storage"⟩] = (.ok [], fileInRoot "public") :=
      createLinksFrom_of_taken
        (List.forall_mem_singleton.mpr ⟨⟨by decide +kernel, by decide +kernel⟩, by decide +kernel⟩)
    intro points
    rw [AllOrNothing, isSkipped] at points
    obtain ⟨location, target, isEntry, isLink, -⟩ := points.1 _ List.mem_cons_self
    have isAt : symlinkMetadata (fileInRoot "public") (pathOf "public") = .ok ["public"] := by
      decide +kernel
    cases isAt.symm.trans isEntry
    cases isLink
  · have isRun :
        (createLinks (fileInRoot "public")
              [⟨"images", "storage"⟩, ⟨"public/storage", "storage"⟩]).1.isOk =
            false ∧
          ((createLinks (fileInRoot "public")
                [⟨"images", "storage"⟩, ⟨"public/storage", "storage"⟩]).2.entries
              ["images"]).isSome = true := by
      decide +kernel
    intro nothing
    rw [AllOrNothing] at nothing
    split at nothing
    · next isError =>
      rw [isError, nothing] at isRun
      cases isRun.2
    · next isOk =>
      rw [isOk] at isRun
      cases isRun.1

end Rustasea.Storage.LinkCreation
