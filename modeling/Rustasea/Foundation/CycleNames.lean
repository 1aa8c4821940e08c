import Rustasea.Foundation.ProviderOrder

namespace Rustasea.Foundation

open Relation List
open TopologicalSort (Edge Sorting)

/-!
# The cycle of the error

Providers left over by the sort each wait for another one left over, so some of
them wait in a circle.  The search walks the edges from a dependency to its
dependents; its path never repeats a node, and a finished node leads to nodes
finished before it only.  A search that finishes everything would leave the last
node finished without a source, so it comes upon its own path first.
-/

/-- Nodes in a circle: each is related to the next and the last to the first. -/
structure IsCycle (relation : Nat → Nat → Prop) (cycle : List Nat) : Prop where
  nonempty : cycle ≠ []
  distinct : cycle.Nodup
  next : cycle.IsChain relation
  closes : ∀ first ∈ cycle.head?, ∀ last ∈ cycle.getLast?, relation last first

def NamesCycle (providers : List Provider) (relation : Nat → Nat → Prop)
    (names : List String) : Prop :=
  ∃ cycle, IsCycle relation cycle ∧
      cycle.map (fun node => providers[node]?.map Provider.name) = names.map some

/-! ## The search -/

section Search

variable {count : Nat} {edges : Nat → List Nat} {residual : Nat → Bool}

/-- What holds of the search between two nodes. -/
structure Searching
    (count : Nat) (edges : Nat → List Nat) (residual : Nat → Bool) (finished : List Nat)
    (search : Search) : Prop where
  distinct : (finished ++ search.path).Nodup
  inRange : ∀ node ∈ finished ++ search.path, node < count ∧ residual node = true
  onPath : ∀ node, search.onPath node = true ↔ node ∈ search.path
  isDone : ∀ node, search.done node = true ↔ node ∈ finished
  chain : search.path.IsChain fun source target => target ∈ edges source
  behind : ∀ later node earlier, finished = later ++ node :: earlier →
        ∀ target ∈ edges node, residual target = true → target ∈ earlier

/-- What comes of a visit: a circle, or more nodes finished. -/
def Searched (count : Nat) (edges : Nat → List Nat) (residual : Nat → Bool)
    (finished : List Nat) (path : List Nat) (visited : Nat → Prop)
    (outcome : Option (List Nat) × Search) : Prop :=
  match outcome with
  | (some cycle, _) =>
    IsCycle (fun source target => target ∈ edges source) cycle ∧ ∀ node ∈ cycle, node < count
  | (none, after) =>
    ∃ more, Searching count edges residual (more ++ finished) after ∧ after.path = path ∧
          ∀ node, visited node → node ∈ more ++ finished

variable {path : List Nat}

theorem isCycle_drop {relation : Nat → Nat → Prop} {last next : Nat} (distinct : path.Nodup)
    (chain : path.IsChain relation) (isLast : path.getLast? = some last) (isOn : next ∈ path)
    (isEdge : relation last next) : IsCycle relation (path.drop (path.idxOf next)) := by
  have begins : path.idxOf next < path.length := idxOf_lt_length_of_mem isOn
  have shape : path.drop (path.idxOf next) = next :: path.drop (path.idxOf next + 1) := by
    rw [drop_eq_getElem_cons begins, getElem_idxOf begins]
  refine
    { nonempty := by rw [shape]; exact cons_ne_nil _ _
      distinct := distinct.sublist (drop_sublist _ _)
      next := chain.drop _
      closes := ?_ }
  intro first isFirst final isFinal
  obtain rfl : next = first := by simpa [shape] using isFirst
  rw [getLast?_drop, if_neg (Nat.not_le.mpr begins), isLast] at isFinal
  obtain rfl : last = final := Option.some.inj isFinal
  exact isEdge

variable {finished : List Nat} {search : Search} {node : Nat}

theorem Searching.push (searching : Searching count edges residual finished search)
    (inRange : node < count) (isResidual : residual node = true)
    (isNew : node ∉ finished ++ search.path)
    (follows : ∀ last ∈ search.path.getLast?, node ∈ edges last) :
    Searching count edges residual finished
      { search with
        path := search.path ++ [node]
        onPath := Function.update search.onPath node true } where
  distinct := by
    rw [← append_assoc, nodup_append]
    refine ⟨searching.distinct, nodup_singleton _, ?_⟩
    rintro other isOld _ isNode rfl
    exact isNew (mem_singleton.mp isNode ▸ isOld)
  inRange := by
    intro other isOn
    rw [← append_assoc] at isOn
    rcases mem_append.mp isOn with old | isNode
    · exact searching.inRange other old
    · rw [mem_singleton.mp isNode]
      exact ⟨inRange, isResidual⟩
  onPath := by
    intro other
    by_cases same : other = node
    · subst same
      simp
    · dsimp only
      rw [Function.update_of_ne same, searching.onPath]
      simp [same]
  isDone := searching.isDone
  chain := by
    rw [isChain_append]
    refine ⟨searching.chain, isChain_singleton _, ?_⟩
    intro last isLast next isNext
    obtain rfl : node = next := by simpa using isNext
    exact follows last isLast
  behind := searching.behind

/-- A node whose targets are all finished is finished itself. -/
theorem Searching.pop (searching : Searching count edges residual finished search)
    (isPath : search.path = path ++ [node])
    (targets : ∀ target ∈ edges node, residual target = true → target ∈ finished) :
    Searching count edges residual (node :: finished)
      { path := search.path.dropLast
        onPath := Function.update search.onPath node false
        done := Function.update search.done node true } := by
  have popped : search.path.dropLast = path := by rw [isPath, dropLast_concat]
  have distinct := searching.distinct
  rw [isPath, ← append_assoc, nodup_append] at distinct
  obtain ⟨oldDistinct, -, apart⟩ := distinct
  have isNew : node ∉ finished ++ path := fun isOld => apart node isOld node mem_cons_self rfl
  refine
    { distinct := ?distinct
      inRange := ?inRange
      onPath := ?onPath
      isDone := ?isDone
      chain := searching.chain.dropLast
      behind := ?behind }
  case distinct =>
    rw [popped, cons_append, nodup_cons]
    exact ⟨isNew, oldDistinct⟩
  case inRange =>
    intro other isOn
    apply searching.inRange other
    rw [isPath]
    rw [popped] at isOn
    simp only [mem_cons, mem_append] at isOn ⊢
    tauto
  case onPath =>
    intro other
    rw [popped]
    by_cases same : other = node
    · subst same
      simpa using fun isOn => isNew (mem_append_right _ isOn)
    · dsimp only
      rw [Function.update_of_ne same, searching.onPath, isPath]
      simp [same]
  case isDone =>
    intro other
    by_cases same : other = node
    · subst same
      simp
    · dsimp only
      rw [Function.update_of_ne same, searching.isDone]
      simp [same]
  case behind =>
    intro later other earlier shape
    cases later with
    | nil =>
      obtain ⟨rfl, rfl⟩ := List.cons.inj shape
      exact targets
    | cons _ later =>
      obtain ⟨-, rest⟩ := List.cons.inj shape
      exact searching.behind later other earlier rest

variable (visit : Nat → Search → Option (List Nat) × Search) {finished : List Nat} {search : Search}

/-- The loop over the targets of the last node of the path. -/
theorem searchTargets_searched (path : List Nat)
    (isVisit : ∀ next finished search, Searching count edges residual finished search →
      search.path = path ++ [node] → next ∈ edges node → residual next = true →
      next ∉ finished ++ search.path →
      Searched count edges residual finished search.path (· = next) (visit next search))
    (targets : List Nat) (areTargets : ∀ target ∈ targets, target ∈ edges node)
    (searching : Searching count edges residual finished search)
    (isPath : search.path = path ++ [node]) :
    Searched count edges residual finished search.path
      (fun target => target ∈ targets ∧ residual target = true)
      (searchTargets visit residual targets search) := by
  induction targets generalizing finished search with
  | nil => exact ⟨[], searching, rfl, by simp⟩
  | cons next rest ih =>
    have restTargets : ∀ target ∈ rest, target ∈ edges node :=
      fun target isTarget => areTargets target (mem_cons_of_mem _ isTarget)
    have isTarget := areTargets next mem_cons_self
    -- The rest, once the first target needs no visit any more.
    have continued
        {already : List Nat}
        {after : Search}
        (more : List Nat)
        (afterwards : Searching count edges residual (more ++ already) after)
        (samePath : after.path = search.path)
        (settled : residual next = true → next ∈ more ++ already) :
        Searched count edges residual already search.path
          (fun target => target ∈ next :: rest ∧ residual target = true)
          (searchTargets visit residual rest after) := by
      have searched := ih restTargets afterwards (samePath.trans isPath)
      unfold Searched at searched ⊢
      split at searched
      · exact searched
      · obtain ⟨most, final, finalPath, visited⟩ := searched
        refine ⟨most ++ more, by rwa [append_assoc], finalPath.trans samePath, ?_⟩
        rintro target ⟨isIn, isResidual⟩
        rw [append_assoc]
        rcases mem_cons.mp isIn with rfl | inRest
        · exact mem_append_right _ (settled isResidual)
        · exact visited target ⟨inRest, isResidual⟩
    unfold searchTargets
    split
    · next skipped =>
      refine continued [] searching rfl fun isResidual => ?_
      rw [isResidual, Bool.not_true] at skipped
      exact (searching.isDone next).mp skipped
    · next fresh =>
      simp only [Bool.or_eq_true, Bool.not_eq_true', not_or, Bool.not_eq_false] at fresh
      obtain ⟨isResidual, notDone⟩ := fresh
      rw [searching.isDone] at notDone
      split
      · next isOn =>
        rw [searching.onPath] at isOn
        refine ⟨?_, fun other isOther => ?_⟩
        · have isLast : search.path.getLast? = some node := by rw [isPath, getLast?_concat]
          exact isCycle_drop (nodup_append.mp searching.distinct).2.1
            searching.chain isLast isOn isTarget
        · exact (searching.inRange other (mem_append_right _ (mem_of_mem_drop isOther))).1
      · next notOn =>
        rw [searching.onPath] at notOn
        have isNew : next ∉ finished ++ search.path := by
          rw [mem_append, not_or]
          exact ⟨notDone, notOn⟩
        have visited := isVisit next finished search searching isPath isTarget isResidual isNew
        generalize visit next search = outcome at visited ⊢
        rcases outcome with ⟨_ | cycle, after⟩
        · obtain ⟨more, afterwards, samePath, isFinished⟩ := visited
          exact continued more afterwards samePath fun _ => isFinished next rfl
        · exact visited

/-- A visit to a node, with depth enough for all nodes not on the path. -/
theorem findCycle_searched (inBounds : ∀ source < count, ∀ target ∈ edges source, target < count)
    (depth : Nat) (node : Nat) (searching : Searching count edges residual finished search)
    (inRange : node < count) (isResidual : residual node = true)
    (isNew : node ∉ finished ++ search.path)
    (follows : ∀ last ∈ search.path.getLast?, node ∈ edges last)
    (enough : count < search.path.length + depth) :
    Searched count edges residual finished search.path (· = node)
      (findCycle edges residual depth node search) := by
  induction depth generalizing node finished search with
  | zero =>
    -- A path without repetitions is no longer than there are nodes.
    have within : search.path.toFinset ⊆ Finset.range count := by
      intro other isOn
      rw [mem_toFinset] at isOn
      exact Finset.mem_range.mpr (searching.inRange other (mem_append_right _ isOn)).1
    have bounded := Finset.card_le_card within
    rw [toFinset_card_of_nodup (nodup_append.mp searching.distinct).2.1,
      Finset.card_range] at bounded
    omega
  | succ depth ih =>
    have pushed := searching.push inRange isResidual isNew follows
    have searched := searchTargets_searched (findCycle edges residual depth) search.path
        (fun next already below searchingBelow isPath isTarget nextResidual
            nextNew =>
          ih next searchingBelow (inBounds node inRange next isTarget) nextResidual nextNew
            (fun last isLast => by
              rw [isPath, getLast?_concat] at isLast
              obtain rfl : node = last := Option.some.inj isLast
              exact isTarget)
            (by
              rw [isPath, length_append, length_singleton]
              omega))
        (edges node) (fun _ isTarget => isTarget) pushed rfl
    unfold findCycle
    generalize
      searchTargets (findCycle edges residual depth) residual (edges node)
        { search with
          path := search.path ++ [node]
          onPath := Function.update search.onPath node true } =
        outcome at searched ⊢
    rcases outcome with ⟨_ | cycle, after⟩
    · obtain ⟨more, afterwards, samePath, visited⟩ := searched
      refine ⟨node :: more,
          afterwards.pop samePath fun target isTarget targetResidual =>
            visited target ⟨isTarget, targetResidual⟩, ?_, ?_⟩
      · rw [samePath, dropLast_concat]
      · rintro other rfl
        exact mem_cons_self
    · exact searched

theorem searchTargets_of_settled {targets : List Nat} (search : Search)
    (settled : ∀ target ∈ targets, residual target = true → search.done target = true) :
    searchTargets visit residual targets search = (none, search) := by
  induction targets with
  | nil => rfl
  | cons next rest ih =>
    have skipped : (!residual next || search.done next) = true := by
      cases isResidual : residual next with
      | false => rfl
      | true =>
        rw [settled next mem_cons_self isResidual]
        rfl
    rw [searchTargets, if_pos skipped]
    exact ih fun target inRest => settled target (mem_cons_of_mem _ inRest)

/-- A root that is finished already is left again at once. -/
theorem findCycle_finished (searching : Searching count edges residual finished search)
    (isRoot : search.path = []) (isFinished : node ∈ finished) (depth : Nat) :
    ∃ after, findCycle edges residual (depth + 1) node search = (none, after) ∧ after.path = [] ∧
      Searching count edges residual finished after := by
  obtain ⟨later, earlier, shape⟩ := append_of_mem isFinished
  have settled : ∀ target ∈ edges node, residual target = true → search.done target = true := by
    intro target isTarget isResidual
    rw [searching.isDone, shape]
    apply mem_append_right
    exact mem_cons_of_mem _
      (searching.behind later node earlier shape target isTarget isResidual)
  have passed := searchTargets_of_settled (findCycle edges residual depth)
      { search with
        path := search.path ++ [node]
        onPath := Function.update search.onPath node true }
      settled
  rw [findCycle, passed, isRoot]
  refine ⟨_, rfl, rfl, ?_⟩
  have distinct := searching.distinct
  have inRange := searching.inRange
  rw [isRoot] at distinct inRange
  refine
    { distinct := distinct
      inRange := inRange
      onPath := ?onPath
      isDone := ?isDone
      chain := isChain_nil
      behind := searching.behind }
  case onPath =>
    intro other
    have offPath := searching.onPath other
    rw [isRoot] at offPath
    by_cases same : other = node
    · subst same
      simp
    · simpa [same] using offPath
  case isDone =>
    intro other
    by_cases same : other = node
    · subst same
      simp [isFinished]
    · simpa [same] using searching.isDone other

/-- The roots tried in turn find a circle, or every one of them is finished. -/
theorem firstCycle_searched (inBounds : ∀ source < count, ∀ target ∈ edges source, target < count)
    (candidates : List Nat) (areNodes : ∀ candidate ∈ candidates, candidate < count)
    (searching : Searching count edges residual finished search) (isRoot : search.path = []) :
    (∃ cycle, firstCycle edges residual count candidates search = some cycle ∧
      IsCycle (fun source target => target ∈ edges source) cycle ∧ ∀ node ∈ cycle, node < count) ∨
    ∃ more after, Searching count edges residual (more ++ finished) after ∧
      ∀ candidate ∈ candidates, residual candidate = true → candidate ∈ more ++ finished := by
  induction candidates generalizing finished search with
  | nil => exact .inr ⟨[], search, searching, by simp⟩
  | cons candidate rest ih =>
    have restNodes : ∀ other ∈ rest, other < count :=
      fun other inRest => areNodes other (mem_cons_of_mem _ inRest)
    unfold firstCycle
    by_cases isResidual : residual candidate = true
    · rw [if_pos isResidual]
      by_cases isFinished : candidate ∈ finished
      · obtain ⟨after, same, root, afterwards⟩ :=
          findCycle_finished searching isRoot isFinished count
        rw [same]
        rcases ih restNodes afterwards root with found | ⟨more, final, searched, isIn⟩
        · exact .inl found
        · refine .inr ⟨more, final, searched, fun other isOther both => ?_⟩
          rcases mem_cons.mp isOther with rfl | inRest
          · exact mem_append_right _ isFinished
          · exact isIn other inRest both
      · have searched := findCycle_searched inBounds (count + 1) candidate searching
            (areNodes candidate mem_cons_self) isResidual
            (by simpa [isRoot] using isFinished) (by simp [isRoot])
            (by omega)
        generalize findCycle edges residual (count + 1) candidate search = outcome at searched ⊢
        rcases outcome with ⟨_ | cycle, after⟩
        · obtain ⟨more, afterwards, samePath, visited⟩ := searched
          rcases ih restNodes afterwards
              (samePath.trans isRoot) with
            found | ⟨most, final, searched, isIn⟩
          · exact .inl found
          · rw [← append_assoc] at searched isIn
            refine .inr ⟨most ++ more, final, searched, fun other isOther both => ?_⟩
            rcases mem_cons.mp isOther with rfl | inRest
            · rw [append_assoc]
              exact mem_append_right _ (visited _ rfl)
            · exact isIn other inRest both
        · exact .inl ⟨cycle, rfl, searched⟩
    · rw [if_neg isResidual]
      rcases ih restNodes searching isRoot with found | ⟨more, after, afterwards, isFinished⟩
      · exact .inl found
      · refine .inr ⟨more, after, afterwards, fun other isOther both => ?_⟩
        rcases mem_cons.mp isOther with rfl | inRest
        · exact absurd both isResidual
        · exact isFinished other inRest both

/-- Nodes that all wait for another one of them contain a circle. -/
theorem firstCycle_isCycle (inBounds : ∀ source < count, ∀ target ∈ edges source, target < count)
    (waits : ∀ node < count,
        residual node = true → ∃ source < count, residual source = true ∧ node ∈ edges source)
    {node : Nat} (inRange : node < count) (isResidual : residual node = true) :
    ∃ cycle,
      firstCycle edges residual count (List.range count)
          { path := [], onPath := fun _ => false, done := fun _ => false } =
          some cycle ∧
        IsCycle (fun source target => target ∈ edges source) cycle ∧
          ∀ node ∈ cycle, node < count := by
  have start : Searching count edges residual []
      { path := [], onPath := fun _ => false, done := fun _ => false } :=
    { distinct := nodup_nil
      inRange := by simp
      onPath := by simp
      isDone := by simp
      chain := isChain_nil
      behind := by simp }
  rcases firstCycle_searched inBounds (List.range count)
      (fun _ => mem_range.mp) start rfl with
    found | ⟨finished, after, searching, isFinished⟩
  · exact found
  · rw [append_nil] at searching isFinished
    have everyone (other : Nat) (low : other < count)
        (left : residual other = true) : other ∈ finished :=
      isFinished other (mem_range.mpr low) left
    cases finished with
    | nil => exact absurd (everyone node inRange isResidual) not_mem_nil
    | cons last earlier =>
      -- The last one finished waits for one finished before it.
      obtain ⟨lastRange, lastResidual⟩ :=
        searching.inRange last (mem_append_left _ mem_cons_self)
      obtain ⟨source, sourceRange, sourceResidual, isEdge⟩ := waits last lastRange lastResidual
      obtain ⟨front, behind, shape⟩ :=
        append_of_mem (everyone source sourceRange sourceResidual)
      have isBehind := searching.behind front source behind shape last isEdge lastResidual
      have distinct : (last :: earlier).Nodup := (nodup_append.mp searching.distinct).1
      cases front with
      | nil =>
        obtain ⟨rfl, rfl⟩ := List.cons.inj shape
        exact absurd isBehind (nodup_cons.mp distinct).1
      | cons _ front =>
        obtain ⟨-, rest⟩ := List.cons.inj shape
        have inEarlier : last ∈ earlier := by
          rw [rest]
          exact mem_append_right _ (mem_cons_of_mem _ isBehind)
        exact absurd inEarlier (nodup_cons.mp distinct).1

end Search

/-! ## What the sort leaves over -/

/-- The sort of a dependency graph, as far as it gets. -/
def Graph.sort (count : Nat) (graph : Graph) : TopologicalSort.Progress :=
  TopologicalSort.kahn graph.edges count
    { order := []
      ready := (List.range count).filter fun node => graph.indegree node = 0
      indegree := graph.indegree }

/-- The cycle found among the providers that the sort leaves over. -/
def Graph.foundCycle (count : Nat) (graph : Graph) : Option (List Nat) :=
  firstCycle graph.edges (fun node => 0 < (graph.sort count).indegree node)
    count (List.range count)
    { path := [], onPath := fun _ => false, done := fun _ => false }

variable {graph : Graph}

theorem Graph.foundCycle_isCycle {count : Nat} (linked : Linked count graph)
    (inBounds : ∀ source < count, ∀ target ∈ graph.edges source, target < count)
    (stuck : (graph.sort count).order.length ≠ count) :
    ∃ cycle, graph.foundCycle count = some cycle ∧
      IsCycle (fun source target => target ∈ graph.edges source) cycle ∧
      ∀ node ∈ cycle, node < count := by
  have start := TopologicalSort.sorting_start fun node _ => linked node
  obtain ⟨sorting, finished⟩ := start.kahn inBounds (Nat.le_of_eq (Nat.zero_add _).symm)
  have emitted : ∀ node ∈ (graph.sort count).order, (graph.sort count).indegree node = 0 :=
    start.emitted_kahn inBounds (by simp) count
  -- What is left over is what still has an incoming edge.
  have leftOver (node : Nat) (inRange : node < count) :
      decide (0 < (graph.sort count).indegree node) = true ↔ node ∉ (graph.sort count).order := by
    rw [decide_eq_true_eq]
    constructor
    · intro positive isEmitted
      rw [emitted node isEmitted] at positive
      exact Nat.lt_irrefl _ positive
    · intro isLeft
      by_contra zero
      have isReady := (sorting.isReady node inRange isLeft).mpr (Nat.eq_zero_of_not_pos zero)
      rw [finished] at isReady
      exact absurd isReady not_mem_nil
  obtain ⟨node, inRange, isLeft⟩ := sorting.exists_leftOver stuck
  refine firstCycle_isCycle inBounds ?_ inRange ((leftOver node inRange).mpr isLeft)
  intro other otherRange otherLeft
  obtain ⟨source, isEdge, sourceLeft⟩ :=
    sorting.exists_source finished otherRange ((leftOver other otherRange).mp otherLeft)
  exact ⟨source, isEdge.1, (leftOver source isEdge.1).mpr sourceLeft, isEdge.2.2⟩

variable {providers : List Provider}

theorem filterMap_names {nodes : List Nat} (inRange : ∀ node ∈ nodes, node < providers.length) :
    nodes.map (fun node => providers[node]?.map Provider.name) =
      (nodes.filterMap fun node => providers[node]?.map Provider.name).map some := by
  induction nodes with
  | nil => rfl
  | cons node rest ih =>
    have isIn := inRange node mem_cons_self
    have isThere : providers[node]? = some providers[node] := getElem?_eq_getElem isIn
    rw [map_cons, filterMap_cons, isThere,
      ih fun other inRest => inRange other (mem_cons_of_mem _ inRest)]
    rfl

theorem topologicalOrder_stuck
    (built : addProviders (providerIndex providers) 0 providers Graph.empty = .ok graph)
    (linked : Linked providers.length graph)
    (edges : ∀ source target, target ∈ graph.edges source ↔ DependsOn providers source target)
    (stuck : (graph.sort providers.length).order.length ≠ providers.length) :
    ∃ cycle, graph.foundCycle providers.length = some cycle ∧ IsCycle (DependsOn providers) cycle ∧
      (∀ node ∈ cycle, node < providers.length) ∧
      topologicalOrder providers = .error
          (.dependencyCycle (cycle.filterMap fun node => providers[node]?.map Provider.name)) := by
  have inBounds :
      ∀ source < providers.length, ∀ target ∈ graph.edges source, target < providers.length :=
    fun source _ target isEdge => ((edges source target).mp isEdge).lt.2
  obtain ⟨cycle, found, isCycle, inRange⟩ := Graph.foundCycle_isCycle linked inBounds stuck
  have sameEdges : (fun source target => target ∈ graph.edges source) = DependsOn providers := by
    funext source target
    exact propext (edges source target)
  rw [sameEdges] at isCycle
  refine ⟨cycle, found, isCycle, inRange, ?_⟩
  have named : cycleNames providers graph.edges (graph.sort providers.length).indegree =
        (((graph.foundCycle providers.length).getD
          ((List.range providers.length).filter fun node =>
            0 < (graph.sort providers.length).indegree node)).filterMap
              fun node => providers[node]?.map Provider.name) :=
    rfl
  rw [found, Option.getD_some] at named
  rw [topologicalOrder, built, ← named]
  exact if_neg stuck

theorem topologicalOrder_done
    (built : addProviders (providerIndex providers) 0 providers Graph.empty = .ok graph)
    (done : (graph.sort providers.length).order.length = providers.length) :
    topologicalOrder providers = .ok (graph.sort providers.length).order := by
  rw [topologicalOrder, built]
  exact if_pos done

theorem isCycle_self {relation : Nat → Nat → Prop} {node : Nat} (self : relation node node) :
    IsCycle relation [node] where
  nonempty := cons_ne_nil _ _
  distinct := nodup_singleton _
  next := isChain_singleton _
  closes := by
    intro first isFirst last isLast
    obtain rfl : node = first := by simpa using isFirst
    obtain rfl : node = last := by simpa using isLast
    exact self

/--
The names of a cycle error are those of a circle of providers, each a dependency
of the next one and the last a dependency of the first; known providers in a
circle raise that error, and a stuck sort finds a circle for it.
-/
theorem topologicalOrder_cycle (providers : List Provider) :
    (∀ names, topologicalOrder providers = .error (.dependencyCycle names) →
      NamesCycle providers (DependsOn providers) names) ∧
    (KnowsAll providers → (∃ node, TransGen (DependsOn providers) node node) →
      ∃ names, topologicalOrder providers = .error (.dependencyCycle names)) ∧
    ∀ graph, addProviders (providerIndex providers) 0 providers Graph.empty = .ok graph →
      (graph.sort providers.length).order.length ≠ providers.length →
      (graph.foundCycle providers.length).isSome = true := by
  rcases graph_cases providers with
    ⟨graph, built, linked, edges, resolved⟩ | ⟨error, failed, reason⟩
  · have stuckCycle := topologicalOrder_stuck built linked edges
    refine ⟨fun names isError => ?_, fun _ ⟨node, circle⟩ => ?_, fun other isBuilt stuck => ?_⟩
    · by_cases done : (graph.sort providers.length).order.length = providers.length
      · rw [topologicalOrder_done built done] at isError
        cases isError
      · obtain ⟨cycle, -, isCycle, inRange, isStuck⟩ := stuckCycle done
        rw [isStuck, Except.error.injEq, BootError.dependencyCycle.injEq] at isError
        subst isError
        exact ⟨cycle, isCycle, filterMap_names inRange⟩
    · by_cases done : (graph.sort providers.length).order.length = providers.length
      · have ok := topologicalOrder_done built done
        exact absurd circle (acyclic_of_topologicalOrder ok node)
      · obtain ⟨cycle, -, -, -, isStuck⟩ := stuckCycle done
        exact ⟨_, isStuck⟩
    · obtain rfl : graph = other := Except.ok.inj (built.symm.trans isBuilt)
      obtain ⟨cycle, found, -⟩ := stuckCycle stuck
      rw [found]
      rfl
  · have isError : topologicalOrder providers = .error error := by rw [topologicalOrder, failed]
    refine ⟨fun names isCycleError => ?_, fun known _ => ?_, fun graph built _ => ?_⟩
    · obtain rfl : error = .dependencyCycle names :=
        Except.error.inj (isError.symm.trans isCycleError)
      rcases reason with ⟨-, _, _, isOther⟩ | ⟨node, provider, self, atNode, isSelf⟩
      · cases isOther
      · obtain rfl := BootError.dependencyCycle.inj isSelf
        exact ⟨[node], isCycle_self self, by simp [atNode]⟩
    · rcases reason with ⟨unknown, -⟩ | ⟨_, _, _, _, isSelf⟩
      · exact absurd ((resolves_iff providers).mpr known) unknown
      · exact ⟨_, isSelf ▸ isError⟩
    · rw [failed] at built
      cases built

/-- Three providers in a circle: each depends on the one before it. -/
def circle : List Provider := [.mk "A" ["C"] [], .mk "B" ["A"] [], .mk "C" ["B"] []]

theorem topologicalOrder_cycle_three :
    (∃ names, topologicalOrder circle = .error (.dependencyCycle names)) ∧
    NamesCycle circle (DependsOn circle) ["A", "B", "C"] := by
  have isError : topologicalOrder circle = .error (.dependencyCycle ["A", "B", "C"]) := by
    decide +kernel
  exact ⟨⟨_, isError⟩, (topologicalOrder_cycle circle).1 _ isError⟩

/-- The provider named first does not depend on the one named next. -/
theorem circle_not_forward :
    topologicalOrder circle = .error (.dependencyCycle ["A", "B", "C"]) ∧
    ¬NamesCycle circle (fun node next => DependsOn circle next node) ["A", "B", "C"] := by
  refine ⟨by decide +kernel, ?_⟩
  rintro ⟨cycle, isCycle, named⟩
  rcases cycle with _ | ⟨first, _ | ⟨second, rest⟩⟩
  · simp at named
  · simp at named
  · rw [map_cons, map_cons, map_cons, map_cons,
      List.cons.injEq, List.cons.injEq] at named
    obtain ⟨firstName, secondName, -⟩ := named
    obtain ⟨provider, atFirst, dependency, declared, resolved⟩ :=
      (isChain_cons_cons.mp isCycle.next).1
    have firstIs : provider = .mk "A" ["C"] [] := by
      rw [atFirst] at firstName
      have isMember := mem_of_getElem? atFirst
      simp only [circle, mem_cons, not_mem_nil, or_false] at isMember
      rcases isMember with rfl | rfl | rfl
      · rfl
      all_goals exact absurd firstName (by decide)
    subst firstIs
    obtain rfl : dependency = "C" := mem_singleton.mp declared
    have isThird : providerIndex circle "C" = some 2 := by decide +kernel
    obtain rfl : 2 = second := Option.some.inj (isThird.symm.trans resolved)
    exact absurd secondName (by decide)

end Rustasea.Foundation
