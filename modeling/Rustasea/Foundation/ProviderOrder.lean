import Rustasea.Foundation.Application

namespace Rustasea.Foundation

open Relation List
open TopologicalSort (Edge Sorting missing)

/-!
# What a boot calls, and in which order

The dependency graph built from the declared names is the relation the claimed
order is about: it has an order exactly when every name resolves and no provider
depends on itself through others.  A boot that finds the order calls every
provider it started with once in each phase; the providers that `register` adds
are overwritten.
-/

/-- The provider at `target` declares a name that resolves to `source`. -/
def DependsOn (providers : List Provider) (source target : Nat) : Prop :=
  ∃ provider, providers[target]? = some provider ∧
      ∃ dependency ∈ provider.dependencies, providerIndex providers dependency = some source

def Resolves (providers : List Provider) : Prop :=
  ∀ provider ∈ providers,
    ∀ dependency ∈ provider.dependencies, (providerIndex providers dependency).isSome = true

/-- Every declared name resolves, and no provider depends on itself. -/
def Orderable (providers : List Provider) : Prop :=
  Resolves providers ∧ ∀ node, ¬ TransGen (DependsOn providers) node node

/-! ## The lookup -/

variable {index : String → Option Nat}

theorem orInsert_some {key query : String} {value found : Nat}
    (isFound : orInsert key value index query = some found) :
    index query = some found ∨ found = value := by
  unfold orInsert at isFound
  split at isFound
  · exact .inl isFound
  · by_cases same : query = key
    · subst same
      rw [Function.update_self, Option.some.injEq] at isFound
      exact .inr isFound.symm
    · rw [Function.update_of_ne same] at isFound
      exact .inl isFound

variable {providers : List Provider}

theorem providerIndexFrom_some {position : Nat} {bound : Nat}
    (below : position + providers.length ≤ bound)
    (indexBelow : ∀ query found, index query = some found → found < bound)
    {query : String} {found : Nat}
    (isFound : providerIndexFrom position providers index query = some found) : found < bound := by
  induction providers generalizing position index with
  | nil => exact indexBelow query found isFound
  | cons provider rest ih =>
    rw [length_cons] at below
    apply ih (by omega) ?_ isFound
    intro other value isValue
    rcases orInsert_some isValue with inserted | rfl
    · rcases orInsert_some inserted with old | rfl
      · exact indexBelow other value old
      · omega
    · omega

theorem providerIndex_lt {query : String} {found : Nat}
    (isFound : providerIndex providers query = some found) : found < providers.length := by
  apply providerIndexFrom_some (Nat.le_of_eq (Nat.zero_add _)) ?_ isFound
  intro other value isValue
  simp at isValue

/-! ## The graph -/

def Linked (count : Nat) (graph : Graph) : Prop :=
  ∀ node, graph.indegree node = missing count graph.edges [] node

variable {graph : Graph}

theorem Linked.link {count dependency : Nat} (linked : Linked count graph)
    (inRange : dependency < count) (node : Nat) : Linked count (graph.link dependency node) := by
  intro other
  rw [Graph.link, TopologicalSort.missing_link graph.edges inRange, ← linked other]
  by_cases same : other = node
  · subst same
    simp
  · dsimp only
    rw [Function.update_of_ne same, count_singleton, if_neg (by simpa using Ne.symm same)]
    rfl

theorem mem_edges_link {dependency node : Nat} {source target : Nat} :
    target ∈ (graph.link dependency node).edges source ↔
      target ∈ graph.edges source ∨ (target = node ∧ source = dependency) := by
  by_cases same : source = dependency
  · subst same
    simp [Graph.link]
  · simp [Graph.link, same]

variable {count : Nat} {indexOf : String → Option Nat}

/--
The dependencies of one provider are all linked, or one of them is unknown or
the provider itself.
-/
theorem addDependencies_cases (below : ∀ query found, indexOf query = some found → found < count)
    (name : String) (node : Nat) (dependencies : List String) (linked : Linked count graph) :
    (∃ after, addDependencies indexOf name node dependencies graph = .ok after ∧
      Linked count after ∧
      (∀ source target, target ∈ after.edges source ↔
          target ∈ graph.edges source ∨
          (target = node ∧ ∃ dependency ∈ dependencies, indexOf dependency = some source)) ∧
      ∀ dependency ∈ dependencies, (indexOf dependency).isSome = true) ∨
    ∃ error, addDependencies indexOf name node dependencies graph = .error error ∧
      ∃ dependency ∈ dependencies,
        (indexOf dependency = none ∧ error = .unknownDependency name dependency) ∨
        (indexOf dependency = some node ∧ error = .dependencyCycle [name]) := by
  induction dependencies generalizing graph with
  | nil =>
    left
    exact ⟨graph, rfl, linked, by simp, by simp⟩
  | cons dependency rest ih =>
    unfold addDependencies
    split
    · next unknown =>
      right
      exact ⟨_, rfl, dependency, mem_cons_self, .inl ⟨unknown, rfl⟩⟩
    · next dependencyIndex known =>
      split
      · next self =>
        right
        exact ⟨_, rfl, dependency, mem_cons_self, .inr ⟨self ▸ known, rfl⟩⟩
      · rcases ih
            (linked.link (below dependency _ known) node) with
          ⟨after, ok, afterLinked, edges, resolved⟩ | ⟨error, failed, other, inRest, reason⟩
        · left
          refine ⟨after, ok, afterLinked, ?_, ?_⟩
          · intro source target
            rw [edges source target, mem_edges_link, exists_mem_cons_iff, known,
              Option.some.injEq, or_assoc, ← and_or_left]
            simp [eq_comm]
          · intro other inList
            rcases mem_cons.mp inList with rfl | inRest
            · rw [known]
              rfl
            · exact resolved other inRest
        · right
          exact ⟨error, failed, other, mem_cons_of_mem _ inRest, reason⟩

theorem addProviders_cases (below : ∀ query found, indexOf query = some found → found < count)
    (position : Nat) (providers : List Provider) (linked : Linked count graph) :
    (∃ after, addProviders indexOf position providers graph = .ok after ∧ Linked count after ∧
      (∀ source target, target ∈ after.edges source ↔
          target ∈ graph.edges source ∨
          ∃ offset provider, target = position + offset ∧ providers[offset]? = some provider ∧
            ∃ dependency ∈ provider.dependencies, indexOf dependency = some source) ∧
      ∀ provider ∈ providers, ∀ dependency ∈ provider.dependencies,
        (indexOf dependency).isSome = true) ∨
    ∃ error, addProviders indexOf position providers graph = .error error ∧
      ∃ offset provider, providers[offset]? = some provider ∧
        ∃ dependency ∈ provider.dependencies,
          (indexOf dependency = none ∧ error = .unknownDependency provider.name dependency) ∨
          (indexOf dependency = some (position + offset) ∧
            error = .dependencyCycle [provider.name]) := by
  induction providers generalizing position graph with
  | nil =>
    left
    exact ⟨graph, rfl, linked, by simp, by simp⟩
  | cons provider rest ih =>
    unfold addProviders
    rcases addDependencies_cases below provider.name position
        provider.dependencies linked with
      ⟨between, ok, betweenLinked, edges, resolved⟩ | ⟨error, failed, dependency, declared, reason⟩
    · rw [ok]
      rcases ih (position + 1) betweenLinked with
        ⟨after, restOk, afterLinked, restEdges, restResolved⟩ |
          ⟨error, failed, offset, other, atOffset, reason⟩
      · left
        refine ⟨after, restOk, afterLinked, ?_, ?_⟩
        · intro source target
          rw [restEdges source target, edges source target, or_assoc]
          refine or_congr_right ?_
          constructor
          · rintro (⟨rfl, declares⟩ |
              ⟨offset, other, rfl, atOffset, declares⟩)
            · exact ⟨0, provider, rfl, rfl, declares⟩
            · exact ⟨offset + 1, other, by omega, by simpa using atOffset, declares⟩
          · rintro ⟨offset, other, rfl, atOffset, declares⟩
            cases offset with
            | zero =>
              obtain rfl : provider = other := by simpa using atOffset
              exact .inl ⟨rfl, declares⟩
            | succ offset => exact .inr ⟨offset, other, by omega, by simpa using atOffset, declares⟩
        · intro other inList
          rcases mem_cons.mp inList with rfl | inRest
          · exact resolved
          · exact restResolved other inRest
      · right
        refine ⟨error, failed, offset + 1, other, by simpa using atOffset, ?_⟩
        rwa [Nat.add_right_comm] at reason
    · rw [failed]
      right
      exact ⟨error, rfl, 0, provider, rfl, dependency, declared, reason⟩

theorem graph_cases (providers : List Provider) :
    (∃ graph, addProviders (providerIndex providers) 0 providers Graph.empty = .ok graph ∧
      Linked providers.length graph ∧
      (∀ source target, target ∈ graph.edges source ↔ DependsOn providers source target) ∧
      Resolves providers) ∨
    ∃ error, addProviders (providerIndex providers) 0 providers Graph.empty = .error error ∧
      ((¬ Resolves providers ∧
          ∃ provider dependency, error = .unknownDependency provider dependency) ∨
        ∃ node provider, DependsOn providers node node ∧ providers[node]? = some provider ∧
          error = .dependencyCycle [provider.name]) := by
  have empty : Linked providers.length Graph.empty := by
    intro node
    simp [Graph.empty, missing]
  rcases addProviders_cases (fun _ _ => providerIndex_lt) 0 providers
      empty with
    ⟨graph, ok, linked, edges, resolved⟩ |
      ⟨error, failed, offset, provider, atOffset, dependency, declared, reason⟩
  · left
    refine ⟨graph, ok, linked, ?_, resolved⟩
    intro source target
    rw [edges source target]
    simp [Graph.empty, DependsOn]
  · right
    refine ⟨error, failed, ?_⟩
    rcases reason with ⟨unknown, isError⟩ | ⟨self, isError⟩
    · refine .inl ⟨fun resolves => ?_, _, _, isError⟩
      have isSome := resolves provider (mem_of_getElem? atOffset) dependency declared
      rw [unknown] at isSome
      simp at isSome
    · rw [Nat.zero_add] at self
      exact .inr
        ⟨offset, provider, ⟨provider, atOffset, dependency, declared, self⟩, atOffset, isError⟩

theorem DependsOn.lt {source target : Nat} (depends : DependsOn providers source target) :
    source < providers.length ∧ target < providers.length := by
  obtain ⟨provider, atTarget, dependency, -, resolved⟩ := depends
  exact ⟨providerIndex_lt resolved, (List.getElem?_eq_some_iff.mp atTarget).1⟩

/-- What the sort makes of the declared dependencies. -/
theorem topologicalOrder_cases (providers : List Provider) :
    (Orderable providers ∧ ∃ order,
      topologicalOrder providers = .ok order ∧ order.Nodup ∧
      (∀ position, position ∈ order ↔ position < providers.length) ∧
      (∀ source target, DependsOn providers source target →
        order.idxOf source < order.idxOf target) ∧
      ∀ other : List Nat,
      other.Perm (List.range providers.length) →
      (∀ source target, DependsOn providers source target →
        other.idxOf source < other.idxOf target) →
      ¬other < order) ∨
    (¬ Orderable providers ∧ ∃ error, topologicalOrder providers = .error error) := by
  unfold topologicalOrder
  rcases graph_cases providers with ⟨graph, ok, linked, edges, resolved⟩ | ⟨error, failed, reason⟩
  · have targets :
        ∀ source < providers.length, ∀ node ∈ graph.edges source, node < providers.length :=
      fun source _ node isEdge => ((edges source node).mp isEdge).lt.2
    have sameEdges : Edge providers.length graph.edges = DependsOn providers := by
      funext source target
      apply propext
      constructor
      · rintro ⟨-, -, isEdge⟩
        exact (edges source target).mp isEdge
      · intro depends
        exact ⟨depends.lt.1, depends.lt.2, (edges source target).mpr depends⟩
    have start := TopologicalSort.sorting_start fun node _ => linked node
    obtain ⟨sorting, finished⟩ := start.kahn targets (Nat.le_of_eq (Nat.zero_add _).symm)
    have least := start.leastFirst_kahn targets
        (fun earlier node later shape => by simp at shape) providers.length
    have complete := sorting.length_eq_iff finished
    rw [sameEdges] at complete
    rw [ok]
    dsimp only
    split
    · next isComplete =>
      left
      have distinct := (nodup_append.mp sorting.distinct).1
      have members (position : Nat) : position ∈ (TopologicalSort.kahn graph.edges providers.length
              { order := []
                ready := (List.range providers.length).filter fun node => graph.indegree node = 0
                indegree := graph.indegree }).order ↔
          position < providers.length := by
        constructor
        · intro emitted
          exact sorting.inRange position (mem_append_left _ emitted)
        · exact sorting.mem_of_length_eq isComplete
      refine ⟨⟨resolved, complete.mp isComplete⟩, _, rfl, distinct, members, ?_, ?_⟩
      · intro source target depends
        rw [← sameEdges] at depends
        exact sorting.idxOf_lt depends (sorting.mem_of_length_eq isComplete depends.2.1)
      · intro other isOther ordered
        rw [← sameEdges] at ordered
        refine least.not_lt ?_ isOther ordered
        rw [perm_ext_iff_of_nodup distinct nodup_range]
        exact fun position => (members position).trans mem_range.symm
    · next incomplete =>
      right
      exact ⟨fun orderable => incomplete (complete.mpr orderable.2), _, rfl⟩
  · rw [failed]
    refine .inr ⟨?_, error, rfl⟩
    rintro ⟨resolves, acyclic⟩
    rcases reason with ⟨unknown, -⟩ | ⟨node, provider, self, -⟩
    · exact unknown resolves
    · exact acyclic node (TransGen.single self)

/-! ## What a boot calls -/

namespace Application

def calls (phase : Phase) (app : Application) : List Nat :=
  app.log.filterMap fun event =>
    if event.phase = phase then some event.position else none

/--
Every provider that ever joined was called once in each phase, all `register`
calls first, dependencies before dependents, and the application still has it.
-/
structure BootedAll (app : Application) : Prop where
  once : ∀ phase, ∀ position < app.joined.length, (app.calls phase).count position = 1
  phases : app.log = (app.calls .register).map (Event.mk .register) ++
        (app.calls .boot).map (Event.mk .boot)
  dependencies : ∀ phase source target, DependsOn app.joined source target →
        (app.calls phase).idxOf source < (app.calls phase).idxOf target
  kept : app.providers = app.joined

/-- The boot finds a config loader: its own, or one a caller has bound. -/
def Mounts (configBound : Bool) (loader : Except String Unit) : Prop :=
  configBound = true ∨ loader = .ok ()

theorem foldl_provider (added : List Provider) (app : Application) :
    added.foldl (fun app provider => app.provider provider) app =
      { app with
        providers := app.providers ++ added
        joined := app.joined ++ added } := by
  induction added generalizing app with
  | nil => simp
  | cons provider rest ih =>
    rw [foldl_cons, ih]
    simp [Application.provider]

/-- The providers added by the `register` calls of an order. -/
def addedBy (providers : List Provider) (order : List Nat) : List Provider :=
  order.flatMap fun index => (providers[index]?.map Provider.adds).getD []

theorem registerAll_eq (providers : List Provider) (order : List Nat) (app : Application) :
    registerAll providers order app =
      { app with
        providers := app.providers ++ addedBy providers order
        joined := app.joined ++ addedBy providers order
        log := app.log ++ order.map (Event.mk .register) } := by
  induction order generalizing app with
  | nil => simp [registerAll, addedBy]
  | cons index rest ih =>
    unfold registerAll
    rw [ih, foldl_provider]
    simp [addedBy]

theorem configure_eq (configBound : Bool) (providers : List Provider) :
    configure configBound providers =
      { providers := providers
        booted := false
        configBound := configBound
        joined := providers
        log := [] } := by
  rw [configure, foldl_provider]
  simp [new]

variable (loader : Except String Unit)

theorem mountConfig_cases (app : Application) :
    (Mounts app.configBound loader ∧
      app.mountConfig loader = .ok { app with configBound := true }) ∨
    (¬ Mounts app.configBound loader ∧ ∃ error, app.mountConfig loader = .error error) := by
  obtain ⟨providers, booted, configBound, joined, log⟩ := app
  cases configBound with
  | true => exact .inl ⟨.inl rfl, rfl⟩
  | false =>
    cases loader with
    | ok mounted => exact .inl ⟨.inr rfl, rfl⟩
    | error message =>
      refine .inr ⟨?_, _, rfl⟩
      rintro (bound | loaded)
      · simp at bound
      · simp at loaded

/--
A boot fails before it calls anything, or calls the providers in their order,
once in each phase, and keeps the ones it started with.
-/
theorem boot_cases (configBound : Bool)
    (providers : List Provider) :
    (Mounts configBound loader ∧ Orderable providers ∧ ∃ order,
        boot loader (configure configBound providers) = (.ok (),
              { providers := providers
                booted := true
                configBound := true
                joined := providers ++ addedBy providers order
                log := order.map (Event.mk .register) ++ order.map (Event.mk .boot) }) ∧
          order.Nodup ∧ (∀ position,
              position ∈ order ↔ position < providers.length) ∧ ∀ source target,
                DependsOn providers source target → order.idxOf source < order.idxOf target) ∨
    (¬ (Mounts configBound loader ∧ Orderable providers) ∧ (∃ error,
        (boot loader (configure configBound providers)).1 = .error error) ∧
        (boot loader (configure configBound providers)).2.log = []) := by
  rw [configure_eq]
  unfold boot
  rcases mountConfig_cases loader
      { providers := providers
        booted := false
        configBound := configBound
        joined := providers
        log := [] } with
    ⟨mounts, mounted⟩ | ⟨notMounted, error, failed⟩
  · rw [mounted]
    dsimp only
    rcases topologicalOrder_cases providers with
      ⟨orderable, order, ok, distinct, members, ordered, -⟩ | ⟨notOrderable, error, failed⟩
    · left
      refine ⟨mounts, orderable, order, ?_, distinct, members, ordered⟩
      rw [ok]
      simp [registerAll_eq, bootAll]
    · right
      rw [failed]
      exact ⟨fun both => notOrderable both.2, ⟨error, rfl⟩, rfl⟩
  · right
    rw [failed]
    exact ⟨fun both => notMounted both.1, ⟨error, rfl⟩, rfl⟩

theorem calls_eq {app : Application} {order : List Nat}
    (log : app.log = order.map (Event.mk .register) ++ order.map (Event.mk .boot))
    (phase : Phase) : app.calls phase = order := by
  rw [calls, log, filterMap_append, filterMap_map]
  cases phase with
  | register => simp
  | boot => simp

/-! ## When every provider is booted -/

/--
What is promised of a boot holds exactly when the boot fails before calling
anything, or no provider adds another one in `register`.
-/
theorem boot_complete_iff (configBound : Bool) (providers : List Provider) :
    (((boot loader (configure configBound providers)).1 = .ok () →
        BootedAll (boot loader (configure configBound providers)).2) ∧
      (¬ Orderable providers →
        (∃ error, (boot loader (configure configBound providers)).1 = .error error) ∧
          (boot loader (configure configBound providers)).2.log = [])) ↔
      (¬ (Mounts configBound loader ∧ Orderable providers) ∨
        ∀ provider ∈ providers, provider.adds = []) := by
  rcases boot_cases loader configBound providers with
    ⟨mounts, orderable, order, outcome, distinct, members, ordered⟩ | ⟨fails, failed, silent⟩
  · rw [outcome]
    constructor
    · rintro ⟨promised, -⟩
      right
      have bootedAll := promised rfl
      intro provider isProvider
      -- A provider that joined later was never called.
      have nothingAdded : addedBy providers order = [] := by
        by_contra added
        have beyond : providers.length < (providers ++ addedBy providers order).length := by
          rw [length_append]
          exact Nat.lt_add_of_pos_right (length_pos_of_ne_nil added)
        have called := bootedAll.once .register providers.length beyond
        rw [calls_eq rfl] at called
        have isCalled : providers.length ∈ order := by
          apply count_pos_iff.mp
          omega
        exact Nat.lt_irrefl _ ((members _).mp isCalled)
      obtain ⟨position, atPosition⟩ := mem_iff_getElem?.mp isProvider
      have inOrder : position ∈ order :=
        (members position).mpr (List.getElem?_eq_some_iff.mp atPosition).1
      have none := flatMap_eq_nil_iff.mp nothingAdded position inOrder
      simpa [atPosition] using none
    · rintro (fails | addsNone)
      · exact absurd ⟨mounts, orderable⟩ fails
      · have nothingAdded : addedBy providers order = [] := by
          apply flatMap_eq_nil_iff.mpr
          intro position _
          cases atPosition : providers[position]? with
          | none => rfl
          | some provider => exact addsNone provider (mem_of_getElem? atPosition)
        refine ⟨fun _ => ?_, fun notOrderable => absurd orderable notOrderable⟩
        rw [nothingAdded, append_nil]
        refine { once := ?once, phases := ?phases, dependencies := ?dependencies, kept := rfl }
        case once =>
          intro phase position registered
          rw [calls_eq rfl]
          exact count_eq_one_of_mem distinct ((members position).mpr registered)
        case phases =>
          rw [calls_eq rfl, calls_eq rfl]
        case dependencies =>
          intro phase source target depends
          rw [calls_eq rfl]
          exact ordered source target depends
  · obtain ⟨error, isError⟩ := failed
    refine ⟨fun _ => .inl fails, fun _ => ⟨?_, fun _ => ?_⟩⟩
    · intro succeeded
      rw [isError] at succeeded
      simp at succeeded
    · exact ⟨⟨error, isError⟩, silent⟩

/-- A provider that adds another one in its `register` call. -/
def adding : Provider := .mk "AppServiceProvider" [] [.mk "CacheServiceProvider" [] []]

/-- The added provider is neither called nor kept. -/
theorem boot_loses_added :
    (boot (.ok ()) (configure false [adding])).1 = .ok () ∧
    (boot (.ok ()) (configure false [adding])).2.joined.length = 2 ∧
    (boot (.ok ()) (configure false [adding])).2.providers.length = 1 ∧
    ¬ BootedAll (boot (.ok ()) (configure false [adding])).2 := by
  refine ⟨rfl, rfl, rfl, ?_⟩
  intro bootedAll
  have called := bootedAll.once .register 1 (by decide)
  exact absurd called (by decide)

end Application

/-!
## The order of the providers

A provider answers to its name and to the last segment of it, and a declared
name means the first provider that answers to it.  The sort succeeds exactly
when every declared name has an answer and no provider depends on itself, and
what it returns is the first of all orders by registration index.
-/

/-- The provider has this name, or this last segment of it. -/
def Provider.AnswersTo (provider : Provider) (query : String) : Prop :=
  query = provider.name ∨ query = shortName provider.name

instance (provider : Provider) (query : String) : Decidable (provider.AnswersTo query) :=
  inferInstanceAs (Decidable (_ ∨ _))

/-! ## What a name resolves to -/

theorem orInsert_apply (key query : String) (value : Nat) (index : String → Option Nat) :
    orInsert key value index query =
      (index query).or (if query = key then some value else none) := by
  unfold orInsert
  by_cases same : query = key
  · subst same
    cases isThere : index query with
    | none => simp
    | some found => simp [isThere]
  · split <;> simp [same]

theorem providerIndexFrom_eq
    (position : Nat) (providers : List Provider) (index : String → Option Nat) (query : String) :
    providerIndexFrom position providers index query = (index query).or
      ((providers.findIdx? fun provider => provider.AnswersTo query).map (· + position)) := by
  induction providers generalizing position index with
  | nil => simp [providerIndexFrom]
  | cons provider rest ih =>
    rw [providerIndexFrom, ih, orInsert_apply, orInsert_apply, Option.or_assoc, Option.or_assoc]
    congr 1
    by_cases answers : provider.AnswersTo query
    · have isFirst :
          ((provider :: rest).findIdx? fun provider =>
            provider.AnswersTo query) = some 0 := by
        simp [findIdx?_cons, answers]
      rw [isFirst]
      by_cases isName : query = provider.name
      · simp [isName]
      · have isShort := answers.resolve_left isName
        rw [if_neg isName, if_pos isShort]
        simp
    · have isOther := not_or.mp answers
      have isLater :
          ((provider :: rest).findIdx? fun provider =>
            provider.AnswersTo query) =
            (rest.findIdx? fun provider =>
              provider.AnswersTo query).map (· + 1) := by
        simp [findIdx?_cons, answers]
      rw [isLater, if_neg isOther.1, if_neg isOther.2, Option.none_or,
        Option.none_or, Option.map_map]
      congr 1
      funext offset
      simp only [Function.comp_apply]
      omega

variable (providers : List Provider)

theorem providerIndex_eq (query : String) :
    providerIndex providers query =
      providers.findIdx? fun provider => provider.AnswersTo query := by
  rw [providerIndex, providerIndexFrom_eq]
  simp

def KnowsAll (providers : List Provider) : Prop :=
  ∀ provider ∈ providers,
    ∀ dependency ∈ provider.dependencies, ∃ known ∈ providers, known.AnswersTo dependency

theorem resolves_iff : Resolves providers ↔ KnowsAll providers := by
  unfold Resolves KnowsAll
  simp [providerIndex_eq]

/-! ## The first order -/

/-- All providers, every one behind those it depends on. -/
structure IsOrder (providers : List Provider) (order : List Nat) : Prop where
  isPerm : order.Perm (List.range providers.length)
  ordered :
    ∀ source target, DependsOn providers source target → order.idxOf source < order.idxOf target

theorem acyclic_of_topologicalOrder {providers : List Provider} {order : List Nat}
    (isSorted : topologicalOrder providers = .ok order) (node : Nat) :
    ¬TransGen (DependsOn providers) node node := by
  rcases topologicalOrder_cases providers with ⟨orderable, -⟩ | ⟨-, error, failed⟩
  · exact orderable.2 node
  · rw [failed] at isSorted
    cases isSorted

/--
The sort succeeds exactly when every dependency is a known provider and no
provider depends on itself; what it returns is an order, and none precedes it.
-/
theorem topologicalOrder_least :
    ((∃ order, topologicalOrder providers = .ok order) ↔
      KnowsAll providers ∧ ∀ node, ¬TransGen (DependsOn providers) node node) ∧
    ∀ order, topologicalOrder providers = .ok order →
      IsOrder providers order ∧ ∀ other, IsOrder providers other → ¬other < order := by
  rw [← resolves_iff]
  rcases topologicalOrder_cases providers with
    ⟨orderable, order, ok, distinct, members, ordered, least⟩ | ⟨notOrderable, error, failed⟩
  · refine ⟨iff_of_true ⟨order, ok⟩ orderable, fun returned isReturned => ?_⟩
    obtain rfl : order = returned := Except.ok.inj (ok.symm.trans isReturned)
    refine ⟨⟨?_, ordered⟩, fun other isOther => least other isOther.isPerm isOther.ordered⟩
    rw [perm_ext_iff_of_nodup distinct nodup_range]
    exact fun position => (members position).trans mem_range.symm
  · refine ⟨iff_of_false ?_ notOrderable, fun order ok => ?_⟩
    · rintro ⟨order, ok⟩
      rw [failed] at ok
      cases ok
    · rw [failed] at ok
      cases ok

/-- Two providers that depend on the third one, by its name and its segment. -/
def threeProviders : List Provider :=
  [.mk "app::Mail" ["app::Cache"] [], .mk "app::Queue" ["Cache"] [], .mk "app::Cache" [] []]

theorem topologicalOrder_least_three :
    topologicalOrder threeProviders = .ok [2, 0, 1] ∧ IsOrder threeProviders [2, 0, 1] ∧
    ∀ other, IsOrder threeProviders other → ¬other < [2, 0, 1] :=
  ⟨by decide +kernel, (topologicalOrder_least threeProviders).2 [2, 0, 1] (by decide +kernel)⟩

end Rustasea.Foundation
