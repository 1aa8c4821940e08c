import Rustasea.Library.TopologicalSort

namespace Rustasea.Foundation

/-!
# Application boot

`boot` takes the providers out of the application, orders them by their declared
dependencies, calls `register` on each and then `boot` on each, and puts the list
back.  Of what a `register` call does, the model keeps the providers it adds.
-/

/-- A service provider; `adds` are the providers its `register` call adds. -/
inductive Provider where
  | mk (name : String) (dependencies : List String) (adds : List Provider)

namespace Provider

def name : Provider → String
  | .mk name _ _ => name

/-- Names of providers that must boot before this one. -/
def dependencies : Provider → List String
  | .mk _ dependencies _ => dependencies

/-- The providers its `register` call adds to the application. -/
def adds : Provider → List Provider
  | .mk _ _ adds => adds

end Provider

/-- Errors raised while resolving and running the provider boot DAG. -/
inductive BootError where
  | dependencyCycle (providers : List String)
  | unknownDependency (provider dependency : String)
  | config (message : String)
  deriving DecidableEq

def BootError.display : BootError → String
  | .dependencyCycle providers =>
    "provider dependency cycle detected: " ++ String.intercalate " -> " providers
  | .unknownDependency provider dependency =>
    "provider \x60" ++ provider ++ "\x60 depends on unknown provider \x60" ++ dependency ++ "\x60"
  | .config message => "config loader failed: " ++ message

/-! ## Names -/

def beforeDoubleColon : List Char → List Char
  | ':' :: ':' :: _ => []
  | character :: rest => character :: beforeDoubleColon rest
  | [] => []

/-- `name.rsplit("::").next()`: the last segment of a path. -/
def shortName (name : String) : String :=
  String.ofList (beforeDoubleColon name.toList.reverse).reverse

/-- `HashMap::entry(key).or_insert(value)`. -/
def orInsert (key : String) (value : Nat) (index : String → Option Nat) : String → Option Nat :=
  if (index key).isSome then index
  else Function.update index key (some value)

def providerIndexFrom :
    (position : Nat) → List Provider → (String → Option Nat) → String → Option Nat
  | _, [], index => index
  | position, provider :: rest, index =>
    providerIndexFrom (position + 1) rest
      (orInsert (shortName provider.name) position (orInsert provider.name position index))

/-- Provider name, full and short, to registration index. -/
def providerIndex (providers : List Provider) : String → Option Nat :=
  providerIndexFrom 0 providers fun _ => none

/-! ## The dependency graph -/

/-- The dependents of each provider and the number of its dependencies. -/
structure Graph where
  edges : Nat → List Nat
  indegree : Nat → Nat

def Graph.empty : Graph where
  edges := fun _ => []
  indegree := fun _ => 0

def Graph.link (dependency node : Nat) (graph : Graph) : Graph where
  edges := Function.update graph.edges dependency (graph.edges dependency ++ [node])
  indegree := Function.update graph.indegree node (graph.indegree node + 1)

/-- The dependencies of one provider, in declaration order. -/
def addDependencies (indexOf : String → Option Nat) (name : String) (node : Nat) :
    List String → Graph → Except BootError Graph
  | [], graph => .ok graph
  | dependency :: rest, graph =>
    match indexOf dependency with
    | none => .error (.unknownDependency name dependency)
    | some dependencyIndex =>
      if dependencyIndex = node then .error (.dependencyCycle [name])
      else addDependencies indexOf name node rest (graph.link dependencyIndex node)

def addProviders (indexOf : String → Option Nat) :
    (position : Nat) → List Provider → Graph → Except BootError Graph
  | _, [], graph => .ok graph
  | position, provider :: rest, graph =>
    match addDependencies indexOf provider.name position provider.dependencies graph with
    | .error error => .error error
    | .ok linked => addProviders indexOf (position + 1) rest linked

/-! ## Naming a cycle -/

/-- The state of the depth-first search for a cycle. -/
structure Search where
  path : List Nat
  onPath : Nat → Bool
  done : Nat → Bool

/-- The loop of `find_cycle` over the dependents of one node. -/
def searchTargets (visit : Nat → Search → Option (List Nat) × Search) (residual : Nat → Bool) :
    List Nat → Search → Option (List Nat) × Search
  | [], search => (none, search)
  | next :: rest, search =>
    if !residual next || search.done next then searchTargets visit residual rest search
    else if search.onPath next then (some (search.path.drop (search.path.idxOf next)), search)
    else
      match visit next search with
      | (some cycle, after) => (some cycle, after)
      | (none, after) => searchTargets visit residual rest after

/-- Depth-first search for a cycle within the residual node set. -/
def findCycle (edges : Nat → List Nat) (residual : Nat → Bool) :
    (depth : Nat) → Nat → Search → Option (List Nat) × Search
  | 0, _, search => (none, search)
  | depth + 1, node, search =>
    match
      searchTargets (findCycle edges residual depth) residual (edges node)
        { search with
          path := search.path ++ [node]
          onPath := Function.update search.onPath node true } with
    | (some cycle, after) => (some cycle, after)
    | (none, after) =>
      (none,
        { path := after.path.dropLast
          onPath := Function.update after.onPath node false
          done := Function.update after.done node true })

def firstCycle (edges : Nat → List Nat) (residual : Nat → Bool) (count : Nat) :
    List Nat → Search → Option (List Nat)
  | [], _ => none
  | candidate :: rest, search =>
    if residual candidate then
      match findCycle edges residual (count + 1) candidate search with
      | (some cycle, _) => some cycle
      | (none, after) => firstCycle edges residual count rest after
    else firstCycle edges residual count rest search

def cycleNames (providers : List Provider) (edges : Nat → List Nat)
    (indegree : Nat → Nat) : List String :=
  let count := providers.length
  let residual : Nat → Bool := fun node => 0 < indegree node
  let nodes := (firstCycle edges residual count (List.range count)
      { path := [], onPath := fun _ => false, done := fun _ => false }).getD
      ((List.range count).filter residual)
  nodes.filterMap fun node => providers[node]?.map Provider.name

def topologicalOrder (providers : List Provider) : Except BootError (List Nat) :=
  let count := providers.length
  match addProviders (providerIndex providers) 0 providers Graph.empty with
  | .error error => .error error
  | .ok graph =>
    let sorted := TopologicalSort.kahn graph.edges count
        { order := []
          ready := (List.range count).filter fun node => graph.indegree node = 0
          indegree := graph.indegree }
    if sorted.order.length = count then .ok sorted.order
    else .error (.dependencyCycle (cycleNames providers graph.edges sorted.indegree))

/-! ## The application -/

/-- The two calls a provider receives. -/
inductive Phase where
  | register
  | boot
  deriving DecidableEq

/-- A call on the provider at a position. -/
structure Event where
  phase : Phase
  position : Nat

/--
The application.  `joined` records every provider ever added, in order, and `log`
the calls made on them by their position there.
-/
structure Application where
  providers : List Provider
  booted : Bool
  configBound : Bool
  joined : List Provider
  log : List Event

namespace Application

def new (configBound : Bool) : Application where
  providers := []
  booted := false
  configBound := configBound
  joined := []
  log := []

def provider (provider : Provider) (app : Application) : Application :=
  { app with providers := app.providers ++ [provider], joined := app.joined ++ [provider] }

/-- `Application::configure` with a callback that adds these providers. -/
def configure (configBound : Bool) (providers : List Provider) : Application :=
  providers.foldl (fun app provider => app.provider provider) (new configBound)

def mountConfig (loader : Except String Unit) (app : Application) : Except BootError Application :=
  if app.configBound then .ok app
  else
    match loader with
    | .error message => .error (.config message)
    | .ok () => .ok { app with configBound := true }

/-- The `register` calls, in order; each may add providers. -/
def registerAll (providers : List Provider) : List Nat → Application → Application
  | [], app => app
  | index :: rest, app =>
    let adds := (providers[index]?.map Provider.adds).getD []
    let logged := { app with log := app.log ++ [{ phase := .register, position := index }] }
    registerAll providers rest (adds.foldl (fun app provider => app.provider provider) logged)

/-- The `boot` calls, in order; they only read the application. -/
def bootAll (order : List Nat) (app : Application) : Application :=
  { app with log := app.log ++ order.map fun index => { phase := .boot, position := index } }

/-- Run register then boot for all providers in dependency order. -/
def boot (loader : Except String Unit) (app : Application) : Except BootError Unit × Application :=
  if app.booted then (.ok (), app)
  else
    match app.mountConfig loader with
    | .error error => (.error error, app)
    | .ok mounted =>
      match topologicalOrder mounted.providers with
      | .error error => (.error error, mounted)
      | .ok order =>
        let providers := mounted.providers
        let registered := registerAll providers order { mounted with providers := [] }
        let started := bootAll order registered
        (.ok (), { started with providers := providers, booted := true })

end Application

end Rustasea.Foundation
