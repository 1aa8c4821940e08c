import Rustasea.Routing.RouteTable

namespace Rustasea.Routing

open PercentEncoding

/-!
# Compilation to axum

The routes are taken in their order.  The first route of a slot claims it: its
handler is resolved, wrapped in its layers and merged into the router under the
path as axum writes it.  Later routes of the slot are skipped.
-/

/-- Translate a Laravel-style route path into axum syntax. -/
def toAxumPath (path : String) : String :=
  String.ofList
    ((pathParts none path.toList).flatMap fun
      | .text character => [character]
      | .placeholder inner =>
        let param := inner.takeWhile (· ≠ ':')
        if param = [] then []
        else ':' :: param
      | .unterminated rest => '{' :: rest)

/-- The field and parameter of each model-binding selector of a path. -/
def selectorPairs (path : String) : List (String × String) :=
  (pathParts none path.toList).filterMap fun
    | .placeholder inner =>
      match splitOnce ':' inner with
      | some (param, field) =>
        if param = [] ∨ field = [] then none
        else some (String.ofList field, String.ofList param)
      | none => none
    | _ => none

/-- Typed error of a build. -/
inductive RouteError where
  | unknownMiddleware (name : String)
  | unknownAuthorization (name : String)
  | unknownBinding (name : String)
  deriving DecidableEq

/-- A build fails with an error, or panics in axum. -/
inductive BuildFailure where
  | error (failure : RouteError)
  | panics
  deriving DecidableEq

def methodFilter (method : String) : MethodFilter := Verb.parse? (toAsciiUppercase method)

@[simp] theorem methodFilter_name (verb : Verb) : methodFilter verb.name = some verb := by
  cases verb <;> decide

variable {app : Application}

/-! ## Registries -/

def built (build : String → Option app.Middleware)
    (parameters spec : String) : Except RouteError app.Middleware :=
  match build parameters with
  | none => .error (.unknownMiddleware spec)
  | some apply => .ok apply

/-- Resolve a middleware spec: as a whole, or as a name with parameters. -/
def resolveMiddleware (registry : Registry (Registration app))
    (spec : String) : Except RouteError app.Middleware :=
  match registry.get spec with
  | some (.plain apply) => .ok apply
  | some (.factory build) => built build "" spec
  | none =>
    match splitOnce ':' spec.toList with
    | none => .error (.unknownMiddleware spec)
    | some (name, parameters) =>
      match registry.get (String.ofList name) with
      | some (.factory build) => built build (String.ofList parameters) spec
      | some (.plain apply) => .ok apply
      | none => .error (.unknownMiddleware spec)

namespace AuthorizeRegistry

/-- The single registered resource when exactly one is present. -/
def sole (registry : AuthorizeRegistry app) : Option app.Resource :=
  match registry.resources with
  | [(_, resource)] => some resource
  | _ => none

def resolve (registry : AuthorizeRegistry app) :
    AuthorizeSpec → Except RouteError (app.Resource × String)
  | .resource ability resource =>
    let found :=
      if resource = "" then registry.sole
      else registry.resources.get resource
    match found with
    | none => .error (.unknownAuthorization resource)
    | some authorizer => .ok (authorizer, ability)
  | .ability name =>
    match registry.ability with
    | none => .error (.unknownAuthorization name)
    | some gate => .ok (gate, name)

end AuthorizeRegistry

/-! ## One route -/

variable (axum : Axum app)

def intoMethodRouter (handler : Handler app) (method : String) : axum.MethodRouter :=
  axum.on (methodFilter method) handler

/-- The declared middleware, the first declared outermost. -/
def applyMiddleware (methodRouter : axum.MethodRouter) (entry : RouteEntry)
    (registry : Registry (Registration app)) :
    Except RouteError axum.MethodRouter := do
  let resolved ← entry.middleware.mapM (resolveMiddleware registry)
  pure (resolved.reverse.foldl
      (fun wrapped apply => axum.layer (.middleware apply) wrapped)
      methodRouter)

def applyAuthorize (methodRouter : axum.MethodRouter) (entry : RouteEntry)
    (registry : AuthorizeRegistry app) : Except RouteError axum.MethodRouter :=
  if entry.authorizations = [] then .ok methodRouter
  else do
    let checks ← entry.authorizations.mapM registry.resolve
    pure (axum.layer (.authorize checks) methodRouter)

/-- The binders of a route, each with the parameter that it is handed. -/
def bindingChecks {app : Application} (laravelPath : String)
    (registry : Registry app.Binder) : List (app.Binder × String) :=
  (selectorPairs laravelPath).filterMap fun pair =>
    (registry.get pair.1).map fun binder => (binder, pair.2)

def applyBinding (methodRouter : axum.MethodRouter) (laravelPath axumPath : String)
    (registry : Registry app.Binder) : axum.MethodRouter :=
  let checks := bindingChecks laravelPath registry
  if checks.isEmpty then methodRouter
  else axum.layer (.bind checks axumPath) methodRouter

def resolveController (entry : RouteEntry)
    (controllerActions : List (String × String × app.Action)) : Handler app :=
  match entry.controller with
  | none => .stub
  | some controller =>
    match
      controllerActions.find? fun registered =>
        registered.1 = controller.name ∧
          registered.2.1 = controller.action with
    | none => .stub
    | some registered => .action registered.2.2

def resolve (entry : RouteEntry) (actions : List (BoundAction app))
    (controllerActions : List (String × String × app.Action)) :
    axum.MethodRouter × List (BoundAction app) :=
  let unbound := (intoMethodRouter axum (resolveController entry controllerActions)
        entry.method,
      actions)
  if entry.handler.isSome then
    match
      actions.findIdx? fun action =>
        action.method = entry.method ∧ action.path = entry.path ∧
          action.domain = entry.domain with
    | none => unbound
    | some index =>
      match actions[index]? with
      | none => unbound
      | some action =>
        (intoMethodRouter axum action.handler action.method, FirstClaim.swapRemove actions index)
  else unbound

/-! ## The table -/

/-- A router that is being built. -/
structure Compiling where
  router : axum.Router
  registered : List Slot
  actions : List (BoundAction app)

def compileEntry (router : Router app) (state : Compiling axum)
    (entry : RouteEntry) : Except BuildFailure (Compiling axum) :=
  if entry.slot ∈ state.registered then .ok state
  else
    let (resolved, actions) := resolve axum entry state.actions router.controllerActions
    let axumPath := toAxumPath entry.path
    match applyAuthorize axum resolved entry router.authorizeRegistry with
    | .error failure => .error (.error failure)
    | .ok authorized =>
      let bound := applyBinding axum authorized entry.path axumPath router.bindingRegistry
      match applyMiddleware axum bound entry router.middlewareRegistry with
      | .error failure => .error (.error failure)
      | .ok methodRouter =>
        match axum.route axumPath methodRouter with
        | none => .error .panics
        | some added =>
          match axum.merge state.router added with
          | none => .error .panics
          | some merged =>
            .ok
              { router := merged
                registered := state.registered ++ [entry.slot]
                actions := actions }

def compileEntries (router : Router app) (state : Compiling axum) :
    List RouteEntry → Except BuildFailure (Compiling axum)
  | [] => .ok state
  | entry :: rest =>
    match compileEntry axum router state entry with
    | .error failure => .error failure
    | .ok next => compileEntries router next rest

def tryIntoAxumRouter (router : Router app) : Except BuildFailure axum.Router :=
  match
    compileEntries axum router
      { router := axum.new, registered := [], actions := router.actions }
      router.getRoutes with
  | .error failure => .error failure
  | .ok compiled =>
    .ok (router.layers.foldl
        (fun wrapped layer => axum.layerAll (.tower layer) wrapped)
        compiled.router)

/-- Convert into an axum router, failing closed on build errors. -/
def intoAxumRouter (router : Router app) : Option axum.Router :=
  match tryIntoAxumRouter axum router with
  | .ok compiled => some compiled
  | .error (.error _) => some axum.internalServerError
  | .error .panics => none

end Rustasea.Routing
