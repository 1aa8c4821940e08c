import Rustasea.Routing.PathCaptures

namespace Rustasea.Routing

open PercentEncoding (hasEscape utf8)

/-!
# The values that model binders are handed

A bound route is wrapped in a layer that reads the bound parameters off the raw
request path and hands each to its binder.  The extractor behind the layer
decodes what axum captured.  The two are the same for a parameter that is a
segment of its own, in a path of as many segments, where nothing is escaped.
-/

variable {app : Application}

/-! ## The layer -/

/-- What a bound layer does to a request, before it goes on. -/
def runBinders {Request Response : Type} (notFound : Response)
    (bind : app.Binder → Request → Text → Except Response Request) (template uriPath : Text) :
    List (app.Binder × String) → Request → Except Response Request
  | [], request => .ok request
  | (binder, param) :: rest, request =>
    match extractParam uriPath template param.toList with
    | none => .error notFound
    | some value =>
      match bind binder request value with
      | .error response => .error response
      | .ok bound => runBinders notFound bind template uriPath rest bound

/-! ## Agreement with the extractor -/

def IsHandedDecoded (template uriPath : Text) (captured : List (Text × Text))
    (param : Text) : Prop :=
  ∃ value, extractParam uriPath template param = some value ∧
      (captured.lookup param).bind percentDecode = some value

/--
The parameter is a segment of its own, no wildcard captures several segments,
and what was captured has no escapes.
-/
structure IsPlainSegment (template uriPath : Text) (captured : List (Text × Text))
    (param : Text) : Prop where
  sameLength : (segments template).length = (segments uriPath).length
  isWhole : ':' :: param ∈ segments template
  unescaped : ∀ raw, captured.lookup param = some raw → hasEscape (utf8 (String.ofList raw)) = false

theorem of_extractParam {uriPath template param value : Text}
    (isValue : extractParam uriPath template param = some value) :
    (segments template).length = (segments uriPath).length ∧ ':' :: param ∈ segments template := by
  unfold extractParam at isValue
  dsimp only at isValue
  split at isValue
  · cases isValue
  · next sameLength =>
    rw [not_not] at sameLength
    obtain ⟨before, after, aligned, -⟩ := List.lookup_eq_some_iff.mp isValue
    have isPair : (':' :: param, value) ∈ (segments template).zip (segments uriPath) := by
      simp [aligned]
    exact ⟨sameLength, (List.of_mem_zip isPair).1⟩

variable {captured : List (Text × Text)}

theorem extractParam_eq_lookup {template uriPath param : Text}
    (distinct : HasDistinctNames (segments template))
    (isCaptured : captures (segments template) (segments uriPath) = some captured)
    (sameLength : (segments template).length = (segments uriPath).length)
    (isWhole : ':' :: param ∈ segments template) :
    extractParam uriPath template param = captured.lookup param := by
  rw [← lookup_zip_eq_lookup_captures isCaptured distinct isWhole]
  simp [extractParam, sameLength]

variable {template uriPath : Text}

theorem isHandedDecoded_iff (distinct : HasDistinctNames (segments template))
    (isCaptured : captures (segments template) (segments uriPath) = some captured) (param : Text) :
    IsHandedDecoded template uriPath captured param ↔
      IsPlainSegment template uriPath captured param := by
  constructor
  · rintro ⟨value, isValue, isDecoded⟩
    obtain ⟨sameLength, isWhole⟩ := of_extractParam isValue
    rw [extractParam_eq_lookup distinct isCaptured sameLength isWhole] at isValue
    refine ⟨sameLength, isWhole, ?_⟩
    intro raw isRaw
    rw [isRaw] at isValue isDecoded
    cases isValue
    exact percentDecode_eq_self_iff.mp isDecoded
  · rintro ⟨sameLength, isWhole, unescaped⟩
    have isNamed : param ∈ captured.map (·.1) := by
      rw [names_captures isCaptured]
      exact List.mem_filterMap.mpr ⟨_, isWhole, capturedName_colon _⟩
    have isSome : (captured.lookup param).isSome = true := by
      obtain ⟨entry, isEntry, isName⟩ := List.mem_map.mp isNamed
      exact List.lookup_isSome_iff.mpr ⟨entry, isEntry, by simp [isName]⟩
    obtain ⟨raw, isRaw⟩ := Option.isSome_iff_exists.mp isSome
    refine ⟨raw, ?_, ?_⟩
    · rw [extractParam_eq_lookup distinct isCaptured sameLength isWhole, isRaw]
    · rw [isRaw]
      exact percentDecode_eq_self_iff.mpr (unescaped raw isRaw)

theorem runBinders_of_decoded {Request Response : Type} (notFound : Response)
    (bind : app.Binder → Request → Text → Except Response Request)
    {checks : List (app.Binder × String)}
    (decoded : ∀ check ∈ checks, IsHandedDecoded template uriPath captured check.2.toList)
    (request : Request) :
    runBinders notFound bind template uriPath checks request = checks.foldlM
        (fun request check =>
          bind check.1 request (((captured.lookup check.2.toList).bind percentDecode).getD []))
        request := by
  induction checks generalizing request with
  | nil => rfl
  | cons check rest ih =>
    rw [List.forall_mem_cons] at decoded
    obtain ⟨value, isValue, isDecoded⟩ := decoded.1
    rw [runBinders, isValue, List.foldlM_cons, isDecoded, Option.getD_some]
    cases outcome : bind check.1 request value with
    | error response =>
      simp only [outcome]
      rfl
    | ok bound =>
      simp only [outcome]
      exact ih decoded.2 bound

/--
A bound route's binders are handed what the extractor yields, exactly when each
of their parameters is a plain segment.  The names of the parameters differ.
-/
theorem bound_values_are_decoded_iff {paths : PathMatcher} (documented : paths.Documented)
    {path : String} (registry : Registry app.Binder)
    (isTemplate : isTemplate (segments (toAxumPath path).toList) = true)
    (distinct : HasDistinctNames (segments (toAxumPath path).toList)) {uriPath : Text}
    {captured : List (Text × Text)}
    (isMatched : paths.captured (toAxumPath path).toList uriPath = some captured) :
    (∀ check ∈ bindingChecks path registry,
        IsHandedDecoded (toAxumPath path).toList uriPath captured check.2.toList) ↔
      ∀ check ∈ bindingChecks path registry,
        IsPlainSegment (toAxumPath path).toList uriPath captured check.2.toList := by
  rw [documented _ _ isTemplate] at isMatched
  exact forall₂_congr fun check _ => isHandedDecoded_iff distinct isMatched check.2.toList

/--
Where every bound parameter is a plain segment, the layer hands each binder, in
their order and up to the first that refuses, what the extractor decodes.
-/
theorem plain_segments_bind_decoded {Request Response : Type} (notFound : Response)
    (bind : app.Binder → Request → Text → Except Response Request)
    {paths : PathMatcher} (documented : paths.Documented) {path : String}
    {registry : Registry app.Binder}
    (isTemplate : isTemplate (segments (toAxumPath path).toList) = true)
    (distinct : HasDistinctNames (segments (toAxumPath path).toList))
    {uriPath : Text} {captured : List (Text × Text)}
    (isMatched : paths.captured (toAxumPath path).toList uriPath = some captured)
    (plain : ∀ check ∈ bindingChecks path registry,
      IsPlainSegment (toAxumPath path).toList uriPath captured check.2.toList) (request : Request) :
    runBinders notFound bind (toAxumPath path).toList uriPath (bindingChecks path registry)
        request =
      (bindingChecks path registry).foldlM (fun request check =>
        bind check.1 request (((captured.lookup check.2.toList).bind percentDecode).getD []))
        request := by
  rw [documented _ _ isTemplate] at isMatched
  exact runBinders_of_decoded notFound bind
    (fun check isIn => (isHandedDecoded_iff distinct isMatched _).mpr (plain check isIn)) request

/-! ## A space in a slug -/

def segmentMatcher : PathMatcher where
  captured template path :=
    if isTemplate (segments template) then captures (segments template) (segments path)
    else none

theorem segmentMatcher_documented : segmentMatcher.Documented := by
  intro template path isTemplate
  simp [segmentMatcher, isTemplate]

def slugApp : Application where
  Action := Unit
  Middleware := Unit
  Resource := Unit
  Binder := Unit
  TowerLayer := Unit

def slugRegistry : Registry slugApp.Binder := [("slug", ())]

theorem bound_values_are_decoded_iff_hello :
    isTemplate (segments (toAxumPath "/posts/{post:slug}").toList) = true ∧
    segmentMatcher.captured (toAxumPath "/posts/{post:slug}").toList "/posts/hello".toList =
      some [("post".toList, "hello".toList)] ∧
    ((∀ check ∈ bindingChecks "/posts/{post:slug}" slugRegistry,
        IsHandedDecoded (toAxumPath "/posts/{post:slug}").toList "/posts/hello".toList
          [("post".toList, "hello".toList)] check.2.toList) ↔
        ∀ check ∈ bindingChecks "/posts/{post:slug}" slugRegistry,
          IsPlainSegment (toAxumPath "/posts/{post:slug}").toList "/posts/hello".toList
            [("post".toList, "hello".toList)] check.2.toList) := by
  have template : isTemplate (segments (toAxumPath "/posts/{post:slug}").toList) = true := by
    decide +kernel
  have matched : segmentMatcher.captured (toAxumPath "/posts/{post:slug}").toList
      "/posts/hello".toList = some [("post".toList, "hello".toList)] := by
    decide +kernel
  exact ⟨template, matched,
    bound_values_are_decoded_iff segmentMatcher_documented slugRegistry template
      (show List.Nodup _ by decide +kernel) matched⟩

/-- A slug with an escaped space is handed over as it stands in the path. -/
theorem escaped_slug_is_handed_raw :
    ¬ ∀ (paths : PathMatcher), paths.Documented →
      ∀ (path : String) (registry : Registry slugApp.Binder)
      (uriPath : Text) (captured : List (Text × Text)),
      paths.captured (toAxumPath path).toList uriPath = some captured →
      ∀ check ∈ bindingChecks path registry,
      IsHandedDecoded (toAxumPath path).toList uriPath captured check.2.toList := by
  intro agree
  have matched : segmentMatcher.captured (toAxumPath "/posts/{post:slug}").toList
        "/posts/a%20b".toList =
      some [("post".toList, "a%20b".toList)] := by
    decide +kernel
  have isCheck : ((), "post") ∈ bindingChecks "/posts/{post:slug}" slugRegistry := by
    have pairs : selectorPairs "/posts/{post:slug}" = [("slug", "post")] := by decide +kernel
    rw [bindingChecks, pairs]
    exact List.mem_singleton.mpr rfl
  have decoded := agree segmentMatcher segmentMatcher_documented "/posts/{post:slug}"
      slugRegistry "/posts/a%20b".toList _ matched _ isCheck
  have isPlain := (isHandedDecoded_iff (show List.Nodup _ by decide +kernel) (by decide +kernel) _).mp decoded
  exact absurd (isPlain.unescaped _ rfl) (by decide +kernel)

theorem hello_is_bound_decoded :
    runBinders () (fun _ bound value => .ok (bound ++ [value]))
      (toAxumPath "/posts/{post:slug}").toList "/posts/hello".toList
      (bindingChecks "/posts/{post:slug}" slugRegistry) [] =
        (.ok ["hello".toList] : Except Unit (List Text)) := by
  have matched : segmentMatcher.captured (toAxumPath "/posts/{post:slug}").toList
      "/posts/hello".toList = some [("post".toList, "hello".toList)] := by
    decide +kernel
  rw [plain_segments_bind_decoded () _ segmentMatcher_documented (by decide +kernel)
    (show List.Nodup _ by decide +kernel) matched]
  · decide +kernel
  · intro check isCheck
    rw [bindingChecks, show selectorPairs "/posts/{post:slug}" = [("slug", "post")] by
      decide +kernel] at isCheck
    obtain rfl := List.mem_singleton.mp isCheck
    refine ⟨by decide +kernel, by decide +kernel, fun raw isRaw => ?_⟩
    obtain rfl := Option.some.inj isRaw
    decide +kernel

end Rustasea.Routing
