import Mathlib.Data.List.Infix
import Rustasea.Schedule.Cron

namespace Rustasea.Orm.EndpointUrls

open Rustasea.Schedule (trim)

/-!
# The URLs of the read and write endpoints

A connection is configured by a full URL or by separate fields, and an endpoint
may overlay some of them.  The endpoint's URL is assembled from what results.
-/

abbrev Text := List Char

/-- Why a configuration has no URL. -/
inductive ConnectionError where
  | unsupportedDriver (driver : Text)
  | driverMismatch (driver scheme : Text)
  | missingField (field : String)
  deriving DecidableEq

inductive Driver where
  | sqlite
  | postgres
  | mySql
  deriving DecidableEq

def Driver.scheme : Driver → String
  | .sqlite => "sqlite"
  | .postgres => "postgres"
  | .mySql => "mysql"

def Driver.defaultPort : Driver → UInt16
  | .sqlite => 0
  | .postgres => 5432
  | .mySql => 3306

def lower (text : Text) : String := String.ofList (text.map Char.toLower)

def Driver.fromName (name : Text) : Except ConnectionError Driver :=
  match lower (trim name) with
  | "sqlite" => .ok .sqlite
  | "postgres" | "postgresql" | "pg" => .ok .postgres
  | "mysql" | "mariadb" => .ok .mySql
  | _ => .error (.unsupportedDriver name)

def Driver.fromScheme (scheme : Text) : Option Driver :=
  match lower scheme with
  | "sqlite" => some .sqlite
  | "postgres" | "postgresql" => some .postgres
  | "mysql" | "mariadb" => some .mySql
  | _ => none

def schemeOf (url : Text) : Text := url.takeWhile (· ≠ ':')

def nonempty (value : Option Text) : Option Text := value.filter (· ≠ [])

def required (field : String) (value : Option Text) : Except ConnectionError Text :=
  match nonempty (value.map trim) with
  | some text => .ok text
  | none => .error (.missingField field)

def encodeUserinfo (value : Text) : Text :=
  (PercentEncoding.encode (value.flatMap String.utf8EncodeChar)).map fun byte =>
    Char.ofNat byte.toNat

/-- The fields that a connection and an endpoint have in common, beside the URL. -/
structure Fields where
  host : Option Text := none
  port : Option UInt16 := none
  database : Option Text := none
  username : Option Text := none
  password : Option Text := none
  charset : Option Text := none
  deriving DecidableEq

/-- An endpoint's overlay. -/
structure EndpointConfig where
  url : Option Text := none
  fields : Fields := {}
  deriving DecidableEq

/-- A connection; its pool settings have no part in the URLs. -/
structure ConnectionConfig extends EndpointConfig where
  driver : Text
  read : Option EndpointConfig := none
  write : Option EndpointConfig := none
  deriving DecidableEq

/-- The fields of an overlay where it sets them, else those below. -/
def Fields.overlay (fields upper : Fields) : Fields where
  host := upper.host.or fields.host
  port := upper.port.or fields.port
  database := upper.database.or fields.database
  username := upper.username.or fields.username
  password := upper.password.or fields.password
  charset := upper.charset.or fields.charset

namespace ConnectionConfig

/-- The overlay's URL takes the place of the primary's even where it has none. -/
def effective (config : ConnectionConfig) : Option EndpointConfig → ConnectionConfig
  | none => config
  | some endpoint =>
    { driver := config.driver
      url := endpoint.url
      fields := config.fields.overlay endpoint.fields }

def buildSqlite (config : ConnectionConfig) : Except ConnectionError Text := do
  let database ← required "database" config.fields.database
  if database = ":memory:".toList ∨ "mode=memory".toList <:+: database then
    .ok "sqlite::memory:".toList
  else .ok ("sqlite://".toList ++ database)

def buildNetwork (config : ConnectionConfig) (driver : Driver) : Except ConnectionError Text := do
  let host ← required "host" config.fields.host
  let database ← required "database" config.fields.database
  let port := config.fields.port.getD driver.defaultPort
  let password := match nonempty config.fields.password with
    | some password => ':' :: encodeUserinfo password
    | none => []
  let userinfo := match nonempty config.fields.username with
    | some username => encodeUserinfo username ++ password ++ ['@']
    | none => []
  let charset := match nonempty config.fields.charset with
    | some charset => "?charset=".toList ++ charset
    | none => []
  .ok (driver.scheme.toList ++ "://".toList ++ userinfo ++ host ++ ':' :: (toString port).toList ++
    '/' :: database ++ charset)

def checked (config : ConnectionConfig) (driver : Driver) (url : Text) :
    Except ConnectionError Text :=
  match Driver.fromScheme (schemeOf url) with
  | some found =>
    if found = driver then .ok url else .error (.driverMismatch config.driver (schemeOf url))
  | none => .error (.unsupportedDriver (schemeOf url))

def fromFields (config : ConnectionConfig) (driver : Driver) : Except ConnectionError Text :=
  if driver = .sqlite then config.buildSqlite else config.buildNetwork driver

def assemble (config : ConnectionConfig) : Except ConnectionError Text := do
  let driver ← Driver.fromName config.driver
  match nonempty (config.url.map trim) with
  | some url => config.checked driver url
  | none => config.fromFields driver

def buildUrl (config : ConnectionConfig) : Except ConnectionError Text :=
  (config.effective config.write).assemble

def readUrl (config : ConnectionConfig) : Except ConnectionError Text :=
  match config.read with
  | some endpoint => (config.effective (some endpoint)).assemble
  | none => config.buildUrl

/-! ## What an overlay resolves to -/

/-- The URL under an overlay for reading; `buildUrl` treats one for writing alike. -/
def resolve (config : ConnectionConfig) (overlay : EndpointConfig) : Except ConnectionError Text :=
  readUrl { config with read := some overlay }

theorem resolve_eq_assemble (config : ConnectionConfig) (overlay : EndpointConfig) :
    config.resolve overlay = (config.effective (some overlay)).assemble :=
  rfl

theorem assemble_of_blank (config : ConnectionConfig)
    (blank : nonempty (config.url.map trim) = none) :
    config.assemble = (Driver.fromName config.driver >>= config.fromFields) := by
  rw [assemble, blank]

theorem resolve_of_blank (config : ConnectionConfig) (overlay : EndpointConfig)
    (blank : nonempty (overlay.url.map trim) = none) :
    config.resolve overlay =
      (Driver.fromName config.driver >>=
        fromFields { config with fields := config.fields.overlay overlay.fields }) := by
  rw [resolve_eq_assemble, assemble_of_blank (config.effective (some overlay)) blank]
  rfl

/--
An overlay on separate fields resolves to the URL with its fields replaced, and
to the primary's if it sets none; one with a URL resolves to that.  On a primary
with a URL the empty overlay resolves to it exactly if the separate fields spell
the same URL, and no overlay without a URL heeds the primary's.
-/
theorem overlays_resolve_iff (config : ConnectionConfig) :
    (nonempty (config.url.map trim) = none →
      config.resolve {} = config.assemble ∧
        ∀ overlay : EndpointConfig, nonempty (overlay.url.map trim) = none →
          config.resolve overlay =
            assemble { config with fields := config.fields.overlay overlay.fields }) ∧
    (∀ overlay : EndpointConfig, nonempty (overlay.url.map trim) ≠ none →
      config.resolve overlay = assemble { config with url := overlay.url }) ∧
    (∀ driver url, Driver.fromName config.driver = .ok driver →
      nonempty (config.url.map trim) = some url → config.assemble = .ok url →
        (config.resolve {} = config.assemble ↔ config.fromFields driver = .ok url)) ∧
    ∀ (overlay : EndpointConfig) other, nonempty (overlay.url.map trim) = none →
      resolve { config with url := other } overlay = config.resolve overlay := by
  refine ⟨fun blank => ⟨?_, fun overlay plain => ?_⟩, fun overlay own => ?_, ?_, ?_⟩
  · rw [resolve_of_blank config {} rfl, assemble_of_blank config blank]
    rfl
  · rw [resolve_of_blank config overlay plain]
    let replaced : ConnectionConfig :=
      { config with fields := config.fields.overlay overlay.fields }
    exact (assemble_of_blank replaced blank).symm
  · obtain ⟨url, isOwn⟩ := Option.ne_none_iff_exists'.mp own
    rw [resolve_eq_assemble, assemble, assemble]
    simp only [effective, isOwn]
    rfl
  · intro driver url isDriver hasUrl primary
    rw [resolve_of_blank config {} rfl, primary, isDriver]
    rfl
  · intro overlay other plain
    rw [resolve_of_blank config overlay plain, resolve_of_blank _ overlay plain]
    rfl

def byUrl : ConnectionConfig where
  driver := "postgres".toList
  url := some "postgres://db:5432/app".toList

theorem empty_overlay_loses_the_url :
    byUrl.assemble = .ok "postgres://db:5432/app".toList ∧
    byUrl.resolve {} = .error (.missingField "host") := by
  decide +kernel

end ConnectionConfig

end Rustasea.Orm.EndpointUrls
