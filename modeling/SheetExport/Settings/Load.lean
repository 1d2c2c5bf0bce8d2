import SheetExport.Settings.Values
import SheetExport.FileStore
import SheetExport.Path
import SheetExport.Json.Reader
import SheetExport.Json.Writer

/-!
# Loading settings

Settings come from three places, each over the one before: the defaults, the settings file, and
the environment. The file is merged into the defaults key by key: an object merges into an object,
any other value that is neither an object nor a list replaces the default, and keys the defaults do
not know are left out. The environment then sets six values by the names
`EXPORTER__SHEETS__SPREADSHEET_ID` and so on, writing into the sections the file left.

Every value ends as its text without the blanks around it; an empty log level means INFO.
-/

namespace SheetExport

namespace Settings

/-- The default settings, with files in the data directory. -/
def defaults (dataDirectory : String) : List (String × Json) :=
  [("sheets", .obj [("spreadsheet_id", .str ""),
      ("credential_path", .str (Path.join dataDirectory ["service_account.json"])),
      ("token_cache_path", .str (Path.join dataDirectory ["token_cache.json"])),
      ("max_attempts", .int ExporterSettings.defaultAttempts)]),
    ("database", .obj [("path", .str (Path.join dataDirectory ["storefront.db"]))]),
    ("log_level", .str ExporterSettings.defaultLogLevel)]

/-- Merges overrides into settings: objects merge, other values that are neither objects nor lists
replace, and unknown keys are left out. -/
def merge : List (String × Json) → List (String × Json) → List (String × Json)
  | merged, [] => merged
  | merged, (key, value) :: rest =>
    let merged := match merged.lookup key, value with
      | some (.obj current), .obj inner => Json.setMember key (.obj (merge current inner)) merged
      | some _, .obj _ => merged
      | some _, .arr _ => merged
      | some _, other => Json.setMember key other merged
      | none, _ => merged
    merge merged rest

/-- The environment variables read, each with the path of the value it sets. -/
def environmentKeys : List (String × List String) :=
  [("EXPORTER__SHEETS__SPREADSHEET_ID", ["sheets", "spreadsheet_id"]),
    ("EXPORTER__SHEETS__CREDENTIAL_PATH", ["sheets", "credential_path"]),
    ("EXPORTER__SHEETS__TOKEN_CACHE_PATH", ["sheets", "token_cache_path"]),
    ("EXPORTER__SHEETS__MAX_ATTEMPTS", ["sheets", "max_attempts"]),
    ("EXPORTER__DATABASE__PATH", ["database", "path"]),
    ("EXPORTER__LOG_LEVEL", ["log_level"])]

/-- Sets a value at a path of keys, making missing sections; a section that is not an object
refuses. -/
def setPath (data : List (String × Json)) (value : Json) : List String →
    Except SettingsError (List (String × Json))
  | [] => .ok data
  | [key] => .ok (Json.setMember key value data)
  | part :: rest =>
    match data.lookup part with
    | none => do
      let inner ← setPath [] value rest
      pure (Json.setMember part (.obj inner) data)
    | some (.obj members) => do
      let inner ← setPath members value rest
      pure (Json.setMember part (.obj inner) data)
    | some other => .error (.notAssignable other.kindName)

/-- Applies the environment's values. -/
def applyEnvironment (data : List (String × Json)) (environment : List (String × Json)) :
    Except SettingsError (List (String × Json)) :=
  environmentKeys.foldlM (fun data (name, path) =>
    match environment.lookup name with
    | some value => setPath data value path
    | none => .ok data) data

/-- The members of the settings file, read with room for `nesting` containers; an absent file has
none. -/
def readFile (nesting : Nat) (files : FileStore) (path : String) :
    Except SettingsError (List (String × Json)) :=
  if !files.pathExists path then .ok []
  else
    match files.read? path with
    | none => .error (.unreadable path ("[Errno 21] Is a directory: " ++ Text.quote path))
    | some bytes =>
      match Text.decodeUtf8 bytes with
      | .error e => .error (.undecodable e)
      | .ok text =>
        match Json.parse nesting (String.ofList (Text.uniformLineEnds text.toList)) with
        | .error (.tooLong count) => .error (.numeral (.tooLong count))
        | .error (.tooDeep container) => .error (.recursion container)
        | .error e => .error (.unreadable path e.message)
        | .ok (.obj members) => .ok members
        | .ok _ => .error (.notObject path)

/-- The text of a setting without the blanks around it. -/
def textOf (value : Json) : String := Text.trim value.text

/-- The settings of a merged document. -/
def ofDocument (data : List (String × Json)) : Except SettingsError ExporterSettings :=
  match data.lookup "sheets", data.lookup "database" with
  | some (.obj sheets), some (.obj database) => do
    let attempts ← coerceAttempts ((sheets.lookup "max_attempts").getD (.int 5))
    let level := textOf ((data.lookup "log_level").getD (.str ExporterSettings.defaultLogLevel))
    pure ⟨textOf ((sheets.lookup "spreadsheet_id").getD (.str "")),
      textOf ((sheets.lookup "credential_path").getD (.str "")),
      textOf ((sheets.lookup "token_cache_path").getD (.str "")),
      textOf ((database.lookup "path").getD (.str "")),
      (if level.isEmpty then ExporterSettings.defaultLogLevel else level), attempts⟩
  | _, _ => .error .sections

/-- Loads settings: the defaults, the file at `path` merged in, then the environment. The file is
read with room for `nesting` containers. -/
def load (nesting : Nat) (files : FileStore) (dataDirectory path : String)
    (environment : List (String × Json)) : Except SettingsError ExporterSettings := do
  let file ← readFile nesting files path
  let data := merge (defaults dataDirectory) file
  let data ← applyEnvironment data environment
  ofDocument data

theorem merge_nil (merged : List (String × Json)) : merge merged [] = merged := by
  simp [merge]

end Settings

end SheetExport
