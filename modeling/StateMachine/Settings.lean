import StateMachine.Document.Load
import StateMachine.Session.Basic
import StateMachine.Yaml.Writer

/-!
Settings of the live program: how sessions run and where generated programs go. They come from a file
when one is named, and variables of the environment override single settings.
-/

set_option autoImplicit false

namespace StateMachine

structure SessionSettings where
  entry : EntryPolicy
  honorDelays : Bool
  /-- Refuses models with findings. -/
  strict : Bool
  /-- Makes warnings count like errors. -/
  warningsAsErrors : Bool
deriving DecidableEq, Repr

structure GeneratorSettings where
  directory : String
  extension : String
deriving DecidableEq, Repr

structure Settings where
  session : SessionSettings
  generator : GeneratorSettings
deriving DecidableEq, Repr

inductive SettingsFailure where
  | unavailable (reason : String)
  | malformed
deriving DecidableEq, Repr

namespace EntryPolicy

def name : EntryPolicy → String
  | .initialOnly => "initial_only"
  | .everyEntry => "every_entry"

def ofName? (text : String) : Option EntryPolicy :=
  if text = "initial_only" then some .initialOnly
  else if text = "every_entry" then some .everyEntry
  else none

end EntryPolicy

def Datum.flag? : Datum → Option Bool
  | .flag holds => some holds
  | _ => none

def Datum.orDefault {α : Type} (default : α) (read? : Datum → Option α) : Option Datum → Option α
  | none => some default
  | some part => read? part

namespace SessionSettings

def default : SessionSettings where
  entry := .initialOnly
  honorDelays := true
  strict := true
  warningsAsErrors := false

def options (settings : SessionSettings) : Options := ⟨settings.entry, settings.honorDelays⟩

def shape : Yaml.Shape :=
  .record [("entry_actions", .word), ("honor_delays", .flag), ("strict", .flag),
    ("warnings_as_errors", .flag)]

def toDatum (settings : SessionSettings) : Datum :=
  .record [("entry_actions", .text settings.entry.name),
    ("honor_delays", .flag settings.honorDelays), ("strict", .flag settings.strict),
    ("warnings_as_errors", .flag settings.warningsAsErrors)]

def ofDatum? (datum : Datum) : Option SessionSettings := do
  let [entry, honorDelays, strict, warningsAsErrors] ←
    datum.parts? ["entry_actions", "honor_delays", "strict", "warnings_as_errors"] | none
  return {
    entry := ← Datum.orDefault default.entry
      (fun part => part.name?.bind EntryPolicy.ofName?) entry
    honorDelays := ← Datum.orDefault default.honorDelays Datum.flag? honorDelays
    strict := ← Datum.orDefault default.strict Datum.flag? strict
    warningsAsErrors := ← Datum.orDefault default.warningsAsErrors Datum.flag? warningsAsErrors }

end SessionSettings

namespace GeneratorSettings

def default : GeneratorSettings where
  directory := "./generated"
  extension := "cpp"

def shape : Yaml.Shape := .record [("out_dir", .name), ("extension", .name)]

def toDatum (settings : GeneratorSettings) : Datum :=
  .record [("out_dir", .text settings.directory), ("extension", .text settings.extension)]

def ofDatum? (datum : Datum) : Option GeneratorSettings := do
  let [directory, extension] ← datum.parts? ["out_dir", "extension"] | none
  return {
    directory := ← Datum.orDefault default.directory Datum.name? directory
    extension := ← Datum.orDefault default.extension Datum.name? extension }

end GeneratorSettings

namespace Settings

def default : Settings := ⟨SessionSettings.default, GeneratorSettings.default⟩

def shape : Yaml.Shape :=
  .record [("session", SessionSettings.shape), ("generator", GeneratorSettings.shape)]

def toDatum (settings : Settings) : Datum :=
  .record [("session", settings.session.toDatum), ("generator", settings.generator.toDatum)]

def ofDatum? (datum : Datum) : Option Settings := do
  let [session, generator] ← datum.parts? ["session", "generator"] | none
  return {
    session := ← Datum.orDefault SessionSettings.default SessionSettings.ofDatum? session
    generator := ← Datum.orDefault GeneratorSettings.default GeneratorSettings.ofDatum? generator }

def text (settings : Settings) : String :=
  Yaml.recordText [("session", settings.session.toDatum), ("generator", settings.generator.toDatum)]

def ofText? (content : String) : Option Settings := (Yaml.read? shape content).bind ofDatum?

def ofFile (storage : Storage) (path : String) : Except SettingsFailure Settings := do
  let content ← (storage.text path).mapError SettingsFailure.unavailable
  match ofText? content with
  | some settings => return settings
  | none => throw .malformed

/-- A variable says yes by `1` or by `true` in letters of either case, and no by anything else. -/
def saysYes (content : String) : Bool := content == "1" || content.map Char.toLower == "true"

/-- The policy that a variable names in letters of either case, with or without the underscore. -/
def policyOf? (content : String) : Option EntryPolicy :=
  match content.map Char.toLower with
  | "initial_only" | "initialonly" => some .initialOnly
  | "every_entry" | "everyentry" => some .everyEntry
  | _ => none

abbrev Variables := String → Option String

/-- Applies the variables that are set; an unknown entry policy changes nothing. -/
def override (settings : Settings) (known : Variables) : Settings where
  session := {
    entry := ((known "FSML_ENTRY_ACTIONS").bind policyOf?).getD settings.session.entry
    honorDelays :=
      ((known "FSML_HONOR_DELAYS").map saysYes).getD settings.session.honorDelays
    strict := ((known "FSML_STRICT").map saysYes).getD settings.session.strict
    warningsAsErrors :=
      ((known "FSML_WARNINGS_AS_ERRORS").map saysYes).getD settings.session.warningsAsErrors }
  generator :=
    { settings.generator with
      directory := (known "FSML_OUT_DIR").getD settings.generator.directory }

/-- The variable that names the file when nothing else does. -/
def fileVariable : String := "FSML_CONFIG"

/-- The settings in force: those of the named file, or the defaults, with the variables applied. -/
def load (storage : Storage) (known : Variables) (path : Option String) :
    Except SettingsFailure Settings := do
  let settings ←
    match path.or (known fileVariable) with
    | some file => ofFile storage file
    | none => pure default
  return settings.override known

end Settings

namespace SettingsFailure

def message (path : String) : SettingsFailure → String
  | .unavailable reason => "failed to read config file '" ++ path ++ "': " ++ reason
  | .malformed => "failed to parse config file '" ++ path ++ "'"

end SettingsFailure

end StateMachine
