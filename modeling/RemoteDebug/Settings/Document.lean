import RemoteDebug.Log
import RemoteDebug.Settings
import RemoteDebug.Toml.Document

/-!
Settings from a TOML document.

* `Settings.parse` reads settings from a document. Keys that are missing take their defaults, unknown keys
  and values of a wrong type are refused. A section may also be an array of its values in order.
* `Settings.load` reads them from a file, `Settings.loadOrDefault` never fails and tells what it passed
  over.
-/

namespace RemoteDebug

/-- A field of a section: its key and how a value is stored. -/
structure SettingsField (α : Type) where
  key : String
  store : α → Toml.Node → Option α

namespace SettingsField

def text {α : Type} (key : String) (store : α → String → α) : SettingsField α :=
  ⟨key, fun part node =>
    match node with
    | .text text => some (store part text)
    | _ => none⟩

def flag {α : Type} (key : String) (store : α → Bool → α) : SettingsField α :=
  ⟨key, fun part node =>
    match node with
    | .flag b => some (store part b)
    | _ => none⟩

/-- Store a value, which has to be of the type of the field. -/
def apply {α : Type} (field : SettingsField α) (part : α) (node : Toml.Node) :
    Except SettingsProblem α :=
  match field.store part node with
  | some changed => .ok changed
  | none => .error (.wrongType field.key)

/-- A section with the values of a table. -/
def applyEntries {α : Type} (fields : List (SettingsField α)) (default : α)
    (entries : Toml.Entries) : Except SettingsProblem α :=
  entries.foldlM
    (fun part (key, node) =>
      match fields.find? (·.key = key) with
      | some field => field.apply part node
      | none => .error (.unknownKey key))
    default

/-- A section with the values of an array in the order of the fields; further values are ignored. -/
def applyItems {α : Type} (fields : List (SettingsField α)) (default : α) (items : List Toml.Node) :
    Except SettingsProblem α :=
  (fields.zip items).foldlM (fun part (field, node) => field.apply part node) default

/-- A section from the value under its key. -/
def applyNode {α : Type} (fields : List (SettingsField α)) (default : α) (key : String) :
    Toml.Node → Except SettingsProblem α
  | .table _ entries | .inline entries => applyEntries fields default entries
  | .array items => applyItems fields default items
  | .tables elements => applyItems fields default (elements.map .inline)
  | _ => .error (.wrongType key)

end SettingsField

open SettingsField

def DispatcherSettings.fields : List (SettingsField DispatcherSettings) :=
  [text "thread_name" fun s threadName => { s with threadName },
    flag "class_prepare_resumes" fun s classPrepareResumes => { s with classPrepareResumes }]

def EvaluationSettings.fields : List (SettingsField EvaluationSettings) :=
  [text "class_type" fun s classType => { s with classType },
    text "for_name_method" fun s forNameMethod => { s with forNameMethod },
    text "for_name_signature" fun s forNameSignature => { s with forNameSignature },
    text "not_found_exception" fun s notFoundException => { s with notFoundException },
    text "to_string_method" fun s toStringMethod => { s with toStringMethod },
    text "to_string_signature" fun s toStringSignature => { s with toStringSignature }]

def LogSettings.fields : List (SettingsField LogSettings) :=
  [text "default_filter" fun s defaultFilter => { s with defaultFilter }]

/-- The contents of a file, as far as there is one. -/
inductive FileContent where
  | missing
  | present (bytes : ByteArray)

/-- The text of a file. -/
def FileContent.text : FileContent → Except Fault String
  | .missing => .error (.io "No such file or directory (os error 2)")
  | .present bytes =>
    match String.fromUTF8? bytes with
    | some text => .ok text
    | none => .error (.io "stream did not contain valid UTF-8")

namespace Settings

/-- Settings with one entry of a document. -/
def applyEntry (settings : Settings) : String × Toml.Node → Except SettingsProblem Settings
  | ("dispatcher", node) => do
    return { settings with
      dispatcher := ← applyNode DispatcherSettings.fields {} "dispatcher" node }
  | ("eval", node) => do
    return { settings with evaluation := ← applyNode EvaluationSettings.fields {} "eval" node }
  | ("log", node) => do
    return { settings with log := ← applyNode LogSettings.fields {} "log" node }
  | (key, _) => .error (.unknownKey key)

/-- Settings from a document. -/
def parse (document : String) : Except Fault Settings :=
  match Toml.parse? document with
  | none => .error (.settings .malformed)
  | some entries =>
    match entries.foldlM applyEntry ({} : Settings) with
    | .ok settings => .ok settings
    | .error problem => .error (.settings problem)

/-- The document that spells out the defaults. -/
def preset : String :=
  "[dispatcher]\nthread_name = \"remora-event-dispatcher\"\nclass_prepare_resumes = false\n\n" ++
  "[eval]\nclass_type = \"java.lang.Class\"\nfor_name_method = \"forName\"\n" ++
  "for_name_signature = \"(Ljava/lang/String;)Ljava/lang/Class;\"\n" ++
  "not_found_exception = \"java.lang.ClassNotFoundException\"\n" ++
  "to_string_method = \"toString\"\nto_string_signature = \"()Ljava/lang/String;\"\n\n" ++
  "[log]\ndefault_filter = \"warn\"\n"

/-- Settings from a file. -/
def load (file : FileContent) : Except Fault Settings := file.text >>= parse

/-- Whether the user named the file of the settings. -/
inductive FileChoice where
  | named
  /-- The file in the home directory, which need not exist. -/
  | home
deriving DecidableEq, Repr

/-- The line for a file that could not be read. -/
def unreadable (choice : FileChoice) (fault : Fault) : LogLine :=
  match choice with
  | .named =>
    ⟨.error, Component.library.name, "error while load config file: " ++ fault.message⟩
  | .home => fault.noticed .debug ""

/-- Settings from a file, or the defaults and a line about what stood in the way. -/
def loadOrDefault (choice : FileChoice) (file : FileContent) : Settings × Option LogLine :=
  match file.text with
  | .error fault => ({}, some (unreadable choice fault))
  | .ok text =>
    match parse text with
    | .ok settings => (settings, none)
    | .error fault =>
      ({}, some (fault.noticed .warn "invalid configuration, defaults are used:"))

end Settings

end RemoteDebug
