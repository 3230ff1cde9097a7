import StoryGraph.Shape.Field
import StoryGraph.Text.Uppercase

/-!
# Settings

Format versions, the entry mode, the step limit and the log level.  A setting
is given by name in any case, or by an environment variable; given settings
win over the environment, and unknown names are ignored.

This embeds `EventGraphSettings` and `VersionInfo`.
-/

namespace StoryGraph

structure Settings where
  compiledVersion : String
  supportedCompiledVersions : String
  documentVersion : String
  supportedDocumentVersions : String
  singleEntry : Bool
  maxSteps : Nat
  logLevel : String
  deriving DecidableEq

namespace Settings

def initial : Settings :=
  ⟨"1.0", ">=1.0,<2.0", "1.0", ">=1.0,<2.0", false, 256, "INFO"⟩

/-- What the names of environment variables begin with. -/
def environmentMark : String := "eventgraph_"

/-- The first value under a name in any case. -/
def named? (name : String) (fields : List (String × Value)) : Option Value :=
  (fields.find? fun field => Text.lowerLatin field.1 == name).map Prod.snd

/-- The value of a setting from the given ones or the environment.  Of several
spellings of a name the first given one counts, and the last one of the
environment. -/
def given? (given environment : List (String × Value))
    (name : String) : Option Value :=
  (named? name given).or (named? (environmentMark ++ name) environment.reverse)

/-- A setting as checked, or its initial value when it is not given. -/
def setting {α : Type} (given environment : List (String × Value))
    (name : String) (check : Check α) (fallback : α) : Checked α :=
  match given? given environment name with
  | some value => (check value).under (.key name)
  | none => .accepted fallback

/-- The settings from given values and environment variables. -/
def read (given environment : List (String × Value)) : Checked Settings :=
  mk <$> setting given environment "compiled_version" .text
    initial.compiledVersion
    <*> setting given environment "supported_compiled_versions" .text
      initial.supportedCompiledVersions
    <*> setting given environment "document_version" .text
      initial.documentVersion
    <*> setting given environment "supported_document_versions" .text
      initial.supportedDocumentVersions
    <*> setting given environment "single_entry" .boolean initial.singleEntry
    <*> (setting given environment "max_steps" (.integerBetween 1 100000)
      initial.maxSteps).map
      Int.toNat
    <*> (setting given environment "log_level" .text initial.logLevel).map
      Text.upper

def dump (settings : Settings) : List (String × Value) :=
  [("compiled_version", .str settings.compiledVersion),
    ("supported_compiled_versions", .str settings.supportedCompiledVersions),
    ("document_version", .str settings.documentVersion),
    ("supported_document_versions", .str settings.supportedDocumentVersions),
    ("single_entry", .bool settings.singleEntry),
    ("max_steps", .int settings.maxSteps),
    ("log_level", .str settings.logLevel)]

end Settings

/-- The version of the library and of the formats it writes. -/
structure VersionInfo where
  package : String
  compiledFormat : String
  documentFormat : String
  deriving DecidableEq

def Settings.versionInfo (settings : Settings) : VersionInfo :=
  ⟨"0.1.0", settings.compiledVersion, settings.documentVersion⟩

end StoryGraph
