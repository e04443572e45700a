import Fingerprint.Fixture.Document
import Fingerprint.Json.Parser
import Fingerprint.Storage.Cache

/-!
Loading plugins and fixtures from files and directories.

The files of a directory are read in ascending order of their names; what is not a plugin file is
passed over, and so are the directories inside.
-/

namespace Fingerprint

namespace Plugin

/-- The plugins of a text in a format. -/
def parse (type : FileType) (text : String) : Except Failure (List Spec) :=
  match type with
  | .json => ((Json.parseWhole? text).bind specsOfData?).elim (.error .jsonMalformed) .ok
  | .yaml => ((Yaml.parseWhole? text).bind specsOfData?).elim (.error .yamlMalformed) .ok

end Plugin

namespace FileTree

/-- The text of a file. -/
def readText (tree : FileTree) (path : String) : Except Failure String := do
  match Text.decode? (← tree.read path) with
  | some text => return text
  | none => throw .systemRefused

/-- The plugins of a file. -/
def loadFile (tree : FileTree) (path : String) : Except Failure (List Plugin.Spec) := do
  match FileType.ofPath? path with
  | none => throw (.fileTypeUnsupported path)
  | some type =>
    let text ← tree.readText path
    (Plugin.parse type text).mapError (.fileMalformed path)

/-- The paths of the plugin files in a directory. -/
def pluginFiles (tree : FileTree) (path : String) (place : Place) : List String :=
  (tree.list place).filterMap fun (name, entry) =>
    match entry with
    | .file _ =>
      let file := Path.entry path name
      if (FileType.ofPath? file).isSome then some file else none
    | .directory => none

/-- The plugins of a file, or of the plugin files in a directory. -/
def loadPath (tree : FileTree) (path : String) : Except Failure (List Plugin.Spec) :=
  match tree.lookup path with
  | .error fault => .error (.pathUnreadable path fault)
  | .ok (_, .file _) => tree.loadFile path
  | .ok (place, .directory) => do
    return (← (tree.pluginFiles path place).mapM tree.loadFile).flatten

/-- The plugins of paths, one after the other. -/
def loadPaths (tree : FileTree) (paths : List String) : Except Failure (List Plugin.Spec) := do
  return (← paths.mapM tree.loadPath).flatten

/-- Whether a name denotes a YAML file. -/
def isYamlName (path : String) : Bool := FileType.ofPath? path = some .yaml

/-- The fixtures of a file. -/
def loadFixtureFile (tree : FileTree) (path : String) : Except Failure (List Fixture) := do
  let text ← tree.readText path
  match Fixture.listOfText? text with
  | some fixtures => return fixtures
  | none => throw (.fixtureMalformed path .yamlMalformed)

/-- The fixtures of a file, or of the YAML files in a directory. -/
def loadFixtures (tree : FileTree) (path : String) : Except Failure (List Fixture) :=
  match tree.lookup path with
  | .error _ => .error .systemRefused
  | .ok (_, .file _) => tree.loadFixtureFile path
  | .ok (place, .directory) => do
    let files := ((tree.list place).map fun (name, _) => Path.entry path name).filter isYamlName
    return (← files.mapM tree.loadFixtureFile).flatten

end FileTree

/-- What loading plugins amounts to: the plugins or a failure, the files as they are afterwards, and
the events. -/
structure Loading where
  specs : Except Failure (List Plugin.Spec)
  files : FileTree
  events : List Event

namespace Loading

/-- Stores plugins that were read. A cache that cannot be written does no harm. -/
def store (files : FileTree) (cachePath : Option String) (specs : List Plugin.Spec) :
    FileTree × List Event :=
  match cachePath with
  | none => (files, [])
  | some path =>
    match CatalogCache.save files path specs with
    | .ok files => (files, CatalogCache.saveEvents specs ++ [.cacheStored])
    | .error failure => (files, CatalogCache.saveEvents specs ++ [.cacheRefused failure])

/-- Reads the plugin files and stores what they hold. `before` are the events so far. -/
def readDefinitions (files : FileTree) (config : Config) (before : List Event) : Loading :=
  match files.loadPaths config.pluginPaths with
  | .error failure => ⟨.error failure, files, before⟩
  | .ok specs =>
    let (stored, events) := store files config.cachePath specs
    ⟨.ok specs, stored, before ++ [.definitionsRead specs.length] ++ events⟩

/-- Loads the plugins of a configuration: those of the cache if it can be read, else those of the
plugin files. -/
def run (files : FileTree) (config : Config) : Loading :=
  match config.cachePath with
  | none => readDefinitions files config []
  | some path =>
    match CatalogCache.load files path with
    | .ok specs => ⟨.ok specs, files, [.cacheDecoded specs.length, .cacheUsed specs.length]⟩
    | .error failure => readDefinitions files config [.cacheMissed failure]

end Loading

end Fingerprint
