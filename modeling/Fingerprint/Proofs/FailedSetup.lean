import Mathlib
import Fingerprint.Detection.Setup
import Fingerprint.Proofs.CatalogCache

/-!
What a setup that fails leaves behind.

Plugins are stored in the cache as they are read, before it is known whether they compile. So a
setup that fails for what it read from the plugin files stores that, and from then on the cache
makes every setup fail, since a cache that can be loaded is preferred to the plugin files.
-/

set_option autoImplicit false

namespace Fingerprint

open Plugin (Spec ShortLengths)

/-- A file whose text denotes plugins is loaded. -/
theorem FileTree.loadPath_of_read {tree : FileTree} {path text : String} {type : FileType}
    {specs : List Spec} (held : tree.read path = .ok (Text.encode text))
    (typed : FileType.ofPath? path = some type) (parsed : Plugin.parse type text = .ok specs) :
    tree.loadPath path = .ok specs := by
  obtain ⟨place, located, entry, file⟩ := read_eq_ok_iff.mp held
  have readText : tree.readText path = .ok text := by
    simp only [readText, held, Text.decode?_encode, bind, Except.bind, pure, Except.pure]
  simp only [loadPath, lookup_eq_ok_file located entry file, loadFile, typed, readText, parsed,
    bind, Except.bind, Except.mapError]

namespace Loading

/-- Plugins that a setup stores in a cache that it cannot load, and the files with them. -/
structure Stores (files : FileTree) (config : Config) (path : String) (specs : List Spec)
    (stored : FileTree) : Prop where
  missed : ∃ failure, CatalogCache.load files path = .error failure
  read : files.loadPaths config.pluginPaths = .ok specs
  saved : CatalogCache.save files path specs = .ok stored

/-- Stored plugins are loaded as they were read. -/
theorem Stores.load {files stored : FileTree} {config : Config} {path : String} {specs : List Spec}
    (stores : Stores files config path specs stored) (short : ShortLengths specs) :
    CatalogCache.load stored path = .ok specs :=
  (CatalogCache.load_of_read (CatalogCache.read_of_save stores.saved)).trans
    (CatalogCache.decode_encode short)

section

variable {files : FileTree} {config : Config} {path : String}
  (cached : config.cachePath = some path)

include cached

theorem run_of_loaded {specs : List Spec} (loaded : CatalogCache.load files path = .ok specs) :
    (run files config).specs = .ok specs ∧ (run files config).files = files := by
  simp only [run, cached, loaded, and_self]

theorem run_of_missed {failure : Failure} (missed : CatalogCache.load files path = .error failure) :
    (run files config).specs = files.loadPaths config.pluginPaths := by
  simp only [run, cached, missed, readDefinitions]
  cases files.loadPaths config.pluginPaths <;> rfl

theorem run_files_of_stores {specs : List Spec} {stored : FileTree}
    (stores : Stores files config path specs stored) : (run files config).files = stored := by
  obtain ⟨⟨failure, missed⟩, read, saved⟩ := stores
  simp only [run, cached, missed, readDefinitions, read, store, saved]

/-- Files change only if plugins are stored. -/
theorem run_files_of_not_stores
    (nothing : ∀ specs stored, ¬ Stores files config path specs stored) :
    (run files config).files = files := by
  cases loaded : CatalogCache.load files path with
  | ok specs => exact (run_of_loaded cached loaded).2
  | error failure =>
    cases read : files.loadPaths config.pluginPaths with
    | error failure => simp only [run, cached, loaded, readDefinitions, read]
    | ok specs =>
      cases saved : CatalogCache.save files path specs with
      | ok stored => exact absurd ⟨⟨failure, loaded⟩, read, saved⟩ (nothing specs stored)
      | error refused => simp only [run, cached, loaded, readDefinitions, read, store, saved]

end

end Loading

namespace Detector

/-- The detector of the plugins that the plugin files hold. -/
def ofFiles (threads : Threads) (files : FileTree) (config : Config) : Except Failure Detector :=
  (files.loadPaths config.pluginPaths).bind (ofSpecs threads config)

theorem ofSpecs_eq_error_iff {threads : Threads} {config : Config} {specs : List Spec}
    {failure : Failure} :
    ofSpecs threads config specs = .error failure ↔
      Catalog.compile specs = .error failure ∨
        (∃ catalog, Catalog.compile specs = .ok catalog) ∧ threads.refuse config ∧
          failure = .threadsRefused := by
  cases compiled : Catalog.compile specs with
  | error cause => simp [ofSpecs, compiled, bind, Except.bind]
  | ok catalog =>
    cases refused : threads.refuse config <;>
      simp [ofSpecs, create, compiled, refused, bind, Except.bind, eq_comm]

/-- What fails with some threads fails with others too, unless it fails for want of threads. -/
theorem ofSpecs_eq_error_of_error {threads others : Threads} {config : Config} {specs : List Spec}
    {failure : Failure} (failed : ofSpecs threads config specs = .error failure)
    (wanting : failure = .threadsRefused → others.refuse config) :
    ofSpecs others config specs = .error failure := by
  obtain malformed | ⟨compiled, -, rfl⟩ := ofSpecs_eq_error_iff.mp failed
  · exact ofSpecs_eq_error_iff.mpr (.inl malformed)
  · exact ofSpecs_eq_error_iff.mpr (.inr ⟨compiled, wanting rfl, rfl⟩)

theorem setUp_files (threads : Threads) (files : FileTree) (config : Config) :
    (setUp threads files config).files = (Loading.run files config).files := by
  cases loaded : (Loading.run files config).specs <;> simp only [setUp, loaded]

theorem setUp_detector (threads : Threads) (files : FileTree) (config : Config) :
    (setUp threads files config).detector =
      (Loading.run files config).specs.bind (ofSpecs threads config) := by
  cases loaded : (Loading.run files config).specs <;> simp only [setUp, loaded, Except.bind]

/-- The cache holds plugins of which no detector can be made. -/
def Poisoned (threads : Threads) (config : Config) (path : String) (failure : Failure)
    (files : FileTree) : Prop :=
  ∃ specs, CatalogCache.load files path = .ok specs ∧
    ofSpecs threads config specs = .error failure

/-- What may become of files as long as the cache is not touched: they change elsewhere, or a
detector is set up. -/
inductive Onward (config : Config) (path : String) : FileTree → FileTree → Prop
  | edited {before after : FileTree} (kept : after.read path = before.read path) :
      Onward config path before after
  | started (threads : Threads) (before : FileTree) :
      Onward config path before (setUp threads before config).files

section

variable {config : Config} {path : String} (cached : config.cachePath = some path)
  {threads : Threads} {failure : Failure}

include cached

/-- A cache that can be loaded decides alone what is set up. -/
theorem setUp_of_poisoned {files : FileTree}
    (poisoned : Poisoned threads config path failure files) :
    (setUp threads files config).detector = .error failure ∧
      (setUp threads files config).files = files := by
  obtain ⟨specs, loaded, refused⟩ := poisoned
  obtain ⟨taken, kept⟩ := Loading.run_of_loaded cached loaded
  rw [setUp_detector, setUp_files, taken, kept]
  exact ⟨refused, rfl⟩

theorem poisoned_of_onward {before after : FileTree} (step : Onward config path before after)
    (poisoned : Poisoned threads config path failure before) :
    Poisoned threads config path failure after := by
  obtain ⟨specs, loaded, refused⟩ := poisoned
  cases step with
  | edited kept => exact ⟨specs, (CatalogCache.load_congr kept).trans loaded, refused⟩
  | started =>
    rw [setUp_files, (Loading.run_of_loaded cached loaded).2]
    exact ⟨specs, loaded, refused⟩

theorem poisoned_of_run {before after : FileTree}
    (run : Relation.ReflTransGen (Onward config path) before after)
    (poisoned : Poisoned threads config path failure before) :
    Poisoned threads config path failure after := by
  induction run with
  | refl => exact poisoned
  | tail _ step ih => exact poisoned_of_onward cached step ih

/-- If the cache can be loaded after a setup failed, it holds what made the setup fail. -/
theorem poisoned_of_failed {files : FileTree}
    (short : ∀ specs, files.loadPaths config.pluginPaths = .ok specs → ShortLengths specs)
    (failed : (setUp threads files config).detector = .error failure) {specs : List Spec}
    (loaded : CatalogCache.load (setUp threads files config).files path = .ok specs) :
    Poisoned threads config path failure (setUp threads files config).files := by
  refine ⟨specs, loaded, ?_⟩
  rw [setUp_detector] at failed
  rw [setUp_files] at loaded
  -- The cache holds either what the setup has just read and stored or what it was loaded from.
  by_cases storing : ∃ read stored, Loading.Stores files config path read stored
  · obtain ⟨read, stored, stores⟩ := storing
    rw [Loading.run_files_of_stores cached stores, stores.load (short read stores.read)] at loaded
    cases loaded
    obtain ⟨⟨refusal, missed⟩, read, -⟩ := stores
    rwa [Loading.run_of_missed cached missed, read] at failed
  · have nothing : ∀ read stored, ¬ Loading.Stores files config path read stored :=
      fun read stored stores => storing ⟨read, stored, stores⟩
    rw [Loading.run_files_of_not_stores cached nothing] at loaded
    rwa [(Loading.run_of_loaded cached loaded).1] at failed

/-- A setup that fails leaves all files alone unless it stores plugins that it has read from the
plugin files, and then all files but the cache. If the cache can be loaded afterwards, every setup
fails from then on, whatever becomes of other files; one that failed for want of threads does so for
as long as the threads are refused. If the cache cannot be loaded, the plugin files alone decide
about the setups that follow. -/
theorem setUp_of_error {files : FileTree}
    (short : ∀ specs, files.loadPaths config.pluginPaths = .ok specs → ShortLengths specs)
    (failed : (setUp threads files config).detector = .error failure) :
    let after := (setUp threads files config).files
    (after = files ↔ ∀ specs stored, ¬ Loading.Stores files config path specs stored) ∧
    (∀ specs stored, Loading.Stores files config path specs stored →
      after = stored ∧ CatalogCache.load after path = .ok specs) ∧
    (∀ other bytes, files.read other = .ok bytes → files.locate other ≠ files.locate path →
      after.read other = .ok bytes) ∧
    (∀ specs, CatalogCache.load after path = .ok specs →
      ∀ later, Relation.ReflTransGen (Onward config path) after later →
      ∀ others : Threads, (failure = .threadsRefused → others.refuse config) →
        (setUp others later config).detector = .error failure ∧
          (setUp others later config).files = later) ∧
    (∀ refusal, CatalogCache.load after path = .error refusal →
      ∀ later, later.read path = after.read path →
      ∀ others : Threads, (setUp others later config).detector = ofFiles others later config) := by
  intro after
  have stored_of_stores {specs : List Spec} {stored : FileTree}
      (stores : Loading.Stores files config path specs stored) : after = stored :=
    (setUp_files threads files config).trans (Loading.run_files_of_stores cached stores)
  have kept_of_not_stores
      (nothing : ∀ specs stored, ¬ Loading.Stores files config path specs stored) : after = files :=
    (setUp_files threads files config).trans
      (Loading.run_files_of_not_stores cached nothing)
  refine ⟨⟨?_, kept_of_not_stores⟩, ?_, ?_, ?_, ?_⟩
  · -- A cache that could not be loaded can be loaded once plugins are stored in it.
    intro kept specs stored stores
    obtain ⟨refusal, missed⟩ := stores.missed
    have loaded := stores.load (short specs stores.read)
    rw [← stored_of_stores stores, kept, missed] at loaded
    cases loaded
  · intro specs stored stores
    refine ⟨stored_of_stores stores, ?_⟩
    rw [stored_of_stores stores]
    exact stores.load (short specs stores.read)
  · intro other bytes held elsewhere
    by_cases storing : ∃ specs stored, Loading.Stores files config path specs stored
    · obtain ⟨specs, stored, stores⟩ := storing
      rw [stored_of_stores stores]
      have written := CatalogCache.save_eq_ok_iff.mp stores.saved
      exact FileTree.read_of_write_elsewhere written held elsewhere
    · rw [kept_of_not_stores fun specs stored stores => storing ⟨specs, stored, stores⟩]
      exact held
  · intro specs loaded later run others wanting
    obtain ⟨held, found, refused⟩ :=
      poisoned_of_run cached run (poisoned_of_failed cached short failed loaded)
    exact setUp_of_poisoned cached ⟨held, found, ofSpecs_eq_error_of_error refused wanting⟩
  · intro refusal missed later kept others
    have missed := (CatalogCache.load_congr kept).trans missed
    rw [setUp_detector, Loading.run_of_missed cached missed]
    rfl

end

end Detector

/-! ### Two plugins of one name -/

namespace Twins

/-- The text of a file with two plugins of one name. -/
def text : String := "[\x7b\"name\":\"a\"\x7d,\x7b\"name\":\"a\"\x7d]"

def correctedText : String := "[\x7b\"name\":\"a\"\x7d]"

/-- A plugin file in the directory where paths begin. -/
def tree : FileTree := ⟨"data", true, [(["p.json"], .file (Text.encode text))]⟩

def config : Config := { Config.standard with pluginPaths := ["p.json"], cachePath := some "c" }

theorem cached : config.cachePath = some "c" := rfl

def specs : List Spec := [.named "a", .named "a"]

theorem isName : Path.IsName "p.json" :=
  ⟨by decide, by decide, by decide, by decide, by decide, by decide⟩

theorem typed : FileType.ofPath? "p.json" = some .json := by
  rw [FileType.ofPath?, Path.extension?, isName.fileName?_eq]
  decide

theorem shortLengths : ShortLengths specs := ⟨by decide, by decide, by decide⟩

theorem loadPaths_of_read {files : FileTree} {text : String} {specs : List Spec}
    (held : files.read "p.json" = .ok (Text.encode text))
    (parsed : Plugin.parse .json text = .ok specs) :
    files.loadPaths config.pluginPaths = .ok specs := by
  have loaded := FileTree.loadPath_of_read held typed parsed
  simp only [config, FileTree.loadPaths, List.mapM_cons, List.mapM_nil, loaded, bind, Except.bind,
    pure, Except.pure, List.flatten_cons, List.flatten_nil, List.append_nil]

theorem located_file : tree.locate "p.json" = .ok ["p.json"] :=
  FileTree.locate_of_isName rfl isName (by decide)

theorem read : tree.loadPaths config.pluginPaths = .ok specs := by
  have held := FileTree.read_eq_ok_iff.mpr ⟨_, located_file, rfl, isName.not_namesDirectory⟩
  have parsed : Plugin.parse .json text = .ok specs := by cbv
  exact loadPaths_of_read held parsed

theorem located_cache : tree.locate "c" = .ok ["c"] :=
  FileTree.locate_of_isName rfl CatalogCache.Shop.isName (by decide)

theorem no_directories : ¬ tree.isDirectory ["c"] ∧ ¬ tree.isDirectory ["p.json"] :=
  ⟨Bool.false_ne_true, Bool.false_ne_true⟩

/-- A cache that does not stand in its place is missed. -/
theorem load_of_vacant {files : FileTree} (located : files.locate "c" = .ok ["c"])
    (vacant : files.entry? ["c"] = none) :
    CatalogCache.load files "c" = .error .systemRefused := by
  simp only [CatalogCache.load, FileTree.read, FileTree.lookup, located, vacant, bind, Except.bind,
    throw, throwThe, MonadExceptOf.throw]

/-- The files after a setup. -/
def stored : FileTree := tree.setEntry ["c"] (.file (CatalogCache.encode specs))

theorem stores : Loading.Stores tree config "c" specs stored := by
  refine ⟨⟨_, load_of_vacant located_cache rfl⟩, read, CatalogCache.save_eq_ok_iff.mpr ?_⟩
  exact FileTree.write_eq_ok_iff.mpr ⟨["c"], located_cache, rfl, Bool.false_ne_true,
    CatalogCache.Shop.isName.not_namesDirectory, rfl⟩

theorem refused : Catalog.compile specs = .error (.pluginDuplicate "a") := by cbv

theorem failed (threads : Threads) :
    (Detector.setUp threads tree config).detector = .error (.pluginDuplicate "a") := by
  have missed := load_of_vacant located_cache rfl
  rw [Detector.setUp_detector, Loading.run_of_missed cached missed, read]
  exact Detector.ofSpecs_eq_error_iff.mpr (.inl refused)

end Twins

/-- Two plugins of one name make every setup fail from then on, whatever their file holds and
whatever threads there are. -/
theorem Detector.setUp_of_error_twins :
    let failed := setUp .unlimited Twins.tree Twins.config
    Twins.config.cachePath = some "c" ∧
    (∀ specs, Twins.tree.loadPaths Twins.config.pluginPaths = .ok specs → ShortLengths specs) ∧
    failed.detector = .error (.pluginDuplicate "a") ∧
    failed.files ≠ Twins.tree ∧ CatalogCache.load failed.files "c" = .ok Twins.specs ∧
    ∀ later, Relation.ReflTransGen (Onward Twins.config "c") failed.files later →
    ∀ threads, (setUp threads later Twins.config).detector = .error (.pluginDuplicate "a") := by
  intro failed
  have short : ∀ specs, Twins.tree.loadPaths Twins.config.pluginPaths = .ok specs →
      ShortLengths specs := by
    intro specs loaded
    rw [Twins.read] at loaded
    cases loaded
    exact Twins.shortLengths
  have fails := Twins.failed .unlimited
  obtain ⟨kept, stored, -, poisoned, -⟩ := setUp_of_error Twins.cached short fails
  have loaded := (stored _ _ Twins.stores).2
  refine ⟨Twins.cached, short, fails, fun same => kept.mp same _ _ Twins.stores, loaded, ?_⟩
  intro later run threads
  exact (poisoned _ loaded later run threads nofun).1

/-- With no cache at first, a setup that has failed fails again when the file is corrected, but one
on the corrected file alone succeeds. -/
theorem Detector.setUp_fails_on_corrected_files :
    let failed := setUp .unlimited Twins.tree Twins.config
    Twins.tree.lookup "c" = .error .missing ∧ failed.detector = .error (.pluginDuplicate "a") ∧
    failed.files.read "c" = .ok (CatalogCache.encode Twins.specs) ∧
    ∃ fresh again, Twins.tree.write "p.json" (Text.encode Twins.correctedText) = .ok fresh ∧
      failed.files.write "p.json" (Text.encode Twins.correctedText) = .ok again ∧
      (∃ detector, (setUp .unlimited fresh Twins.config).detector = .ok detector) ∧
      (setUp .unlimited again Twins.config).detector = .error (.pluginDuplicate "a") := by
  intro failed
  have left : failed.files = Twins.stored :=
    (setUp_files ..).trans (Loading.run_files_of_stores Twins.cached Twins.stores)
  have held := CatalogCache.read_of_save Twins.stores.saved
  obtain ⟨notCache, notFile⟩ := Twins.no_directories
  have cache : Twins.stored.locate "c" = .ok ["c"] :=
    FileTree.locate_setEntry notCache _ Twins.located_cache
  have file : Twins.stored.locate "p.json" = .ok ["p.json"] :=
    FileTree.locate_setEntry notCache _ Twins.located_file
  have fresh : Twins.tree.write "p.json" (Text.encode Twins.correctedText) = .ok _ :=
    FileTree.write_eq_ok_iff.mpr
      ⟨_, Twins.located_file, rfl, notFile, Twins.isName.not_namesDirectory, rfl⟩
  have again : Twins.stored.write "p.json" (Text.encode Twins.correctedText) = .ok _ :=
    FileTree.write_eq_ok_iff.mpr ⟨_, file, rfl, Bool.false_ne_true,
      Twins.isName.not_namesDirectory, rfl⟩
  rw [left]
  refine ⟨?_, Twins.failed _, held, _, _, fresh, again, ?_, ?_⟩
  · simp only [FileTree.lookup, Twins.located_cache, bind, Except.bind]
    rfl
  · have located := FileTree.locate_setEntry notFile (Text.encode Twins.correctedText)
      Twins.located_cache
    have parsed : Plugin.parse .json Twins.correctedText = .ok [.named "a"] := by cbv
    have read := Twins.loadPaths_of_read (FileTree.read_of_write fresh) parsed
    have compiled : ∃ catalog, Catalog.compile [.named "a"] = .ok catalog := ⟨_, rfl⟩
    obtain ⟨catalog, compiled⟩ := compiled
    rw [setUp_detector, Loading.run_of_missed Twins.cached (Twins.load_of_vacant located rfl), read]
    simp only [Except.bind, ofSpecs, compiled, create_unlimited, bind]
    exact ⟨_, rfl⟩
  · have poisoned :
        Poisoned .unlimited Twins.config "c" (.pluginDuplicate "a") Twins.stored :=
      ⟨Twins.specs, Twins.stores.load Twins.shortLengths,
        ofSpecs_eq_error_iff.mpr (.inl Twins.refused)⟩
    have elsewhere : Twins.stored.locate "c" ≠ Twins.stored.locate "p.json" := by
      rw [cache, file]
      decide
    have kept := FileTree.read_of_write_elsewhere again held elsewhere
    have stillPoisoned := poisoned_of_onward Twins.cached (.edited (kept.trans held.symm)) poisoned
    exact (setUp_of_poisoned Twins.cached stillPoisoned).1

end Fingerprint
