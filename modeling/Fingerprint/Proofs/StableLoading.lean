import Fingerprint.Proofs.FailedSetup

/-!
Loading with a cache gives the same plugins for as long as the cache is left alone.

Plugins that were loaded from the cache, or stored in it, are loaded from it the next time, and a
load that takes the plugins from the cache writes nothing. A load that fails has read no plugins that
it could store. MessagePack has no lists and texts of 2^32 items or bytes, so only plugins without
such lengths are given back as they were stored.
-/

set_option autoImplicit false

namespace Fingerprint

open Plugin (Spec ShortLengths)

namespace Loading

variable {config : Config} {path : String} (cached : config.cachePath = some path)

include cached

/-- The cache stays as it is while the files around it change and are loaded. -/
theorem read_of_onward {before after : FileTree} {specs : List Spec}
    (step : Detector.Onward config path before after)
    (loaded : CatalogCache.load before path = .ok specs) : after.read path = before.read path := by
  cases step with
  | edited kept => exact kept
  | started => rw [Detector.setUp_files, (run_of_loaded cached loaded).2]

theorem read_of_run {before after : FileTree} {specs : List Spec}
    (onward : Relation.ReflTransGen (Detector.Onward config path) before after)
    (loaded : CatalogCache.load before path = .ok specs) : after.read path = before.read path := by
  induction onward with
  | refl => rfl
  | tail _ step ih =>
    have stillLoaded := (CatalogCache.load_congr ih).trans loaded
    exact (read_of_onward cached step stillLoaded).trans ih

/-- A load fails exactly if neither the cache nor the plugin files can be loaded. -/
theorem run_eq_error_iff {files : FileTree} {failure : Failure} :
    (run files config).specs = .error failure ↔
      (∃ refusal, CatalogCache.load files path = .error refusal) ∧
        files.loadPaths config.pluginPaths = .error failure := by
  cases loaded : CatalogCache.load files path with
  | ok specs =>
    rw [(run_of_loaded cached loaded).1]
    refine ⟨nofun, ?_⟩
    rintro ⟨⟨_, missed⟩, _⟩
    cases missed
  | error refusal =>
    rw [run_of_missed cached loaded]
    exact ⟨fun failed => ⟨⟨refusal, rfl⟩, failed⟩, fun fails => fails.2⟩

theorem run_files_of_error {files : FileTree} {failure : Failure}
    (failed : (run files config).specs = .error failure) : (run files config).files = files := by
  refine run_files_of_not_stores cached fun specs stored stores => ?_
  have unread := ((run_eq_error_iff cached).mp failed).2
  rw [stores.read] at unread
  cases unread

/-- Behind a load that hit the cache or stored what it had read, the cache holds the plugins. -/
theorem run_loads {files : FileTree} {specs : List Spec}
    (loads : CatalogCache.load files path = .ok specs ∨
      ∃ stored, Stores files config path specs stored ∧ ShortLengths specs) :
    (run files config).specs = .ok specs ∧
      CatalogCache.load (run files config).files path = .ok specs := by
  obtain hit | ⟨stored, stores, short⟩ := loads
  · obtain ⟨taken, kept⟩ := run_of_loaded cached hit
    exact ⟨taken, by rwa [kept]⟩
  · obtain ⟨refusal, missed⟩ := stores.missed
    have read := (run_of_missed cached missed).trans stores.read
    rw [run_files_of_stores cached stores]
    exact ⟨read, stores.load short⟩

/-- A load that hits the cache, or stores in it what it has read, decides about all later ones: however
the files around the cache change and however often they are loaded in between, the same plugins are
loaded and nothing is written. A load that fails leaves all files alone; it does so exactly if neither
the cache nor the plugin files can be loaded. -/
theorem run_stable (files : FileTree) :
    let after := (run files config).files
    (∀ specs, (CatalogCache.load files path = .ok specs ∨
        ∃ stored, Stores files config path specs stored ∧ ShortLengths specs) →
      (run files config).specs = .ok specs ∧
      ∀ later, Relation.ReflTransGen (Detector.Onward config path) after later →
        (run later config).specs = .ok specs ∧ (run later config).files = later ∧
          later.read path = after.read path) ∧
    (∀ failure, (run files config).specs = .error failure →
      after = files ∧ (∃ refusal, CatalogCache.load files path = .error refusal) ∧
        files.loadPaths config.pluginPaths = .error failure) := by
  intro after
  refine ⟨fun specs loads => ?_, fun failure failed => ?_⟩
  · obtain ⟨taken, loaded⟩ := run_loads cached loads
    refine ⟨taken, fun later onward => ?_⟩
    have kept := read_of_run cached onward loaded
    obtain ⟨again, unwritten⟩ :=
      run_of_loaded cached ((CatalogCache.load_congr kept).trans loaded)
    exact ⟨again, unwritten, kept⟩
  · exact ⟨run_files_of_error cached failed, (run_eq_error_iff cached).mp failed⟩

end Loading

namespace Twins

/-- The files once the plugin file behind the cache is corrected. -/
def corrected : FileTree := stored.setEntry ["p.json"] (.file (Text.encode correctedText))

theorem write_corrected : stored.write "p.json" (Text.encode correctedText) = .ok corrected := by
  have file : stored.locate "p.json" = .ok ["p.json"] :=
    FileTree.locate_setEntry no_directories.1 _ located_file
  exact FileTree.write_eq_ok_iff.mpr
    ⟨_, file, rfl, Bool.false_ne_true, isName.not_namesDirectory, rfl⟩

theorem read_corrected : corrected.read "c" = stored.read "c" := by
  have file : stored.locate "p.json" = .ok ["p.json"] :=
    FileTree.locate_setEntry no_directories.1 _ located_file
  have cache : stored.locate "c" = .ok ["c"] :=
    FileTree.locate_setEntry no_directories.1 _ located_cache
  have elsewhere : stored.locate "c" ≠ stored.locate "p.json" := by
    rw [cache, file]
    decide
  have held := CatalogCache.read_of_save stores.saved
  exact (FileTree.read_of_write_elsewhere write_corrected held elsewhere).trans held.symm

theorem loadPaths_corrected : corrected.loadPaths config.pluginPaths = .ok [.named "a"] := by
  have parsed : Plugin.parse .json correctedText = .ok [.named "a"] := by cbv
  exact loadPaths_of_read (FileTree.read_of_write write_corrected) parsed

end Twins

/-- Two plugins that were stored are loaded even when the file that they came from holds one of them
only. -/
theorem Loading.run_stable_twins :
    Twins.config.cachePath = some "c" ∧
    (run Twins.tree Twins.config).specs = .ok Twins.specs ∧
    (run Twins.tree Twins.config).files = Twins.stored ∧
    Twins.stored.write "p.json" (Text.encode Twins.correctedText) = .ok Twins.corrected ∧
    Twins.corrected.loadPaths Twins.config.pluginPaths = .ok [.named "a"] ∧
    (run Twins.corrected Twins.config).specs = .ok Twins.specs ∧
    (run Twins.corrected Twins.config).files = Twins.corrected := by
  have left := run_files_of_stores Twins.cached Twins.stores
  obtain ⟨taken, stable⟩ := (run_stable Twins.cached Twins.tree).1 Twins.specs
    (.inr ⟨_, Twins.stores, Twins.shortLengths⟩)
  rw [left] at stable
  obtain ⟨again, unwritten, _⟩ := stable _ (.single (.edited Twins.read_corrected))
  exact ⟨Twins.cached, taken, left, Twins.write_corrected, Twins.loadPaths_corrected, again,
    unwritten⟩

end Fingerprint
