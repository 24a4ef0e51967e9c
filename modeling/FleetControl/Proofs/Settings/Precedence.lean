import FleetControl.Proofs.Files.Growth
import FleetControl.Proofs.Settings.Leaves
import Mathlib

/-!
# Which source decides

A setting has the value that the environment gives it, or else the override file, or else the
default file, or else its default. It makes no difference whether the environment names the override
file or whether it is laid over the settings afterwards, under the environment once more.
-/

namespace FleetControl

open Layer

namespace Environment

/-- A variable that sets nothing can be left out. -/
theorem entries_cons_of_keyOf?_eq_none {name : String} (hname : keyOf? name = none) (text : String)
    (environment : Environment) : entries ((name, text) :: environment) = entries environment := by
  have htrans : ∀ a b c : String × String, decide (a.1 ≤ b.1) = true →
      decide (b.1 ≤ c.1) = true → decide (a.1 ≤ c.1) = true := fun a b c hab hbc =>
    decide_eq_true (String.le_trans (of_decide_eq_true hab) (of_decide_eq_true hbc))
  have htotal : ∀ a b : String × String, (decide (a.1 ≤ b.1) || decide (b.1 ≤ a.1)) = true :=
    fun a b => by simpa using String.le_total a.1 b.1
  obtain ⟨early, late, hwith, hwithout, -⟩ :=
    List.mergeSort_cons htrans htotal (name, text) environment
  rw [entries, hwith, entries, hwithout, List.filterMap_append, List.filterMap_append,
    List.filterMap_cons_none]
  simp [hname]

end Environment

theorem Layer.Holds.layAll {fields : List (String × Schema)} {lower : Layer}
    {source : List (String × Layer)} (hholds : lower.Holds (.record fields))
    (hfits : sourceFits source (.record fields) = true) :
    (lower.layAll source).Holds (.record fields) := by
  intro path kind hkind
  rw [scalarAt?_layAll hfits hkind]
  cases hsets : sourceSets? source path with
  | none => simpa using hholds path kind hkind
  | some value => exact ⟨value, rfl, admits_of_entriesSet? hfits hkind hsets⟩

namespace FleetSettings

variable {files : Files} {environment : Environment} {name : String}
  {standard chosen : List (String × Layer)}

theorem keyOf?_pathVariable : Environment.keyOf? pathVariable = none := by decide

/-- What is read from values that are held has these values, and can be written again. -/
theorem exists_ofLayer {layer : Layer} (hholds : layer.Holds schema) :
    ∃ settings, ofLayer layer = .ok settings ∧ schema.Agree settings.written layer ∧
      settings.toLayer = .ok settings.written ∧
      ∀ other, schema.Agree other layer → ofLayer other = .ok settings := by
  obtain ⟨settings, hagree, hread⟩ := readBy layer hholds
  refine ⟨settings, hread layer fun _ _ _ => rfl, hagree, ?_, hread⟩
  rw [toLayer_eq, (holds_written_iff settings).mp (hagree.holds hholds)]

/-- The settings are the same whether the environment names the override file or whether it is laid
over the settings that were loaded without it; and every one of them has the value that the
environment sets, or else the override file, or else the default file, or else its default. -/
theorem named_file_is_laid_file (hunnamed : environment.find? pathVariable = none)
    (hstandard : optionalFile files defaultFile = .ok standard)
    (hchosen : requiredFile files name = .ok chosen)
    (hfits : ∀ source ∈ [standard, chosen, environment.entries], sourceFits source schema = true) :
    ∃ settings, new ⟨files, (pathVariable, name) :: environment⟩ = .ok settings ∧
      (∃ loaded, new ⟨files, environment⟩ = .ok loaded ∧
        loaded.withOverride ⟨files, environment⟩ name = .ok settings) ∧
      ∀ path kind, schema.kindAt? path = some kind →
        settings.leaf? path = (sourceSets? environment.entries path).or
          ((sourceSets? chosen path).or
            ((sourceSets? standard path).or (({} : FleetSettings).leaf? path))) := by
  simp only [List.mem_cons, List.not_mem_nil, or_false, forall_eq_or_imp, forall_eq] at hfits
  obtain ⟨fitsStandard, fitsChosen, fitsEnvironment⟩ := hfits
  have hdefaults : ({} : FleetSettings).excess? = none := by decide
  have htoLayer : ({} : FleetSettings).toLayer = .ok ({} : FleetSettings).written := by
    rw [toLayer_eq, hdefaults]
  have hbase := ((holds_written_iff {}).mpr hdefaults).layAll fitsStandard
  obtain ⟨settings, hnamed, hagree, -, hread⟩ :=
    exists_ofLayer ((hbase.layAll fitsChosen).layAll fitsEnvironment)
  obtain ⟨loaded, hloaded, hsame, hwritten, -⟩ := exists_ofLayer (hbase.layAll fitsEnvironment)
  refine ⟨settings, ?_, ⟨loaded, ?_, ?_⟩, fun path kind hkind => ?_⟩
  · have hfind : Environment.find? ((pathVariable, name) :: environment) pathVariable =
        some name := by simp [Environment.find?, Keyed.find?]
    simp only [new, htoLayer, hstandard, hfind, hchosen, bind, Except.bind,
      Environment.entries_cons_of_keyOf?_eq_none keyOf?_pathVariable]
    exact hnamed
  · simp only [new, htoLayer, hstandard, hunnamed, bind, Except.bind, pure, Except.pure]
    exact hloaded
  · simp only [withOverride, hwritten, hchosen, bind, Except.bind]
    refine hread _ fun path kind hkind => ?_
    rw [scalarAt?_layAll fitsEnvironment hkind, scalarAt?_layAll fitsChosen hkind,
      hsame path kind hkind, scalarAt?_layAll fitsEnvironment hkind,
      scalarAt?_layAll fitsEnvironment hkind, scalarAt?_layAll fitsChosen hkind]
    -- Where the environment decides in the settings that were loaded, it decides above the file too.
    cases sourceSets? environment.entries path <;> cases sourceSets? chosen path <;> rfl
  · rw [leaf?, hagree path kind hkind, scalarAt?_layAll fitsEnvironment hkind,
      scalarAt?_layAll fitsChosen hkind, scalarAt?_layAll fitsStandard hkind]
    rfl

/-- What a file sets is what its text stands for. -/
theorem fileEntries_of_stat {path text : String} {key : FileKey} {entries : List (String × Value)}
    (hstat : files.stat true path = .ok (key, .file text))
    (hread : Toml.read (withoutMark text) = .ok entries) :
    fileEntries files path = .ok (Layer.ofEntries (some (originOf path)) entries) := by
  rw [fileEntries, Files.readText_of_stat hstat]
  simp only [hread]

/-- A tree with a default file and another one. -/
def twoFiles : Files where
  entries := [(["config"], .directory),
    (["config", "fleet.toml"], .file "fleet.size = 5\nfleet.host = \"a\""),
    (["o.toml"], .file "fleet.host = \"b\"")]

theorem stat_noEnding : twoFiles.stat true "config/fleet" = .error .notFound := by
  have hsize : "config/fleet".utf8ByteSize = 12 := rfl
  have hconfig : "config".utf8ByteSize = 6 := rfl
  have hfleet : "fleet".utf8ByteSize = 5 := rfl
  have hparts : PathParts.ofPath "config/fleet" = .ok ⟨["config", "fleet"], false⟩ := by
    simp [PathParts.ofPath, Path.splitSlashes, hsize]
  have hwalk : twoFiles.walk true Files.maxLinks [] ["config", "fleet"] =
      .ok ["config", "fleet"] := by
    simp [Files.walk, twoFiles, Files.entry?, Files.maxNameBytes, Keyed.find?, hconfig, hfleet]
  have hentry : twoFiles.entry? ["config", "fleet"] = none := rfl
  simp [Files.stat_eq hparts, hwalk, hentry]

theorem stat_standard : twoFiles.stat true "config/fleet.toml" =
    .ok (["config", "fleet.toml"], .file "fleet.size = 5\nfleet.host = \"a\"") := by
  have hsize : "config/fleet.toml".utf8ByteSize = 17 := rfl
  have hconfig : "config".utf8ByteSize = 6 := rfl
  have hfleet : "fleet.toml".utf8ByteSize = 10 := rfl
  have hparts : PathParts.ofPath "config/fleet.toml" = .ok ⟨["config", "fleet.toml"], false⟩ := by
    simp [PathParts.ofPath, Path.splitSlashes, hsize]
  have hwalk : twoFiles.walk true Files.maxLinks [] ["config", "fleet.toml"] =
      .ok ["config", "fleet.toml"] := by
    simp [Files.walk, twoFiles, Files.entry?, Files.maxNameBytes, Keyed.find?, hconfig, hfleet]
  have hentry : twoFiles.entry? ["config", "fleet.toml"] =
      some (.file "fleet.size = 5\nfleet.host = \"a\"") := rfl
  simp [Files.stat_eq hparts, hwalk, hentry]

theorem stat_chosen :
    twoFiles.stat true "o.toml" = .ok (["o.toml"], .file "fleet.host = \"b\"") := by
  have hsize : "o.toml".utf8ByteSize = 6 := rfl
  have hparts : PathParts.ofPath "o.toml" = .ok ⟨["o.toml"], false⟩ := by
    simp [PathParts.ofPath, Path.splitSlashes, hsize]
  have hwalk : twoFiles.walk true Files.maxLinks [] ["o.toml"] = .ok ["o.toml"] := by
    simp [Files.walk, twoFiles, Files.entry?, Files.maxNameBytes, Keyed.find?, hsize]
  have hentry : twoFiles.entry? ["o.toml"] = some (.file "fleet.host = \"b\"") := rfl
  simp [Files.stat_eq hparts, hwalk, hentry]

theorem optionalFile_twoFiles : optionalFile twoFiles defaultFile =
    .ok (Layer.ofEntries (some (originOf "config/fleet.toml"))
      [("fleet", .table [("size", .int 5), ("host", .text "a")])]) := by
  have hfind : findFile twoFiles defaultFile = .ok "config/fleet.toml" := by
    have hlonger : Path.appendToName defaultFile ("." ++ fileEnding) = "config/fleet.toml" := by cbv
    have hmissing : twoFiles.isFile defaultFile = false := by
      rw [defaultFile, Files.isFile, stat_noEnding]
    simp only [findFile, hmissing, hlonger, Files.isFile_of_stat stat_standard, Bool.false_eq_true,
      if_false, if_true]
  have hread : Toml.read (withoutMark "fleet.size = 5\nfleet.host = \"a\"") =
      .ok [("fleet", .table [("size", .int 5), ("host", .text "a")])] := by cbv
  rw [optionalFile, hfind]
  exact fileEntries_of_stat stat_standard hread

theorem requiredFile_twoFiles : requiredFile twoFiles "o.toml" =
    .ok (Layer.ofEntries (some (originOf "o.toml"))
      [("fleet", .table [("host", .text "b")])]) := by
  have hfind : findFile twoFiles "o.toml" = .ok "o.toml" := by
    have hending : (Path.fileName? "o.toml").bind Path.extensionOf? = some fileEnding := by decide
    rw [findFile, if_pos (Files.isFile_of_stat stat_chosen), if_pos hending]
  have hread : Toml.read (withoutMark "fleet.host = \"b\"") =
      .ok [("fleet", .table [("host", .text "b")])] := by cbv
  rw [requiredFile, hfind]
  exact fileEntries_of_stat stat_chosen hread

theorem two_files_and_variable :
    ∃ settings, new ⟨twoFiles, [(pathVariable, "o.toml"), ("FLEET__FLEET__LOG_DIR", "l")]⟩ =
        .ok settings ∧
      (∃ loaded, new ⟨twoFiles, [("FLEET__FLEET__LOG_DIR", "l")]⟩ = .ok loaded ∧
        loaded.withOverride ⟨twoFiles, [("FLEET__FLEET__LOG_DIR", "l")]⟩ "o.toml" =
          .ok settings) ∧
      settings.leaf? ["fleet", "log_dir"] = some (.text "l") ∧
      settings.leaf? ["fleet", "host"] = some (.text "b") ∧
      settings.leaf? ["fleet", "size"] = some (.int 5) ∧
      settings.leaf? ["fleet", "engine_binary"] = some (.text "etcd") := by
  have hentries : Environment.entries [("FLEET__FLEET__LOG_DIR", "l")] =
      [("fleet.log_dir", .leaf (some .environment) (.text "l"))] := by cbv
  have hunnamed : Environment.find? [("FLEET__FLEET__LOG_DIR", "l")] pathVariable = none := by cbv
  obtain ⟨settings, hnamed, hlaid, hleaf⟩ := named_file_is_laid_file hunnamed
    optionalFile_twoFiles requiredFile_twoFiles (by
      rw [hentries]
      simp only [List.mem_cons, List.not_mem_nil, or_false, forall_eq_or_imp, forall_eq]
      exact ⟨by decide +kernel, by decide +kernel, by decide +kernel⟩)
  rw [hentries] at hleaf
  exact ⟨settings, hnamed, hlaid, hleaf ["fleet", "log_dir"] _ rfl, hleaf ["fleet", "host"] _ rfl,
    hleaf ["fleet", "size"] _ rfl, hleaf ["fleet", "engine_binary"] _ rfl⟩

end FleetSettings

end FleetControl
