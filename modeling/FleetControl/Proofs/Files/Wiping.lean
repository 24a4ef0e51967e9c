import FleetControl.Proofs.Files.Paving

/-!
# What a wiped directory leaves

Preparing a directory removes whatever stands at a path and makes an empty directory there. Nothing
is lost but what stands at the path or below it: links are removed and not followed, so what they
lead to stays. Nothing is made but the directory and those on the way to it. Preparing it again
changes nothing, and removing it leaves nothing behind.
-/

namespace FleetControl.Files

variable {files after made : Files} {dir key other : FileKey} {name path : String}
  {front : List String} {parts : PathParts}

/-- The key is that of the place to which the path leads, or of something below. Links on the way are
followed, a link at the end is a place of its own. -/
def AtOrBelow (files : Files) (path : String) (key : FileKey) : Prop :=
  ∃ place, files.locate false path = .ok place ∧ place <+: key

/-! ### Removing -/

theorem remains_removeDirectory (files : Files) (path : String) :
    Remains (files.removeDirectory path).1 files := by
  have hclears := files.clears_removeDirectory path
  generalize (files.removeDirectory path).1 = cleared, (files.removeTree path).2 = outcome
    at hclears ⊢
  cases hclears with
  | unfound | file => exact fun _ => .inr rfl
  | link => exact remains_prune _ _
  | directory => exact (remains_prune _ _).trans (remains_pruneBelow _ _)
  | contents => exact remains_pruneBelow _ _

/-- Whether it succeeds or not, a removal takes away nothing that stands elsewhere. -/
theorem entry?_removeDirectory (hother : ¬ files.AtOrBelow path key) :
    Files.entry? (files.removeDirectory path).1 key = files.entry? key := by
  have hapart : ∀ {place entry}, files.stat false path = .ok (place, entry) → ¬ place <+: key :=
    fun hstat hbelow => hother ⟨_, locate_of_stat hstat, hbelow⟩
  have hclears := files.clears_removeDirectory path
  generalize (files.removeDirectory path).1 = cleared, (files.removeTree path).2 = outcome
    at hclears ⊢
  cases hclears with
  | unfound | file => rfl
  | link hstat => exact entry?_prune_of_not_below _ (hapart hstat)
  | directory hstat =>
      rw [entry?_prune_of_not_below _ (hapart hstat)]
      exact entry?_pruneBelow_of_not_below _ fun hbelow => absurd hbelow (hapart hstat)
  | contents hstat =>
      exact entry?_pruneBelow_of_not_below _ fun hbelow => absurd hbelow (hapart hstat)

/-- A path that no operation can take is not taken for a missing one. -/
theorem Ordinary.exists_parts (hpath : Ordinary path)
    (hremoved : (files.removeDirectory path).2 = .ok ()) :
    ∃ parts, PathParts.ofPath path = .ok parts ∧ parts.parts = targetNames path ∧
      parts.trailing = false := by
  cases hparts : PathParts.ofPath path with
  | error fault =>
      have hstat : files.stat false path = .error fault := by
        simp [stat, locate, hparts, bind, Except.bind]
      have hfault : fault ≠ .notFound := fun hmissing => hpath.ofPath_ne_notFound (hmissing ▸ hparts)
      simp [removeDirectory, removeTree, hstat] at hremoved
  | ok parts => exact ⟨parts, rfl, parts_of_ofPath hparts, hpath.trailing_eq hparts⟩

/-! ### The new directory -/

namespace Vacant

variable (vacant : Vacant files front name dir)

include vacant

theorem stat_put (hparts : PathParts.ofPath path = .ok parts) (hnames : parts.parts = front ++ [name])
    (follow : Bool) :
    (files.put (dir ++ [name]) .directory).stat follow path =
      .ok (dir ++ [name], .directory) := by
  rw [stat_eq hparts, hnames, vacant.walk_put]
  simp [entry?_put_self files]

theorem removeDirectory_put (hrooted : files.Rooted) (hparts : PathParts.ofPath path = .ok parts)
    (hnames : parts.parts = front ++ [name]) (htrailing : parts.trailing = false) :
    (files.put (dir ++ [name]) .directory).removeDirectory path = (files, .ok ()) := by
  have hdir := vacant.furnished.entry?_eq vacant.reached.self
  have hwalk := vacant.furnished.grows.walk_eq vacant.walk (by simp [hdir])
  have hfront : (files.put (dir ++ [name]) .directory).directoryKey front = .ok dir := by
    simp [directoryKey, hwalk, hdir, bind, Except.bind]
  have hremove : (files.put (dir ++ [name]) .directory).removeEmpty (dir ++ [name]) parts =
      .ok files := by
    simp only [removeEmpty, hnames, List.dropLast_concat, hfront, List.getLast?_concat, bind,
      Except.bind]
    split
    next hnone => simp at hnone
    next hdot => exact absurd (Option.some.inj hdot) vacant.isName.1
    next hup => exact absurd (Option.some.inj hup) vacant.isName.2
    next => simp [htrailing, vacant.prune_put hrooted]
  simp only [removeDirectory, removeTree, vacant.stat_put hparts hnames,
    vacant.pruneBelow_put hrooted, hparts, Except.bind, hremove]

theorem prepareDirectory_put (hrooted : files.Rooted) (hpath : Ordinary path)
    (hparts : PathParts.ofPath path = .ok parts) (hnames : parts.parts = front ++ [name]) :
    (files.put (dir ++ [name]) .directory).prepareDirectory path =
      (files.put (dir ++ [name]) .directory, .ok ()) := by
  have hmakeAll := hpath.makeAll_of_vacant hparts (parts_of_ofPath hparts ▸ hnames) vacant
  simp only [prepareDirectory,
    vacant.removeDirectory_put hrooted hparts hnames (hpath.trailing_eq hparts), hmakeAll]

end Vacant

/-- A preparation that succeeds has made the last name of the path a directory in one that was there
or was made for it, and all in the tree that the removal has left. -/
theorem exists_vacant_of_prepareDirectory (hrooted : files.Rooted) (hpath : Ordinary path)
    (hprepare : files.prepareDirectory path = (after, .ok ())) :
    ∃ front name made dir parts, PathParts.ofPath path = .ok parts ∧
      parts.parts = front ++ [name] ∧ Paved (files.removeDirectory path).1 front made ∧
      Vacant made front name dir ∧ after = made.put (dir ++ [name]) .directory := by
  unfold prepareDirectory at hprepare
  split at hprepare
  next => simp at hprepare
  next removed hremove =>
    have hremoved : (files.removeDirectory path).2 = .ok () := by rw [hremove]
    have habsent := absent_removeDirectory hremoved
    obtain ⟨parts, hparts, hnames, -⟩ := hpath.exists_parts hremoved
    have hremains := hrooted.removeDirectory path
    rw [hremove] at habsent hremains ⊢
    split at hprepare
    next made hmake =>
      obtain ⟨rfl, -⟩ := Prod.mk.inj hprepare
      have hmissing : removed.isDirectory path = false := by simp [isDirectory, habsent true]
      obtain ⟨front, name, made, dir, hrow, paved, vacant, hafter⟩ :=
        exists_paved_of_makeDirectories hremains hpath hmissing hmake
      exact ⟨front, name, made, dir, parts, hparts, hnames.trans hrow, paved, vacant, hafter⟩
    next => simp at hprepare

/-- What stands elsewhere is unchanged, also where the preparation fails. -/
theorem entry?_prepareDirectory {entry : FileEntry} (hentry : files.entry? key = some entry)
    (hother : ¬ files.AtOrBelow path key) :
    Files.entry? (files.prepareDirectory path).1 key = some entry := by
  have hremoved := (entry?_removeDirectory hother).trans hentry
  unfold prepareDirectory
  split
  next hfailed =>
    rw [hfailed] at hremoved
    exact hremoved
  next removed hremove =>
    rw [hremove] at hremoved
    split
    next hmake => exact (Furnished.makeAll hmake).entry?_eq hremoved
    next hmake => exact (Furnished.makeAll hmake).entry?_eq hremoved

/-- The path leads to an empty directory and to no link. Whatever stood neither at the path nor below
it is what it was, and that includes what links at the path or below it lead to. What is new or
changed is a directory, the one of the path or one on the way to it, and it has taken the place of
nothing that stood elsewhere. -/
structure Wiped (before after : Files) (path : String) : Prop where
  empty : ∃ key, after.stat false path = .ok (key, .directory) ∧
    ∀ other, key <+: other → key ≠ other → after.entry? other = none
  kept : ∀ key entry, before.entry? key = some entry → ¬ before.AtOrBelow path key →
    after.entry? key = some entry
  new : ∀ key entry, after.entry? key = some entry → before.entry? key ≠ some entry →
    entry = .directory ∧ after.LeadsTo (targetNames path) key ∧
      (before.entry? key = none ∨ before.AtOrBelow path key)

theorem wiped_of_prepareDirectory (hrooted : files.Rooted) (hpath : Ordinary path)
    (hprepare : files.prepareDirectory path = (after, .ok ())) : Wiped files after path := by
  obtain ⟨front, name, made, dir, parts, hparts, hnames, paved, vacant, hafter⟩ :=
    exists_vacant_of_prepareDirectory hrooted hpath hprepare
  have hmade := paved.rooted (hrooted.removeDirectory path)
  constructor
  · rw [hafter]
    exact ⟨dir ++ [name], vacant.stat_put hparts hnames false,
      fun _ => vacant.entry?_put_below hmade⟩
  · intro key entry hentry hother
    have hkept := entry?_prepareDirectory hentry hother
    rwa [hprepare] at hkept
  · intro key entry hentry hnew
    have hrow := (Paved.step paved vacant).entry?_cases key
    rw [← hnames, parts_of_ofPath hparts, ← hafter, hentry] at hrow
    rcases hrow with hsame | ⟨hnone, hdirectory, hleads⟩
    · -- What the removal has left was there before.
      rcases files.remains_removeDirectory path key with hgone | hstill
      · simp [hgone] at hsame
      · exact absurd (hstill.symm.trans hsame.symm) hnew
    · refine ⟨Option.some.inj hdirectory, hleads, or_iff_not_imp_right.mpr fun hother => ?_⟩
      exact (entry?_removeDirectory hother).symm.trans hnone

/-- In every tree, preparing a directory by a row of names wipes exactly that directory if it
succeeds. Then nothing changes when it is prepared again; and when it is removed, the removal succeeds,
the path leads to nothing, and removing it once more succeeds too. -/
theorem prepared_directory_is_wiped_exactly (hrooted : files.Rooted) (hpath : Ordinary path)
    (hprepare : files.prepareDirectory path = (after, .ok ())) :
    Wiped files after path ∧ after.prepareDirectory path = (after, .ok ()) ∧
      ∃ removed, after.removeDirectory path = (removed, .ok ()) ∧ removed.Absent path ∧
        removed.removeDirectory path = (removed, .ok ()) := by
  have hwiped := wiped_of_prepareDirectory hrooted hpath hprepare
  obtain ⟨front, name, made, dir, parts, hparts, hnames, paved, vacant, rfl⟩ :=
    exists_vacant_of_prepareDirectory hrooted hpath hprepare
  have hmade := paved.rooted (hrooted.removeDirectory path)
  have hremove := vacant.removeDirectory_put hmade hparts hnames (hpath.trailing_eq hparts)
  have habsent : made.Absent path := by
    have hremoved : ((made.put (dir ++ [name]) .directory).removeDirectory path).2 = .ok () := by
      rw [hremove]
    have hgone := absent_removeDirectory hremoved
    rwa [hremove] at hgone
  exact ⟨hwiped, vacant.prepareDirectory_put hmade hpath hparts hnames, made, hremove, habsent,
    removeDirectory_of_absent habsent⟩

/-- A home directory with a link to it, and in it a file and a directory that holds a link to the
file. -/
def sharedHome : Files where
  entries := [(["home"], .directory), (["home", "keep"], .file "kept"),
    (["home", "fleet"], .directory), (["home", "fleet", "out"], .link "../keep"),
    (["srv"], .link "home")]

/-- What is left of it without that directory. -/
def bareHome : Files where
  entries := [(["home"], .directory), (["home", "keep"], .file "kept"), (["srv"], .link "home")]

/-- What is made of it when that directory is prepared. -/
def wipedHome : Files := bareHome.put ["home", "fleet"] .directory

theorem ofPath_fleet : PathParts.ofPath "srv/fleet" = .ok ⟨["srv", "fleet"], false⟩ := by
  decide +kernel

theorem walk_srv (hlink : files.entry? ["srv"] = some (.link "home"))
    (hhome : files.entry? ["home"] = some .directory) :
    files.walk true maxLinks [] ["srv"] = .ok ["home"] := by
  have hway : Way files true 39 [] (targetNames "home" ++ []) (.ok ["home"]) :=
    .enter ⟨by decide, by decide⟩ (by decide) hhome .done
  exact (Way.link ⟨by decide, by decide⟩ (by decide) hlink (fun _ => rfl) hway).walk_eq

theorem vacant_bareHome : Vacant bareHome ["srv"] "fleet" ["home"] where
  walk := walk_srv rfl rfl
  reached := (Reached.root bareHome).concat rfl
  isName := ⟨by decide, by decide⟩
  short := by decide
  free := rfl

theorem removeDirectory_sharedHome :
    sharedHome.removeDirectory "srv/fleet" = (bareHome, .ok ()) := by
  have hwalk : sharedHome.walk false maxLinks [] ["srv", "fleet"] = .ok ["home", "fleet"] :=
    ((Way.of_walk _ true maxLinks [] ["srv"]).concat (walk_srv rfl rfl) rfl fun _ =>
      .enter ⟨by decide, by decide⟩ (by decide) rfl .done).walk_eq
  have hstat : sharedHome.stat false "srv/fleet" = .ok (["home", "fleet"], .directory) := by
    simp only [stat_eq ofPath_fleet, Bool.or_false, hwalk]
    rfl
  have hhome : (sharedHome.pruneBelow ["home", "fleet"]).walk true maxLinks [] ["srv"] =
      .ok ["home"] := walk_srv rfl rfl
  have hparent : (sharedHome.pruneBelow ["home", "fleet"]).directoryKey ["srv"] = .ok ["home"] := by
    simp only [directoryKey, hhome]
    rfl
  have hempty : (sharedHome.pruneBelow ["home", "fleet"]).removeEmpty ["home", "fleet"]
      ⟨["srv", "fleet"], false⟩ = .ok bareHome := by
    simp only [removeEmpty, List.dropLast, hparent]
    rfl
  simp only [removeDirectory, removeTree, hstat, ofPath_fleet, Except.bind, hempty]

theorem prepareDirectory_sharedHome :
    sharedHome.prepareDirectory "srv/fleet" = (wipedHome, .ok ()) := by
  have hpath : Ordinary "srv/fleet" := by decide
  have hmakeAll := hpath.makeAll_of_vacant ofPath_fleet rfl vacant_bareHome
  simp only [prepareDirectory, removeDirectory_sharedHome, hmakeAll]
  rfl

theorem shared_home_is_wiped : sharedHome.Rooted ∧ Ordinary "srv/fleet" ∧
    sharedHome.prepareDirectory "srv/fleet" = (wipedHome, .ok ()) ∧
    Wiped sharedHome wipedHome "srv/fleet" ∧
      wipedHome.prepareDirectory "srv/fleet" = (wipedHome, .ok ()) ∧
      ∃ removed, wipedHome.removeDirectory "srv/fleet" = (removed, .ok ()) ∧
        removed.Absent "srv/fleet" ∧ removed.removeDirectory "srv/fleet" = (removed, .ok ()) :=
  ⟨by decide, by decide, prepareDirectory_sharedHome,
    prepared_directory_is_wiped_exactly (by decide) (by decide) prepareDirectory_sharedHome⟩

end FleetControl.Files
