import FleetControl.Files.Step
import FleetControl.Proofs.Files.Growth
import Mathlib.Data.List.Induction

/-!
# Trees without loose entries

A file tree is a list of entries, and not every list is a tree: an entry must stand in a directory.
The empty tree is one, and every operation on files keeps it one, whether it succeeds or fails. In a
tree there is nothing below a place that is free.
-/

namespace FleetControl

namespace Files

variable {files after made : Files} {dir key other : FileKey}
  {name path text target : String} {entry : FileEntry}

/-- Every entry below the root stands in a directory. -/
def Rooted (files : Files) : Prop :=
  ∀ dir name, files.entry? (dir ++ [name]) ≠ none → files.entry? dir = some .directory

theorem rooted_empty : ({} : Files).Rooted := by
  intro dir name hentry
  exact absurd (entry?_of_ne_root (by simp)) hentry

theorem rooted_iff : files.Rooted ↔
    ∀ entry ∈ files.entries, entry.1 ≠ [] → files.entry? entry.1.dropLast = some .directory := by
  have hfound : ∀ {key}, key ≠ [] →
      (files.entry? key ≠ none ↔ ∃ entry ∈ files.entries, entry.1 = key) := fun hkey => by
    rw [entry?_of_ne_root hkey, Keyed.find?_ne_none_iff]
  constructor
  · intro hrooted entry hmem hkey
    obtain ⟨dir, name, hconcat⟩ := (List.eq_nil_or_concat entry.1).resolve_left hkey
    rw [List.concat_eq_append] at hconcat
    rw [hconcat, List.dropLast_concat]
    exact hrooted dir name ((hfound (by simp)).mpr ⟨entry, hmem, hconcat⟩)
  · intro hentries dir name hentry
    obtain ⟨entry, hmem, hconcat⟩ := (hfound (by simp)).mp hentry
    simpa [hconcat] using hentries entry hmem

instance : Decidable files.Rooted := decidable_of_iff' _ rooted_iff

namespace Rooted

/-- What is no directory has nothing below it, and what does not exist has not. -/
theorem entry?_eq_none (hrooted : files.Rooted) (hkey : files.entry? key ≠ some .directory)
    (hbelow : key <+: other) (hother : key ≠ other) : files.entry? other = none := by
  obtain ⟨names, rfl⟩ := hbelow
  induction names using List.reverseRecOn with
  | nil => simp at hother
  | append_singleton names name ih =>
      by_contra hentry
      rw [← List.append_assoc] at hentry
      have hdirectory := hrooted (key ++ names) name hentry
      by_cases hnames : names = []
      · rw [hnames, List.append_nil] at hdirectory
        exact hkey hdirectory
      · simp [ih (by simpa using hnames)] at hdirectory

/-- An entry may be put into a directory, unless it takes the place of another directory. -/
theorem put (hrooted : files.Rooted) (hdir : files.entry? dir = some .directory)
    (hentry : files.entry? (dir ++ [name]) = some .directory → entry = .directory) :
    (files.put (dir ++ [name]) entry).Rooted := by
  intro parent child hchild
  by_cases hparent : dir ++ [name] = parent
  · subst hparent
    rw [entry?_put_of_ne files (by simp)] at hchild
    rw [entry?_put_self files (by simp), hentry (hrooted _ _ hchild)]
  · rw [entry?_put_of_ne files hparent]
    by_cases hsame : dir ++ [name] = parent ++ [child]
    · rwa [← (List.append_inj' hsame rfl).1]
    · rw [entry?_put_of_ne files hsame] at hchild
      exact hrooted _ _ hchild

theorem prune (hrooted : files.Rooted) (key : FileKey) : (files.prune key).Rooted := by
  intro dir name hentry
  have hapart : ¬ key <+: dir ++ [name] := fun hbelow =>
    hentry (entry?_prune_of_below files hbelow (by simp))
  rw [entry?_prune_of_not_below files hapart] at hentry
  rw [entry?_prune_of_not_below files fun hbelow =>
    hapart (hbelow.trans (List.prefix_append dir [name]))]
  exact hrooted dir name hentry

theorem pruneBelow (hrooted : files.Rooted) (key : FileKey) : (files.pruneBelow key).Rooted := by
  intro dir name hentry
  have hkept : key <+: dir ++ [name] → key = dir ++ [name] := fun hbelow => by
    by_contra hother
    exact hentry (entry?_pruneBelow_of_below files hbelow hother)
  rw [entry?_pruneBelow_of_not_below files hkept] at hentry
  rw [entry?_pruneBelow_of_not_below files]
  · exact hrooted dir name hentry
  · -- The directory would be above itself.
    intro hbelow
    have hsame := hkept (hbelow.trans (List.prefix_append dir [name]))
    exact absurd (hsame ▸ hbelow).length_le (by simp)

end Rooted

/-! ### Operations keep a tree one -/

/-- Where a way ends, there is a directory around it. -/
theorem Way.reached_dropLast {follow : Bool} {links : Nat} {names : List String}
    {ending : Except IoFault FileKey} (way : Way files follow links dir names ending)
    (hreached : files.Reached dir) (hending : ending = .ok key) : files.Reached key.dropLast := by
  induction way with
  | done =>
      obtain rfl := Except.ok.inj hending
      exact hreached.dropLast
  | here _ ih => exact ih hreached hending
  | up _ ih => exact ih hreached.dropLast hending
  | last =>
      obtain rfl := Except.ok.inj hending
      simpa using hreached
  | enter _ _ hentry _ ih => exact ih (hreached.concat hentry) hending
  | @link left dir name target rest ending _ _ _ _ _ ih =>
      refine ih ?_ hending
      split
      next => exact .root files
      next => exact hreached
  | long | missing | blocked | loop => simp at hending

theorem exists_parent_of_walk {follow : Bool} {names : List String}
    (hwalk : files.walk follow maxLinks [] names = .ok key)
    (hentry : files.entry? key ≠ some .directory) :
    ∃ dir name, key = dir ++ [name] ∧ files.entry? dir = some .directory := by
  have hway := Way.of_walk files follow maxLinks [] names
  rcases List.eq_nil_or_concat key with rfl | ⟨dir, name, hconcat⟩
  · simp at hentry
  · rw [List.concat_eq_append] at hconcat
    have hreached := hway.reached_dropLast (.root files) hwalk
    rw [hconcat, List.dropLast_concat] at hreached
    exact ⟨dir, name, hconcat, hreached.self⟩

namespace Rooted

/-- What a path leads to may be replaced, if it is no directory. -/
theorem put_of_walk {follow : Bool} {names : List String} (hrooted : files.Rooted)
    (hwalk : files.walk follow maxLinks [] names = .ok key)
    (hentry : files.entry? key ≠ some .directory) (entry : FileEntry) :
    (files.put key entry).Rooted := by
  obtain ⟨dir, name, rfl, hdir⟩ := exists_parent_of_walk hwalk hentry
  exact hrooted.put hdir fun hdirectory => absurd hdirectory hentry

theorem makeDirectory (hrooted : files.Rooted) (hmade : files.makeDirectory path = .ok made) :
    made.Rooted := by
  obtain ⟨parts, key, -, hwalk, hnone, rfl⟩ := makeDirectory_eq_ok hmade
  exact hrooted.put_of_walk hwalk (by simp [hnone]) _

theorem makeAll {outcome : Except IoFault Unit} (hrooted : files.Rooted)
    (hmade : files.makeAll path = (after, outcome)) : after.Rooted := by
  have hkept := makeDirectories_keeps (motive := Files.Rooted) makeDirectory (path.length + 1) path
    hrooted
  rwa [← Files.makeAll, hmade] at hkept

theorem put_of_fileKey (hrooted : files.Rooted) (hkey : files.fileKey path = .ok key)
    (entry : FileEntry) : (files.put key entry).Rooted := by
  obtain ⟨parts, -, -, hwalk, hentry, -⟩ := walk_of_fileKey hkey
  exact hrooted.put_of_walk hwalk hentry entry

theorem writeText (hrooted : files.Rooted) (hwrite : files.writeText path text = .ok after) :
    after.Rooted := by
  obtain ⟨key, hkey, hwritten⟩ := exists_of_bind_eq_ok hwrite
  exact Except.ok.inj hwritten ▸ hrooted.put_of_fileKey hkey _

theorem appendText (hrooted : files.Rooted) (hwrite : files.appendText path text = .ok after) :
    after.Rooted := by
  obtain ⟨key, hkey, hwritten⟩ := exists_of_bind_eq_ok hwrite
  exact Except.ok.inj hwritten ▸ hrooted.put_of_fileKey hkey _

theorem removeFile (hrooted : files.Rooted) (hremove : files.removeFile path = .ok after) :
    after.Rooted := by
  obtain ⟨parts, -, hremove⟩ := exists_of_bind_eq_ok hremove
  obtain ⟨key, -, hremove⟩ := exists_of_bind_eq_ok hremove
  split at hremove
  next => simp at hremove
  next => simp at hremove
  next =>
    split at hremove
    next => simp at hremove
    next => exact Except.ok.inj hremove ▸ hrooted.prune key

theorem makeLink (hrooted : files.Rooted) (hlink : files.makeLink target path = .ok after) :
    after.Rooted := by
  obtain ⟨parts, -, hlink⟩ := exists_of_bind_eq_ok hlink
  obtain ⟨key, hwalk, hlink⟩ := exists_of_bind_eq_ok hlink
  split at hlink
  next => simp at hlink
  next hnone =>
    split at hlink
    next => simp at hlink
    next => exact Except.ok.inj hlink ▸ hrooted.put_of_walk hwalk (by simp [hnone]) _

theorem removeDirectory (hrooted : files.Rooted) (path : String) :
    (files.removeDirectory path).1.Rooted := by
  have hclears := files.clears_removeDirectory path
  generalize (files.removeDirectory path).1 = cleared, (files.removeTree path).2 = outcome
    at hclears ⊢
  cases hclears with
  | unfound | file => exact hrooted
  | link => exact hrooted.prune _
  | directory => exact (hrooted.pruneBelow _).prune _
  | contents => exact hrooted.pruneBelow _

theorem prepareDirectory (hrooted : files.Rooted) (path : String) :
    (files.prepareDirectory path).1.Rooted := by
  have hremoved := hrooted.removeDirectory path
  unfold Files.prepareDirectory
  split
  next hfailed => exact hfailed ▸ hremoved
  next removed hdone =>
    rw [hdone] at hremoved
    split
    next hmade => exact hremoved.makeAll hmade
    next hmade => exact hremoved.makeAll hmade

theorem openForAppend (hrooted : files.Rooted) (path : String) :
    (files.openForAppend path).1.Rooted := by
  unfold Files.openForAppend
  extract_lets ready
  have hready : ready.1.Rooted := by
    unfold ready
    split
    next => exact hrooted
    next parent _ =>
      split
      next => exact hrooted
      next =>
        split
        next hmade => exact hrooted.makeAll hmade
        next hmade => exact hrooted.makeAll hmade
  clear_value ready
  obtain ⟨after, e | ⟨⟩⟩ := ready
  · exact hready
  · dsimp only
    split
    next hopened => exact hready.appendText hopened
    next => exact hready

end Rooted

end Files

namespace FileStep

open Files

variable {files : Files}

theorem own_fst (result : Files × Except Error Unit) : (own result).1 = result.1 := by
  unfold own
  split <;> rfl

theorem partly_fst (result : Files × Except IoFault Unit) : (partly result).1 = result.1 := by
  unfold partly
  split <;> rfl

theorem rooted_plain {outcome : Except IoFault Files} (hrooted : files.Rooted)
    (hdone : ∀ after, outcome = .ok after → after.Rooted) : (plain files outcome).1.Rooted := by
  unfold plain
  split
  next after => exact hdone after rfl
  next => exact hrooted

/-- Whatever is done to a tree and whether it succeeds or not, a tree is left. -/
theorem rooted_perform (hrooted : files.Rooted) (step : FileStep) :
    (step.perform files).1.Rooted := by
  cases step with
  | makeAll path => exact partly_fst (files.makeAll path) ▸ hrooted.makeAll rfl
  | write path text => exact rooted_plain hrooted fun _ => hrooted.writeText
  | delete path => exact rooted_plain hrooted fun _ => hrooted.removeFile
  | link path target => exact rooted_plain hrooted fun _ => hrooted.makeLink
  | read path => exact hrooted
  | prepare path => exact own_fst (files.prepareDirectory path) ▸ hrooted.prepareDirectory path
  | removeDirectory path =>
      exact own_fst (files.removeDirectory path) ▸ hrooted.removeDirectory path
  | append path text =>
      have hopened := hrooted.openForAppend path
      simp only [perform]
      split
      next after hopen =>
        rw [hopen] at hopened
        exact rooted_plain hopened fun _ => hopened.appendText
      next => rwa [own_fst]

/-- Trees are what operations make out of nothing. -/
theorem rooted_performAll (hrooted : files.Rooted) (steps : List FileStep) :
    (performAll files steps).Rooted := by
  induction steps generalizing files with
  | nil => exact hrooted
  | cons step steps ih => exact ih (rooted_perform hrooted step)

end FileStep

end FleetControl
