import FleetControl.Proofs.Files.Ordinary
import FleetControl.Proofs.Files.Rooted

/-!
# Directories made on the way

Making a directory with its missing parents goes up along the path until a directory is made, and
down again. On an ordinary path that does not lead to a directory yet, success has one shape: the
names at the end of the path were free, each in the directory before it, and all of them are
directories now. Nothing else has changed.
-/

namespace FleetControl.Files

variable {files after made : Files} {dir key other : FileKey} {name path : String}
  {front names : List String}

/-! ### The last name of a way -/

namespace Way

variable {follow : Bool} {links : Nat} {ending : Except IoFault FileKey}

/-- How a way gets to its last name: from a directory to which the other names lead, or not at all. -/
inductive Onward (files : Files) (follow : Bool) (links : Nat) (dir : FileKey)
    (front : List String) (name : String) : Except IoFault FileKey → Prop where
  | reaches {key : FileKey} {left : Nat} {ending : Except IoFault FileKey}
      (hfront : Way files true links dir front (.ok key)) (hreached : files.Reached key)
      (hlast : Way files follow left key [name] ending) :
      Onward files follow links dir front name ending
  | nowhere {stop : Except IoFault FileKey} (hfront : Way files true links dir front stop)
      (hnowhere : files.Nowhere stop) : Onward files follow links dir front name (.error .notFound)
  | stuck {fault : IoFault} (hfault : fault ≠ .notFound) :
      Onward files follow links dir front name (.error fault)

theorem Onward.map {dir' : FileKey} {links' : Nat} {front' : List String}
    (onward : Onward files follow links dir front name ending)
    (hway : ∀ {stop}, Way files true links dir front stop → Way files true links' dir' front' stop) :
    Onward files follow links' dir' front' name ending := by
  cases onward with
  | reaches hfront hreached hlast => exact .reaches (hway hfront) hreached hlast
  | nowhere hfront hnowhere => exact .nowhere (hway hfront) hnowhere
  | stuck hfault => exact .stuck hfault

/-- Either the last name is the only one, or the way begins with one of the others. -/
theorem onward (way : Way files follow links dir (front ++ [name]) ending)
    (hreached : files.Reached dir) : Onward files follow links dir front name ending := by
  have hbegin := way
  generalize hnames : front ++ [name] = names at way
  induction way generalizing front with
  | done => simp at hnames
  | here way ih =>
      cases front with
      | nil => exact .reaches .done hreached hbegin
      | cons first front =>
          obtain ⟨rfl, rfl⟩ := List.cons.inj hnames
          exact (ih hreached way rfl).map .here
  | up way ih =>
      cases front with
      | nil => exact .reaches .done hreached hbegin
      | cons first front =>
          obtain ⟨rfl, rfl⟩ := List.cons.inj hnames
          exact (ih hreached.dropLast way rfl).map .up
  | long => exact .stuck (by simp)
  | last =>
      cases front with
      | nil => exact .reaches .done hreached hbegin
      | cons => simp at hnames
  | missing hname hshort hentry =>
      cases front with
      | nil => exact .reaches .done hreached hbegin
      | cons first front =>
          obtain ⟨rfl, rfl⟩ := List.cons.inj hnames
          by_cases hfront : front = []
          · subst hfront
            exact .nowhere (.last hname hshort (by simp [hentry]) (by simp [hentry]))
              (.inr ⟨_, rfl, hentry⟩)
          · exact .nowhere (.missing hname hshort hentry hfront) (.inl rfl)
  | blocked => exact .stuck (by simp)
  | enter hname hshort hentry way ih =>
      cases front with
      | nil => exact .reaches .done hreached hbegin
      | cons first front =>
          obtain ⟨rfl, rfl⟩ := List.cons.inj hnames
          exact (ih (hreached.concat hentry) way rfl).map (.enter hname hshort hentry)
  | loop => exact .stuck (by simp)
  | @link left dir first target rest ending hname hshort hentry _ way ih =>
      cases front with
      | nil => exact .reaches .done hreached hbegin
      | cons first front =>
          obtain ⟨rfl, rfl⟩ := List.cons.inj hnames
          have hstart : files.Reached (if Path.isAbsolute target then [] else dir) := by
            split
            next => exact .root files
            next => exact hreached
          have hmore : targetNames target ++ front ++ [name] = targetNames target ++ (front ++ [name]) :=
            List.append_assoc ..
          exact (ih hstart (hmore ▸ way) hmore).map (.link hname hshort hentry fun _ => rfl)

/-- Without links followed, a single name leads to the entry of that name. -/
theorem of_singleton (hname : IsName name) (way : Way files false links dir [name] ending) :
    ending = .ok (dir ++ [name]) ∧ ¬ maxNameBytes < name.utf8ByteSize ∨
      ending = .error .nameTooLong := by
  cases way with
  | here => exact absurd rfl hname.1
  | up => exact absurd rfl hname.2
  | long => exact .inr rfl
  | last _ hshort => exact .inl ⟨rfl, hshort⟩
  | missing _ _ _ hrest => exact absurd rfl hrest
  | blocked _ _ _ hrest => exact absurd rfl hrest
  | enter _ hshort _ way =>
      cases way
      exact .inl ⟨rfl, hshort⟩
  | loop _ _ _ hfollow => exact absurd (hfollow rfl) Bool.false_ne_true
  | link _ _ _ hfollow => exact absurd (hfollow rfl) Bool.false_ne_true

end Way

/-! ### A free name in a directory -/

/-- All names but the last one lead to a directory in which the last one is free. -/
structure Vacant (files : Files) (front : List String) (name : String) (dir : FileKey) : Prop where
  walk : files.walk true maxLinks [] front = .ok dir
  reached : files.Reached dir
  isName : IsName name
  short : ¬ maxNameBytes < name.utf8ByteSize
  free : files.entry? (dir ++ [name]) = none

namespace Vacant

variable (vacant : Vacant files front name dir)

include vacant

theorem walk_concat (follow : Bool) :
    files.walk follow maxLinks [] (front ++ [name]) = .ok (dir ++ [name]) :=
  ((Way.of_walk files true maxLinks [] front).concat vacant.walk vacant.reached.self fun _ =>
    .last vacant.isName vacant.short (by simp [vacant.free]) (by simp [vacant.free])).walk_eq

theorem furnished : Furnished files (files.put (dir ++ [name]) .directory) := .put vacant.free

/-- The new directory is found under its name. -/
theorem walk_put (follow : Bool) :
    (files.put (dir ++ [name]) .directory).walk follow maxLinks [] (front ++ [name]) =
      .ok (dir ++ [name]) := by
  have hdir := vacant.furnished.entry?_eq vacant.reached.self
  have hfront := vacant.furnished.grows.walk_eq vacant.walk (by simp [hdir])
  exact ((Way.of_walk _ true maxLinks [] front).concat hfront hdir fun _ =>
    .enter vacant.isName vacant.short (entry?_put_self files (by simp) _) .done).walk_eq

theorem rooted_put (hrooted : files.Rooted) : (files.put (dir ++ [name]) .directory).Rooted :=
  hrooted.put vacant.reached.self fun _ => rfl

/-- In a tree the new directory is empty. -/
theorem entry?_put_below (hrooted : files.Rooted) (hbelow : dir ++ [name] <+: other)
    (hother : dir ++ [name] ≠ other) :
    Files.entry? (files.put (dir ++ [name]) .directory) other = none := by
  rw [entry?_put_of_ne files hother]
  exact hrooted.entry?_eq_none (by simp [vacant.free]) hbelow hother

theorem not_prefix_of_mem (hrooted : files.Rooted) {entry : FileKey × FileEntry}
    (hmem : entry ∈ files.entries) : ¬ dir ++ [name] <+: entry.1 := by
  intro hbelow
  have hkey : entry.1 ≠ [] := by
    intro hnil
    simp [hnil] at hbelow
  have hentry : files.entry? entry.1 ≠ none := by
    rw [entry?_of_ne_root hkey]
    exact Keyed.find?_ne_none_iff.mpr ⟨entry, hmem, rfl⟩
  by_cases hother : dir ++ [name] = entry.1
  · exact hentry (hother ▸ vacant.free)
  · exact hentry (hrooted.entry?_eq_none (by simp [vacant.free]) hbelow hother)

theorem entries_put : (files.put (dir ++ [name]) .directory).entries =
    files.entries ++ [(dir ++ [name], .directory)] := by
  refine Keyed.set_eq_append ?_ _
  have hfree := vacant.free
  rwa [entry?_of_ne_root (by simp)] at hfree

/-- There is nothing below the new directory to be removed. -/
theorem pruneBelow_put (hrooted : files.Rooted) :
    (files.put (dir ++ [name]) .directory).pruneBelow (dir ++ [name]) =
      files.put (dir ++ [name]) .directory := by
  have hkeep : ∀ entry ∈ (files.put (dir ++ [name]) .directory).entries,
      entry.1 = dir ++ [name] ∨ ¬ (dir ++ [name]).isPrefixOf entry.1 := by
    intro entry hmem
    rw [vacant.entries_put] at hmem
    rcases List.mem_append.mp hmem with hmem | hmem
    · exact .inr (by simpa using vacant.not_prefix_of_mem hrooted hmem)
    · exact .inl (by rw [List.mem_singleton.mp hmem])
  rw [pruneBelow, List.filter_eq_self.mpr fun entry hmem => decide_eq_true (hkeep entry hmem)]

/-- When the new directory is removed, the tree is what it was. -/
theorem prune_put (hrooted : files.Rooted) :
    (files.put (dir ++ [name]) .directory).prune (dir ++ [name]) = files := by
  have hkeep : ∀ entry ∈ files.entries, ¬ (dir ++ [name]).isPrefixOf entry.1 := fun entry hmem => by
    simpa using vacant.not_prefix_of_mem hrooted hmem
  rw [prune, vacant.entries_put, List.filter_append,
    List.filter_eq_self.mpr fun entry hmem => decide_eq_true (hkeep entry hmem)]
  simp

end Vacant

/-! ### Making a directory on an ordinary path -/

namespace Ordinary

variable {parts : PathParts}

theorem makeDirectory_eq (hpath : Ordinary path) (hparts : PathParts.ofPath path = .ok parts)
    (files : Files) :
    files.makeDirectory path =
      match files.walk false maxLinks [] (targetNames path) with
      | .error fault => .error fault
      | .ok key =>
          match files.entry? key with
          | some _ => .error .alreadyExists
          | none => .ok (files.put key .directory) := by
  obtain ⟨front, name, hnames, hname⟩ := hpath.exists_names
  have hlast : (targetNames path).getLast? = some name := by
    rw [hnames, List.getLast?_concat]
  simp only [makeDirectory, hparts, bind, Except.bind, parts_of_ofPath hparts]
  cases files.walk false maxLinks [] (targetNames path) with
  | error fault => rfl
  | ok key =>
      simp only [hlast]
      split
      next hdot => exact absurd (Option.some.inj hdot) hname.1
      next hup => exact absurd (Option.some.inj hup) hname.2
      next => rfl

theorem vacant_of_makeDirectory (hpath : Ordinary path) (hnames : targetNames path = front ++ [name])
    (hmade : files.makeDirectory path = .ok made) :
    ∃ dir, Vacant files front name dir ∧ made = files.put (dir ++ [name]) .directory := by
  obtain ⟨parts, key, hparts, hwalk, hfree, rfl⟩ := makeDirectory_eq_ok hmade
  have hname : IsName name := hpath.isName name (hnames ▸ by simp)
  rw [parts_of_ofPath hparts, hnames] at hwalk
  have honward := (Way.of_walk files false maxLinks [] (front ++ [name])).onward (.root files)
  rw [hwalk] at honward
  cases honward with
  | reaches hfront hreached hlast =>
      rcases hlast.of_singleton hname with ⟨hkey, hshort⟩ | hlong
      · obtain rfl := Except.ok.inj hkey
        exact ⟨_, ⟨hfront.walk_eq, hreached, hname, hshort, hfree⟩, rfl⟩
      · cases hlong

theorem makeDirectory_of_vacant (hpath : Ordinary path)
    (hparts : PathParts.ofPath path = .ok parts) (hnames : targetNames path = front ++ [name])
    (vacant : Vacant files front name dir) :
    files.makeDirectory path = .ok (files.put (dir ++ [name]) .directory) := by
  simp only [hpath.makeDirectory_eq hparts, hnames, vacant.walk_concat, vacant.free]

theorem makeAll_of_vacant (hpath : Ordinary path) (hparts : PathParts.ofPath path = .ok parts)
    (hnames : targetNames path = front ++ [name]) (vacant : Vacant files front name dir) :
    files.makeAll path = (files.put (dir ++ [name]) .directory, .ok ()) := by
  rw [makeAll, makeDirectories, hpath.makeDirectory_of_vacant hparts hnames vacant,
    if_neg fun hempty => hpath.filled (String.isEmpty_iff.mp hempty)]

/-- Where a directory cannot be made because something is missing, it is missing before the last
name. -/
theorem nowhere_of_makeDirectory (hpath : Ordinary path)
    (hnames : targetNames path = front ++ [name])
    (hmissing : files.makeDirectory path = .error .notFound) :
    files.Nowhere (files.walk true maxLinks [] front) := by
  have hname : IsName name := hpath.isName name (hnames ▸ by simp)
  cases hparts : PathParts.ofPath path with
  | error fault =>
      have hfault : fault = .notFound := by
        simpa [makeDirectory, hparts, bind, Except.bind] using hmissing
      exact absurd (hfault ▸ hparts) hpath.ofPath_ne_notFound
  | ok parts =>
      rw [hpath.makeDirectory_eq hparts, hnames] at hmissing
      split at hmissing
      next fault hwalk =>
        obtain rfl := Except.error.inj hmissing
        have honward := (Way.of_walk files false maxLinks [] (front ++ [name])).onward (.root files)
        rw [hwalk] at honward
        cases honward with
        | reaches _ _ hlast => rcases hlast.of_singleton hname with ⟨hkey, -⟩ | hlong <;> simp_all
        | nowhere hfront hnowhere => exact hfront.walk_eq ▸ hnowhere
        | stuck hfault => exact absurd rfl hfault
      next => split at hmissing <;> simp at hmissing

end Ordinary

theorem isDirectory_eq_false
    (hwalk : ∀ key, files.walk true maxLinks [] (targetNames path) = .ok key →
      files.entry? key ≠ some .directory) : files.isDirectory path = false := by
  unfold isDirectory
  split
  next hstat =>
    obtain ⟨parts, hparts, hfound, hdirectory, -⟩ := walk_of_stat_true hstat
    rw [parts_of_ofPath hparts] at hfound
    exact absurd hdirectory (hwalk _ hfound)
  next => rfl

theorem isDirectory_eq_false_of_nowhere
    (hnowhere : files.Nowhere (files.walk true maxLinks [] (targetNames path))) :
    files.isDirectory path = false := by
  refine isDirectory_eq_false fun key hwalk => ?_
  rcases hnowhere with hfault | ⟨other, hother, hnone⟩
  · simp [hwalk] at hfault
  · obtain rfl := Except.ok.inj (hwalk.symm.trans hother)
    simp [hnone]

/-- A name that is free in a directory is not that of a directory. -/
theorem isDirectory_eq_false_of_free (hnames : targetNames path = front ++ [name])
    (hname : IsName name) (hwalk : files.walk true maxLinks [] front = .ok dir)
    (hdir : files.entry? dir = some .directory) (hfree : files.entry? (dir ++ [name]) = none) :
    files.isDirectory path = false := by
  have hfront := Way.of_walk files true maxLinks [] front
  refine isDirectory_eq_false fun key hkey => ?_
  rw [hnames] at hkey
  by_cases hlong : maxNameBytes < name.utf8ByteSize
  · have hway : Way files true maxLinks [] (front ++ [name]) (.error .nameTooLong) :=
      hfront.concat hwalk hdir fun _ => .long hname hlong
    simp [hway.walk_eq] at hkey
  · have hway : Way files true maxLinks [] (front ++ [name]) (.ok (dir ++ [name])) :=
      hfront.concat hwalk hdir fun _ => .last hname hlong (by simp [hfree]) (by simp [hfree])
    obtain rfl := Except.ok.inj (hway.walk_eq.symm.trans hkey)
    simp [hfree]

/-! ### A row of directories -/

/-- Names of a row were free, each in a directory to which the ones before it lead, and were made
directories from the first to the last. -/
inductive Paved (files : Files) : List String → Files → Prop where
  | start {front : List String} : Paved files front files
  | step {front : List String} {made : Files} {name : String} {dir : FileKey}
      (paved : Paved files front made) (vacant : Vacant made front name dir) :
      Paved files (front ++ [name]) (made.put (dir ++ [name]) .directory)

/-- The names, or some of the first of them, lead to the key. -/
def LeadsTo (files : Files) (names : List String) (key : FileKey) : Prop :=
  ∃ front, front ≠ [] ∧ front <+: names ∧ files.walk true maxLinks [] front = .ok key

namespace Paved

theorem rooted (hrooted : files.Rooted) (paved : Paved files names made) : made.Rooted := by
  induction paved with
  | start => exact hrooted
  | step _ vacant ih => exact vacant.rooted_put ih

/-- What has changed is a directory on the row now. -/
theorem entry?_cases (paved : Paved files names made) (key : FileKey) :
    made.entry? key = files.entry? key ∨
      files.entry? key = none ∧ made.entry? key = some .directory ∧ made.LeadsTo names key := by
  induction paved with
  | start => exact .inl rfl
  | @step front made name dir _ vacant ih =>
      by_cases hkey : dir ++ [name] = key
      · subst hkey
        have hkey : dir ++ [name] ≠ [] := by simp
        have hmade := entry?_put_self made hkey .directory
        rcases ih with hsame | ⟨-, hdirectory, -⟩
        · exact .inr ⟨hsame ▸ vacant.free, hmade, _, by simp, List.prefix_refl _, vacant.walk_put true⟩
        · simp [vacant.free] at hdirectory
      · rw [entry?_put_of_ne made hkey]
        refine ih.imp_right fun ⟨hnone, hdirectory, front', hfilled, hfront, hwalk⟩ => ?_
        have hkept := vacant.furnished.entry?_eq hdirectory
        exact ⟨hnone, hdirectory, front', hfilled, hfront.trans (List.prefix_append ..),
          vacant.furnished.grows.walk_eq hwalk (by simp [hkept])⟩

end Paved

/-- The induction goes up to the first parent that can be made. Every parent on the way up is an
ordinary path with something missing before its last name. -/
theorem exists_paved_of_makeDirectories {fuel : Nat} (hrooted : files.Rooted) (hpath : Ordinary path)
    (hmissing : files.isDirectory path = false)
    (hmade : files.makeDirectories fuel path = (after, .ok ())) :
    ∃ front name made dir, targetNames path = front ++ [name] ∧ Paved files front made ∧
      Vacant made front name dir ∧ after = made.put (dir ++ [name]) .directory := by
  induction fuel generalizing path after with
  | zero => simp [makeDirectories] at hmade
  | succ fuel ih =>
      obtain ⟨front, name, hnames, hname⟩ := hpath.exists_names
      unfold makeDirectories at hmade
      rw [if_neg fun hempty => hpath.filled (String.isEmpty_iff.mp hempty)] at hmade
      split at hmade
      next made hmake =>
        obtain ⟨rfl, -⟩ := Prod.mk.inj hmade
        obtain ⟨dir, vacant, rfl⟩ := hpath.vacant_of_makeDirectory hnames hmake
        exact ⟨front, name, files, dir, hnames, .start, vacant, rfl⟩
      next hmake =>
        have hnowhere := hpath.nowhere_of_makeDirectory hnames hmake
        have hfront : front ≠ [] := by
          rintro rfl
          simp [Nowhere, walk, entry?] at hnowhere
        obtain ⟨parent, hparent, hordinary, hsame⟩ := hpath.exists_parent hnames hfront
        rw [hparent] at hmade
        dsimp only at hmade
        split at hmade
        next => simp at hmade
        next mid hparents =>
          have habsent : files.isDirectory parent = false :=
            isDirectory_eq_false_of_nowhere (hsame.symm ▸ hnowhere)
          obtain ⟨above, last, made, dir, habove, paved, vacant, rfl⟩ :=
            ih hordinary habsent hparents
          obtain rfl : front = above ++ [last] := hsame.symm.trans habove
          unfold makeDirectories.finish at hmade
          split at hmade
          next hmake =>
            obtain ⟨rfl, -⟩ := Prod.mk.inj hmade
            obtain ⟨place, free, rfl⟩ := hpath.vacant_of_makeDirectory hnames hmake
            exact ⟨_, name, _, place, hnames, .step paved vacant, free, rfl⟩
          next =>
            -- The parent was made just now, so there is nothing in it yet.
            have hfree := vacant.entry?_put_below (paved.rooted hrooted)
              (List.prefix_append _ [name]) (by simp)
            have hstill := isDirectory_eq_false_of_free hnames hname (vacant.walk_put true)
              (entry?_put_self made (by simp) _) hfree
            simp [makeDirectories.settle, hstill] at hmade
      next fault _ hfault =>
        simp [makeDirectories.settle, hmissing] at hmade

end FleetControl.Files
