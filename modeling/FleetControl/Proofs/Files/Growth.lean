import FleetControl.Proofs.Files.Components
import FleetControl.Proofs.Files.Removal

/-!
# Trees that grow

Making directories and writing files takes nothing away, and nothing that stands in the tree becomes
something of another kind; only texts are replaced. So a path leads where it led before, and whoever
writes a file disturbs no other one. Two files are told apart by the ends of their names, as long as
no link has such a name.
-/

namespace FleetControl

namespace Path

/-- Whatever comes before it, a text without slashes ends the last component. -/
theorem exists_splitSlashes_append (front : List Char) {ending : List Char}
    (hslash : '/' ∉ ending) :
    ∃ parts stem, splitSlashes (front ++ ending) = parts ++ [stem ++ ending] := by
  induction front with
  | nil => exact ⟨[], [], splitSlashes_eq_singleton hslash⟩
  | cons char front ih =>
      obtain ⟨parts, stem, hparts⟩ := ih
      by_cases hchar : char = '/'
      · subst hchar
        exact ⟨[] :: parts, stem, by rw [List.cons_append, splitSlashes_slash, hparts]; rfl⟩
      · cases parts with
        | nil => exact ⟨[], char :: stem, splitSlashes_cons_of_ne hchar hparts⟩
        | cons first others =>
            exact ⟨(char :: first) :: others, stem, splitSlashes_cons_of_ne hchar hparts⟩

/-- What is joined to a path comes last in its text. -/
theorem exists_join_eq (base part : String) : ∃ front,
    join base part = front ++ part ∧ (front = "" ∨ front = base ∨ front = base ++ "/") := by
  unfold join
  split
  next => exact ⟨"", (String.empty_append).symm, .inl rfl⟩
  next =>
    split
    next => exact ⟨base, rfl, .inr (.inl rfl)⟩
    next => exact ⟨base ++ "/", rfl, .inr (.inr rfl)⟩

theorem size_join_le (base part : String) :
    (join base part).utf8ByteSize ≤ base.utf8ByteSize + 1 + part.utf8ByteSize := by
  have hslash : "/".utf8ByteSize = 1 := rfl
  have hempty : "".utf8ByteSize = 0 := rfl
  obtain ⟨front, hfront, rfl | rfl | rfl⟩ := exists_join_eq base part <;>
    rw [hfront] <;> simp only [String.utf8ByteSize_append] <;> omega

end Path

namespace Files

variable {before after files : Files} {key other : FileKey} {path : String}

theorem entry?_put_self (files : Files) (hkey : key ≠ []) (entry : FileEntry) :
    Files.entry? (files.put key entry) key = some entry := by
  rw [entry?_of_ne_root hkey]
  exact Keyed.find?_set_self ..

theorem entry?_put_of_ne (files : Files) (hother : key ≠ other) (entry : FileEntry) :
    Files.entry? (files.put key entry) other = files.entry? other := by
  unfold entry?
  simp only [put, Keyed.find?_set_of_ne files.entries entry hother]

/-- All that stands in the first tree stands in the second one, with other texts at most. -/
structure Grows (before after : Files) : Prop where
  directory {key : FileKey} (hentry : before.entry? key = some .directory) :
    after.entry? key = some .directory
  link {key : FileKey} {target : String} (hentry : before.entry? key = some (.link target)) :
    after.entry? key = some (.link target)
  file {key : FileKey} {text : String} (hentry : before.entry? key = some (.file text)) :
    ∃ text, after.entry? key = some (.file text)

namespace Grows

theorem refl (files : Files) : Grows files files := ⟨id, id, fun hentry => ⟨_, hentry⟩⟩

theorem trans {later : Files} (hearly : Grows before after) (hlate : Grows after later) :
    Grows before later where
  directory hentry := hlate.directory (hearly.directory hentry)
  link hentry := hlate.link (hearly.link hentry)
  file hentry := hlate.file (hearly.file hentry).choose_spec

/-- A file is written where nothing was, or a file. -/
theorem put_file (hdirectory : files.entry? key ≠ some .directory)
    (hlink : ∀ target, files.entry? key ≠ some (.link target)) (text : String) :
    Grows files (files.put key (.file text)) where
  directory {other} hentry := by
    rw [entry?_put_of_ne files (by rintro rfl; exact hdirectory hentry), hentry]
  link {other target} hentry := by
    rw [entry?_put_of_ne files (by rintro rfl; exact hlink target hentry), hentry]
  file {other old} hentry := by
    by_cases hother : key = other
    · subst hother
      have hroot : key ≠ [] := by
        rintro rfl
        simp at hentry
      exact ⟨text, entry?_put_self files hroot _⟩
    · exact ⟨old, by rw [entry?_put_of_ne files hother, hentry]⟩

end Grows

/-! ### Where a path leads -/

namespace Way

variable {links : Nat} {dir : FileKey} {names : List String}

/-- With links followed to the end, there is none where a way ends. -/
theorem entry?_ne_link {ending : Except IoFault FileKey}
    (way : Way files true links dir names ending) (hreached : files.Reached dir) {target : String}
    (hending : ending = .ok key) : files.entry? key ≠ some (.link target) := by
  induction way with
  | done =>
      obtain rfl := Except.ok.inj hending
      simp [hreached.self]
  | here _ ih => exact ih hreached hending
  | up _ ih => exact ih hreached.dropLast hending
  | last _ _ _ hlink =>
      obtain rfl := Except.ok.inj hending
      exact hlink rfl target
  | enter _ _ hentry _ ih => exact ih (hreached.concat hentry) hending
  | @link left dir name other rest ending _ _ _ _ _ ih =>
      refine ih ?_ hending
      split
      next => exact .root files
      next => exact hreached
  | long | missing | blocked | loop => simp at hending

/-- In a tree that has grown, a way ends where it did, unless a link stands there now. -/
theorem grows {ending : Except IoFault FileKey} (hgrows : Grows before after)
    (way : Way before true links dir names ending) (hending : ending = .ok key)
    (hlink : ∀ target, after.entry? key ≠ some (.link target)) :
    Way after true links dir names ending := by
  induction way with
  | done => exact .done
  | here _ ih => exact .here (ih hending)
  | up _ ih => exact .up (ih hending)
  | @last links dir name hname hshort _ _ =>
      obtain rfl := Except.ok.inj hending
      by_cases hdirectory : after.entry? (dir ++ [name]) = some .directory
      · exact .enter hname hshort hdirectory .done
      · exact .last hname hshort hdirectory fun _ => hlink
  | enter hname hshort hentry _ ih =>
      exact .enter hname hshort (hgrows.directory hentry) (ih hending)
  | link hname hshort hentry hfollow _ ih =>
      exact .link hname hshort (hgrows.link hentry) hfollow (ih hending)
  | long | missing | blocked | loop => simp at hending

/-- A way ends at the name that comes last, unless a link is called so. -/
theorem getLast?_eq {ending : Except IoFault FileKey} {name : String} (hname : IsName name)
    (hlinks : ∀ dir target, files.entry? (dir ++ [name]) ≠ some (.link target))
    (way : Way files true links dir names ending) (hending : ending = .ok key)
    (hlast : names.getLast? = some name) : key.getLast? = some name := by
  induction way with
  | done => simp at hlast
  | here _ ih =>
      rcases getLast?_cons_cases hlast with ⟨-, rfl⟩ | hlast
      · exact absurd rfl hname.1
      · exact ih hending hlast
  | up _ ih =>
      rcases getLast?_cons_cases hlast with ⟨-, rfl⟩ | hlast
      · exact absurd rfl hname.2
      · exact ih hending hlast
  | last =>
      obtain rfl := Except.ok.inj hending
      simpa using hlast
  | enter _ _ _ way ih =>
      rcases getLast?_cons_cases hlast with ⟨rfl, rfl⟩ | hlast
      · cases way
        obtain rfl := Except.ok.inj hending
        simp
      · exact ih hending hlast
  | link _ _ hentry _ _ ih =>
      rcases getLast?_cons_cases hlast with ⟨-, rfl⟩ | hlast
      · exact absurd hentry (hlinks _ _)
      · exact ih hending (by rw [List.getLast?_append, hlast]; rfl)
  | long | missing | blocked | loop => simp at hending

end Way

/-- In a tree that has grown, a walk ends where it did. -/
theorem Grows.walk_eq (hgrows : Grows before after) {names : List String}
    (hwalk : before.walk true maxLinks [] names = .ok key)
    (hlink : ∀ target, after.entry? key ≠ some (.link target)) :
    after.walk true maxLinks [] names = .ok key :=
  ((Way.of_walk before true maxLinks [] names).grows hgrows hwalk hlink).walk_eq.trans hwalk

/-- What is found behind a path, with all links followed, is at the end of the walk along it. -/
theorem walk_of_stat_true {entry : FileEntry} (hstat : files.stat true path = .ok (key, entry)) :
    ∃ parts, PathParts.ofPath path = .ok parts ∧
      files.walk true maxLinks [] parts.parts = .ok key ∧ files.entry? key = some entry ∧
      (entry ≠ .directory → parts.trailing = false) := by
  cases hparts : PathParts.ofPath path with
  | error fault => simp [stat, locate, hparts, bind, Except.bind] at hstat
  | ok parts =>
      rw [stat_eq hparts, Bool.true_or] at hstat
      refine ⟨parts, rfl, ?_⟩
      split at hstat
      next => simp at hstat
      next found hfound =>
        split at hstat
        next => simp at hstat
        next hentry =>
          obtain ⟨rfl, rfl⟩ := Prod.mk.inj (Except.ok.inj hstat)
          exact ⟨hfound, hentry, fun hother => absurd rfl hother⟩
        next hentry =>
          split at hstat
          next => simp at hstat
          next htrailing =>
            obtain ⟨rfl, rfl⟩ := Prod.mk.inj (Except.ok.inj hstat)
            exact ⟨hfound, hentry, fun _ => by simpa using htrailing⟩

theorem entry?_of_stat {entry : FileEntry} (hstat : files.stat true path = .ok (key, entry)) :
    files.entry? key = some entry := by
  obtain ⟨-, -, -, hentry, -⟩ := walk_of_stat_true hstat
  exact hentry

section

variable {parts : PathParts} {text new : String}

/-- A file is found where it was found before, whatever its text is now. -/
theorem Grows.stat_file (hgrows : Grows before after)
    (hstat : before.stat true path = .ok (key, .file text))
    (hentry : after.entry? key = some (.file new)) :
    after.stat true path = .ok (key, .file new) := by
  obtain ⟨parts, hparts, hwalk, -, htrailing⟩ := walk_of_stat_true hstat
  rw [stat_eq hparts, Bool.true_or, hgrows.walk_eq hwalk (by simp [hentry])]
  simp [hentry, htrailing]

theorem readText_of_stat (hstat : files.stat true path = .ok (key, .file text)) :
    files.readText path = .ok text := by
  rw [readText, hstat]
  rfl

theorem isFile_of_stat (hstat : files.stat true path = .ok (key, .file text)) :
    files.isFile path = true := by
  rw [isFile, hstat]

theorem locate_of_stat {follow : Bool} {entry : FileEntry}
    (hstat : files.stat follow path = .ok (key, entry)) : files.locate follow path = .ok key := by
  unfold stat at hstat
  cases hlocate : files.locate follow path with
  | error fault => simp [hlocate, bind, Except.bind] at hstat
  | ok found =>
      simp only [hlocate, bind, Except.bind] at hstat
      split at hstat
      next => simp at hstat
      next => rw [(Prod.mk.inj (Except.ok.inj hstat)).1]

/-! ### Writing a file -/

theorem parts_of_ofPath (hparts : PathParts.ofPath path = .ok parts) :
    parts.parts = targetNames path := by
  unfold PathParts.ofPath at hparts
  split at hparts
  next => simp at hparts
  next =>
    split at hparts
    next => simp at hparts
    next =>
      split at hparts
      next => simp at hparts
      next => rw [← Except.ok.inj hparts, targetNames]

/-- The place of a file for writing holds a file already, or nothing. -/
theorem walk_of_fileKey (hkey : files.fileKey path = .ok key) :
    ∃ parts, PathParts.ofPath path = .ok parts ∧ parts.trailing = false ∧
      files.walk true maxLinks [] parts.parts = .ok key ∧
      files.entry? key ≠ some .directory ∧ ∀ target, files.entry? key ≠ some (.link target) := by
  unfold fileKey at hkey
  cases hparts : PathParts.ofPath path with
  | error fault => simp [hparts, bind, Except.bind] at hkey
  | ok parts =>
      simp only [hparts, bind, Except.bind] at hkey
      split at hkey
      next => split at hkey <;> simp at hkey
      next htrailing =>
        split at hkey
        next => simp at hkey
        next found hwalk =>
          split at hkey
          next => simp at hkey
          next hdirectory =>
            obtain rfl := Except.ok.inj hkey
            refine ⟨parts, rfl, by simpa using htrailing, hwalk, hdirectory, fun target => ?_⟩
            have hway := Way.of_walk files true maxLinks [] parts.parts
            exact hway.entry?_ne_link (.root files) hwalk

/-- A file that was written is found with its text, and nothing else is touched. -/
theorem writeText_eq_ok {written : Files} (hwrite : files.writeText path text = .ok written) :
    ∃ key, files.fileKey path = .ok key ∧ Grows files written ∧
      written.stat true path = .ok (key, .file text) ∧
      ∀ other, key ≠ other → written.entry? other = files.entry? other := by
  unfold writeText at hwrite
  cases hkey : files.fileKey path with
  | error fault => simp [hkey, bind, Except.bind] at hwrite
  | ok key =>
      simp only [hkey, bind, Except.bind, pure, Except.pure, Except.ok.injEq] at hwrite
      obtain ⟨parts, hparts, htrailing, hwalk, hdirectory, hlink⟩ := walk_of_fileKey hkey
      have hroot : key ≠ [] := by
        rintro rfl
        simp at hdirectory
      have hgrows : Grows files written := hwrite ▸ Grows.put_file hdirectory hlink text
      have hentry : written.entry? key = some (.file text) :=
        hwrite ▸ entry?_put_self files hroot _
      refine ⟨key, rfl, hgrows, ?_, fun other hother => hwrite ▸ entry?_put_of_ne files hother _⟩
      rw [stat_eq hparts, Bool.true_or, hgrows.walk_eq hwalk (by simp [hentry])]
      simp [hentry, htrailing]

/-! ### Names and their endings -/

/-- No link has a name with this ending. -/
def Unlinked (files : Files) (ending : String) : Prop :=
  ∀ dir name target, ending.toList <:+ name.toList →
    files.entry? (dir ++ [name]) ≠ some (.link target)

/-- The last name of a key has this ending. -/
def EndsIn (key : FileKey) (ending : String) : Prop :=
  ∃ dir name, key = dir ++ [name] ∧ ending.toList <:+ name.toList

theorem Unlinked.mono {ending longer : String} (hunlinked : files.Unlinked ending)
    (hending : ending.toList <:+ longer.toList) : files.Unlinked longer :=
  fun dir name target hname => hunlinked dir name target (hending.trans hname)

/-- Names whose endings do not fit together differ. -/
theorem EndsIn.ne {ending ending' : String} (hkey : EndsIn key ending)
    (hother : EndsIn other ending') (hleft : ¬ ending.toList <:+ ending'.toList)
    (hright : ¬ ending'.toList <:+ ending.toList) : key ≠ other := by
  rintro rfl
  obtain ⟨dir, name, rfl, hname⟩ := hkey
  obtain ⟨dir', name', hsame, hname'⟩ := hother
  obtain rfl : name = name' := (List.cons.inj (List.append_inj' hsame rfl).2).1
  exact (List.suffix_or_suffix_of_suffix hname hname').elim hleft hright

/-- The file that a path names ends as the text of the path does, if no link is named so. -/
theorem endsIn_of_fileKey {front ending : String} (hslash : '/' ∉ ending.toList)
    (hlong : 2 < ending.toList.length) (hunlinked : files.Unlinked ending)
    (hkey : files.fileKey (front ++ ending) = .ok key) : EndsIn key ending := by
  obtain ⟨parts, hparts, -, hwalk, -⟩ := walk_of_fileKey hkey
  obtain ⟨others, stem, hsplit⟩ := Path.exists_splitSlashes_append front.toList hslash
  have hlast : parts.parts.getLast? = some (String.ofList (stem ++ ending.toList)) := by
    have hfilled : ending ≠ "" := by
      rintro rfl
      simp at hlong
    rw [parts_of_ofPath hparts, targetNames, String.toList_append, hsplit, List.filter_append,
      List.filter_cons_of_pos (by simp [hfilled])]
    simp
  have hends : ending.toList <:+ (String.ofList (stem ++ ending.toList)).toList := by
    rw [String.toList_ofList]
    exact List.suffix_append ..
  have hname : IsName (String.ofList (stem ++ ending.toList)) := by
    constructor <;> intro hdots <;> rw [hdots] at hends <;> have hlength := hends.length_le <;>
      simp at hlength <;> omega
  have hfinal := (Way.of_walk files true maxLinks [] parts.parts).getLast?_eq hname
    (fun dir target => hunlinked dir _ target hends) hwalk hlast
  obtain ⟨dir, rfl⟩ := List.getLast?_eq_some_iff.mp hfinal
  exact ⟨dir, _, rfl, hends⟩

/-! ### Making directories -/

/-- A directory that was made stands where nothing was. -/
theorem makeDirectory_eq_ok (hmade : before.makeDirectory path = .ok after) :
    ∃ parts key, PathParts.ofPath path = .ok parts ∧
      before.walk false maxLinks [] parts.parts = .ok key ∧ before.entry? key = none ∧
      after = before.put key .directory := by
  obtain ⟨parts, hparts, hmade⟩ := exists_of_bind_eq_ok hmade
  obtain ⟨key, hwalk, hmade⟩ := exists_of_bind_eq_ok hmade
  split at hmade
  next => simp at hmade
  next => simp at hmade
  next =>
    split at hmade
    next => simp at hmade
    next hnone => exact ⟨parts, key, hparts, hwalk, hnone, (Except.ok.inj hmade).symm⟩

/-- What every single directory keeps that is made, the making of a directory with its parents keeps,
also where it fails on the way. -/
theorem makeDirectories_keeps {motive : Files → Prop}
    (hmake : ∀ {files made : Files} {path : String}, motive files →
      files.makeDirectory path = .ok made → motive made)
    (fuel : Nat) (path : String) (hfiles : motive files) :
    motive (files.makeDirectories fuel path).1 := by
  have hfinish : ∀ {files : Files} {path : String}, motive files →
      motive (makeDirectories.finish files path).1 := by
    intro files path hfiles
    unfold makeDirectories.finish
    split
    next hmade => exact hmake hfiles hmade
    next => exact hfiles
  induction fuel generalizing files path with
  | zero => exact hfiles
  | succ fuel ih =>
      unfold makeDirectories
      split
      next => exact hfiles
      next =>
        split
        next hmade => exact hmake hfiles hmade
        next =>
          split
          next => exact hfiles
          next parent _ =>
            have hparents := ih parent hfiles
            split
            next hfailed => exact hfailed ▸ hparents
            next hmade =>
              rw [hmade] at hparents
              exact hfinish hparents
        next => exact hfiles

/-- The second tree has more directories at most. -/
def Furnished (before after : Files) : Prop :=
  ∀ key, after.entry? key = before.entry? key ∨
    before.entry? key = none ∧ after.entry? key = some .directory

namespace Furnished

theorem refl (files : Files) : Furnished files files := fun _ => .inl rfl

theorem trans {later : Files} (hearly : Furnished before after) (hlate : Furnished after later) :
    Furnished before later := by
  intro key
  rcases hlate key with hsame | ⟨hnone, hmade⟩
  · rw [hsame]
    exact hearly key
  · rcases hearly key with hbefore | ⟨-, hdirectory⟩
    · exact .inr ⟨hbefore ▸ hnone, hmade⟩
    · simp [hnone] at hdirectory

theorem entry?_eq (hfurnished : Furnished before after) {entry : FileEntry}
    (hentry : before.entry? key = some entry) : after.entry? key = some entry := by
  rcases hfurnished key with hsame | ⟨hnone, -⟩
  · rw [hsame, hentry]
  · simp [hentry] at hnone

theorem grows (hfurnished : Furnished before after) : Grows before after :=
  ⟨hfurnished.entry?_eq, hfurnished.entry?_eq, fun hentry => ⟨_, hfurnished.entry?_eq hentry⟩⟩

theorem put (hnone : files.entry? key = none) : Furnished files (files.put key .directory) := by
  intro other
  by_cases hother : key = other
  · subst hother
    have hroot : key ≠ [] := by
      rintro rfl
      simp at hnone
    exact .inr ⟨hnone, entry?_put_self files hroot _⟩
  · exact .inl (entry?_put_of_ne files hother _)

theorem makeDirectory (hmade : before.makeDirectory path = .ok after) :
    Furnished before after := by
  obtain ⟨-, key, -, -, hnone, rfl⟩ := makeDirectory_eq_ok hmade
  exact put hnone

theorem makeAll {outcome : Except IoFault Unit} (hmade : before.makeAll path = (after, outcome)) :
    Furnished before after := by
  have hfurnished := makeDirectories_keeps (motive := Furnished before)
    (fun hearly hmade => hearly.trans (makeDirectory hmade)) (path.length + 1) path (refl before)
  rwa [← Files.makeAll, hmade] at hfurnished

end Furnished

end

end Files

end FleetControl
