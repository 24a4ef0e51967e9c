import FleetControl.Proofs.Files.Growth

/-!
# Files that can be written

In a directory that holds files at most, any further file can be written, and however many are, it
stays such a directory.
-/

namespace FleetControl.Files

variable {files written : Files} {path name text : String} {key : FileKey}

/-- A name under which a file can be written. -/
structure FileName (name : String) : Prop where
  filled : name ≠ ""
  slash : '/' ∉ name.toList
  null : '\x00' ∉ name.toList
  isName : IsName name
  short : name.utf8ByteSize ≤ maxNameBytes

instance (name : String) : Decidable (FileName name) :=
  decidable_of_iff (name ≠ "" ∧ '/' ∉ name.toList ∧ '\x00' ∉ name.toList ∧
      (name ≠ "." ∧ name ≠ "..") ∧ name.utf8ByteSize ≤ maxNameBytes) {
    mp := fun ⟨filled, slash, null, isName, short⟩ => ⟨filled, slash, null, isName, short⟩
    mpr := fun hname => ⟨hname.filled, hname.slash, hname.null, hname.isName, hname.short⟩ }

namespace FileName

theorem toList_ne_nil (hname : FileName name) : name.toList ≠ [] :=
  fun hnil => hname.filled (String.toList_inj.mp hnil)

theorem targetNames_eq (hname : FileName name) : targetNames name = [name] := by
  rw [targetNames, Path.splitSlashes_eq_singleton hname.slash]
  simp [hname.toList_ne_nil]

theorem targetNames_join (hname : FileName name) (base : String) :
    targetNames (Path.join base name) = targetNames base ++ [name] := by
  rw [← hname.targetNames_eq, targetNames, Path.filter_splitSlashes_join (by simp) base
    (Path.isAbsolute_eq_false hname.slash), List.map_append]
  rfl

/-- A path that ends in a name can be taken unless something before the name forbids it. -/
theorem ofPath_eq (hname : FileName name) {front : String} (hpath : path = front ++ name)
    (hnull : '\x00' ∉ front.toList) (hsize : path.utf8ByteSize < 4096) :
    PathParts.ofPath path = .ok ⟨targetNames path, false⟩ := by
  obtain ⟨most, last, hlast⟩ : ∃ most last, name.toList = most ++ [last] := by
    rcases List.eq_nil_or_concat name.toList with hnil | ⟨most, last, hconcat⟩
    · exact absurd hnil hname.toList_ne_nil
    · exact ⟨most, last, hconcat.trans List.concat_eq_append⟩
  have hends : path.toList.getLast? = some last := by
    rw [hpath, String.toList_append, hlast, ← List.append_assoc, List.getLast?_concat]
  have hempty : path.isEmpty = false := by
    rw [Bool.eq_false_iff]
    intro hnone
    simp [String.isEmpty_iff.mp hnone] at hends
  have hclean : '\x00' ∉ path.toList := by
    simp [hpath, hnull, hname.null]
  have hmark : last ≠ '/' := by
    rintro rfl
    exact hname.slash (by simp [hlast])
  unfold PathParts.ofPath
  rw [if_neg (by simpa using hclean), if_neg (by simp [hempty]), if_neg (Nat.not_le.mpr hsize)]
  simp only [hends]
  simp [hmark, targetNames]

/-- A file in a directory is named by the path of the directory with the name behind it. -/
theorem ofPath_join (hname : FileName name) {parts : PathParts}
    (hparts : PathParts.ofPath path = .ok parts)
    (hsize : path.utf8ByteSize + maxNameBytes + 1 < 4096) :
    PathParts.ofPath (Path.join path name) = .ok ⟨parts.parts ++ [name], false⟩ := by
  have hnull : '\x00' ∉ path.toList := by
    unfold PathParts.ofPath at hparts
    split at hparts
    next => simp at hparts
    next hnone => simpa using hnone
  have hbytes : (Path.join path name).utf8ByteSize < 4096 := by
    have hjoin := Path.size_join_le path name
    have hshort := hname.short
    omega
  obtain ⟨front, hfront, hbase⟩ := Path.exists_join_eq path name
  have hclean : '\x00' ∉ front.toList := by
    rcases hbase with rfl | rfl | rfl <;> simp [hnull]
  rw [hname.ofPath_eq hfront hclean hbytes, hname.targetNames_join, parts_of_ofPath hparts]

end FileName

/-- From a directory that a way leads to, it goes on to a file there. -/
theorem Way.into {links : Nat} {dir : FileKey} {names : List String}
    {ending : Except IoFault FileKey} (way : Way files true links dir names ending)
    (hending : ending = .ok key) (hdirectory : files.entry? key = some .directory)
    (hname : FileName name)
    (hentry : files.entry? (key ++ [name]) ≠ some .directory)
    (hlink : ∀ target, files.entry? (key ++ [name]) ≠ some (.link target)) :
    Way files true links dir (names ++ [name]) (.ok (key ++ [name])) :=
  way.concat hending hdirectory fun _ =>
    .last hname.isName (Nat.not_lt.mpr hname.short) hentry fun _ => hlink

/-- The path leads to a directory that holds files at most, and is not too long for their names. -/
structure Shelf (files : Files) (path : String) (key : FileKey) : Prop where
  stat : files.stat true path = .ok (key, .directory)
  filed : ∀ name, files.entry? (key ++ [name]) = none ∨
    ∃ text, files.entry? (key ++ [name]) = some (.file text)
  short : path.utf8ByteSize + maxNameBytes + 1 < 4096

namespace Shelf

theorem fileKey_eq (shelf : Shelf files path key) (hname : FileName name) :
    files.fileKey (Path.join path name) = .ok (key ++ [name]) := by
  obtain ⟨parts, hparts, hwalk, hdirectory, -⟩ := walk_of_stat_true shelf.stat
  have hentry : files.entry? (key ++ [name]) ≠ some .directory := by
    rcases shelf.filed name with hnone | ⟨text, hfile⟩ <;> simp [*]
  have hlink : ∀ target, files.entry? (key ++ [name]) ≠ some (.link target) := by
    intro target
    rcases shelf.filed name with hnone | ⟨text, hfile⟩ <;> simp [*]
  have hway := (Way.of_walk files true maxLinks [] parts.parts).into hwalk hdirectory hname hentry
    hlink
  simp only [fileKey, hname.ofPath_join hparts shelf.short, hway.walk_eq, bind, Except.bind,
    Bool.false_eq_true, if_false]

theorem exists_writeText (shelf : Shelf files path key) (hname : FileName name) (text : String) :
    ∃ written, files.writeText (Path.join path name) text = .ok written := by
  simp only [writeText, shelf.fileKey_eq hname, bind, Except.bind]
  exact ⟨_, rfl⟩

/-- Whatever is written anywhere, the directory stays as it is. -/
theorem writeText {other : String} (shelf : Shelf files path key)
    (hwrite : files.writeText other text = .ok written) : Shelf written path key := by
  obtain ⟨place, -, hgrows, hstat, hothers⟩ := writeText_eq_ok hwrite
  obtain ⟨parts, hparts, hwalk, hdirectory, -⟩ := walk_of_stat_true shelf.stat
  have hkept := hgrows.directory hdirectory
  refine ⟨?_, fun name => ?_, shelf.short⟩
  · rw [stat_eq hparts, Bool.true_or, hgrows.walk_eq hwalk (by simp [hkept])]
    simp [hkept]
  · by_cases hplace : place = key ++ [name]
    · exact .inr ⟨text, hplace ▸ entry?_of_stat hstat⟩
    · rw [hothers _ hplace]
      exact shelf.filed name

/-- There is no need to make a directory that exists. -/
theorem makeAll_eq (shelf : Shelf files path key) : files.makeAll path = (files, .ok ()) := by
  obtain ⟨parts, hparts, hwalk, hdirectory, -⟩ := walk_of_stat_true shelf.stat
  have hexists : files.makeDirectory path = .error .alreadyExists := by
    obtain ⟨place, hplace, hfound⟩ : ∃ place, files.walk false maxLinks [] parts.parts = .ok place ∧
        files.entry? place ≠ none := by
      rcases (Way.of_walk files false maxLinks [] parts.parts).followed with
        hsame | ⟨place, target, hplace, hlink⟩
      · exact ⟨key, hsame.walk_eq.symm.trans hwalk, by simp [hdirectory]⟩
      · exact ⟨place, hplace, by simp [hlink]⟩
    simp only [makeDirectory, hparts, hplace, bind, Except.bind]
    split
    next => rfl
    next => rfl
    next =>
      split
      next => rfl
      next hnone => exact absurd hnone hfound
  have hisDirectory : files.isDirectory path = true := by
    rw [isDirectory, shelf.stat]
  unfold makeAll makeDirectories
  split
  next => rfl
  next => simp [hexists, makeDirectories.settle, hisDirectory]

end Shelf

end FleetControl.Files
