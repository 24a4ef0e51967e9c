import FleetControl.Proofs.Files.Growth
import Mathlib.Data.List.Induction

/-!
# Ordinary paths

An ordinary path is a row of names: no component of it is a dot or two dots, and no slash follows the
last one. What stands before its last name is an ordinary path again, with one name less, so whatever
climbs from a path to its parents meets ordinary paths only.
-/

namespace FleetControl

namespace Path

variable {chars front : List Char}

/-! ### Slashes -/

theorem filter_splitSlashes_of_slashes (hslashes : ∀ char ∈ chars, char = '/') :
    (splitSlashes chars).filter (· ≠ []) = [] := by
  induction chars with
  | nil => rfl
  | cons char chars ih =>
      obtain rfl := hslashes char List.mem_cons_self
      rw [splitSlashes_slash]
      exact ih fun other hmem => hslashes other (List.mem_cons_of_mem _ hmem)

/-- Slashes at the end add no component. -/
theorem filter_splitSlashes_append_slashes (hslashes : ∀ char ∈ chars, char = '/')
    (front : List Char) :
    (splitSlashes (front ++ chars)).filter (· ≠ []) = (splitSlashes front).filter (· ≠ []) := by
  cases chars with
  | nil => rw [List.append_nil]
  | cons char chars =>
      obtain rfl := hslashes char List.mem_cons_self
      rw [splitSlashes_append_slash, List.filter_append, filter_splitSlashes_of_slashes
        fun other hmem => hslashes other (List.mem_cons_of_mem _ hmem), List.append_nil]

/-- From the end of a path nothing is dropped where its last component is a name. -/
theorem dropTail_reverse_eq (hdot : ['.'] ∉ splitSlashes chars)
    (hended : chars.getLast? ≠ some '/') : dropTail chars.reverse = chars.reverse := by
  unfold dropTail
  split
  next rest hdots =>
    obtain rfl : chars = rest.reverse ++ '/' :: ['.'] := by
      rw [← List.reverse_reverse chars, hdots]
      simp
    refine absurd ?_ hdot
    rw [splitSlashes_append_slash]
    exact List.mem_append_right _ (List.mem_singleton_self _)
  next char rest hslash =>
    refine absurd ?_ hended
    rw [← List.head?_reverse, hslash]
    rfl
  next => rfl

theorem exists_reverse_eq_cons (hname : ∃ char ∈ chars, char ≠ '/') :
    ∃ first rest, chars.reverse = first :: rest := by
  obtain ⟨char, hmem, -⟩ := hname
  exact List.exists_cons_of_ne_nil
    (List.reverse_eq_nil_iff.not.mpr (List.ne_nil_of_mem hmem))

/-- Of a path without dots, nothing but slashes is dropped from the end. -/
theorem exists_dropTail_reverse (hdot : ['.'] ∉ splitSlashes chars)
    (hname : ∃ char ∈ chars, char ≠ '/') :
    ∃ core slashes, chars = core ++ slashes ∧ (∀ char ∈ slashes, char = '/') ∧
      dropTail chars.reverse = core.reverse ∧ core ≠ [] ∧ core.getLast? ≠ some '/' := by
  induction chars using List.reverseRecOn with
  | nil => simp at hname
  | append_singleton front char ih =>
      by_cases hchar : char = '/'
      · subst hchar
        have hfront : ∃ char ∈ front, char ≠ '/' := by simpa using hname
        have hdots : ['.'] ∉ splitSlashes front := by
          rw [splitSlashes_append_slash] at hdot
          exact fun hmem => hdot (List.mem_append_left _ hmem)
        obtain ⟨core, slashes, hsplit, hslashes, hdrop, hcore, hended⟩ := ih hdots hfront
        have hall : ∀ char ∈ slashes ++ ['/'], char = '/' := by
          intro char hmem
          rcases List.mem_append.mp hmem with hmem | hmem
          · exact hslashes char hmem
          · exact List.mem_singleton.mp hmem
        refine ⟨core, slashes ++ ['/'], by rw [hsplit, List.append_assoc], hall, ?_, hcore, hended⟩
        obtain ⟨first, rest, hreverse⟩ := exists_reverse_eq_cons hfront
        rw [List.reverse_concat, ← hdrop, hreverse]
        rfl
      · have hended : (front ++ [char]).getLast? ≠ some '/' := by simpa using hchar
        exact ⟨front ++ [char], [], (List.append_nil _).symm, by simp,
          dropTail_reverse_eq hdot hended, by simp, hended⟩

/-- The parent of a path is what stands before its last name, without the slashes between them. -/
theorem exists_parent?_eq {path : String} {base last : List Char}
    (hdot : ['.'] ∉ splitSlashes path.toList) (hended : path.toList.getLast? ≠ some '/')
    (htext : path.toList = base ++ '/' :: last) (hslash : '/' ∉ last)
    (hname : ∃ char ∈ base, char ≠ '/') :
    ∃ core slashes, base = core ++ slashes ∧ (∀ char ∈ slashes, char = '/') ∧ core ≠ [] ∧
      core.getLast? ≠ some '/' ∧ parent? path = some (String.ofList core) := by
  have hbase : ['.'] ∉ splitSlashes base := by
    rw [htext, splitSlashes_append_slash] at hdot
    exact fun hmem => hdot (List.mem_append_left _ hmem)
  obtain ⟨core, slashes, hsplit, hslashes, hdrop, hcore, hclosed⟩ :=
    exists_dropTail_reverse hbase hname
  refine ⟨core, slashes, hsplit, hslashes, hcore, hclosed, ?_⟩
  obtain ⟨first, rest, hfirst⟩ := exists_reverse_eq_cons hname
  have hreverse : path.toList.reverse = last.reverse ++ '/' :: first :: rest := by
    rw [htext, List.reverse_append, List.reverse_cons, hfirst, List.append_assoc]
    rfl
  have hcut : path.toList.reverse.dropWhile (· ≠ '/') = '/' :: first :: rest := by
    have hkeep : ∀ char ∈ last.reverse, decide (char ≠ '/') = true := fun char hmem =>
      decide_eq_true (ne_of_mem_of_not_mem (List.mem_reverse.mp hmem) hslash)
    rw [hreverse, List.dropWhile_append_of_pos hkeep]
    simp
  unfold parent?
  rw [dropTail_reverse_eq hdot hended]
  split
  next hnil => simp [hreverse] at hnil
  next hroot =>
    have hlength := congrArg List.length hroot
    rw [hreverse] at hlength
    simp at hlength
    omega
  next =>
    have hclimb : dropTail ('/' :: first :: rest) = core.reverse := by
      rw [← hdrop, hfirst]
      rfl
    rw [hcut, hclimb, List.reverse_reverse]

end Path

namespace Files

variable {path name : String} {front : List String} {parts : PathParts}

/-- The path is a row of names, and nothing follows the last one. -/
structure Ordinary (path : String) : Prop where
  filled : path ≠ ""
  isName : ∀ name ∈ targetNames path, IsName name
  ended : path.toList.getLast? ≠ some '/'

instance : Decidable (Ordinary path) :=
  decidable_of_iff (path ≠ "" ∧ (∀ name ∈ targetNames path, name ≠ "." ∧ name ≠ "..") ∧
      path.toList.getLast? ≠ some '/')
    ⟨fun ⟨filled, isName, ended⟩ => ⟨filled, isName, ended⟩,
      fun hpath => ⟨hpath.filled, hpath.isName, hpath.ended⟩⟩

namespace Ordinary

theorem toList_ne_nil (hpath : Ordinary path) : path.toList ≠ [] :=
  fun hnil => hpath.filled (String.toList_inj.mp hnil)

/-- An ordinary path has a last name, without a slash, and names before it where there is a slash. -/
theorem exists_last (hpath : Ordinary path) :
    ∃ base last, '/' ∉ last ∧
      (path.toList = last ∧ base = [] ∨ path.toList = base ++ '/' :: last) ∧
      targetNames path =
        ((Path.splitSlashes base).filter (· ≠ [])).map String.ofList ++ [String.ofList last] := by
  by_cases hslash : '/' ∈ path.toList
  · -- The last slash is the first one from behind.
    obtain ⟨last, base, hsplit, hlast⟩ :=
      List.eq_append_cons_of_mem (List.mem_reverse.mpr hslash)
    have htext : path.toList = base.reverse ++ '/' :: last.reverse := by
      rw [← List.reverse_reverse path.toList, hsplit]
      simp
    have hlast : '/' ∉ last.reverse := fun hmem => hlast (List.mem_reverse.mp hmem)
    have hfilled : last.reverse ≠ [] := by
      intro hnil
      refine hpath.ended ?_
      rw [htext, hnil, List.getLast?_concat]
    refine ⟨base.reverse, last.reverse, hlast, .inr htext, ?_⟩
    rw [targetNames, htext, Path.splitSlashes_append_slash, Path.splitSlashes_eq_singleton hlast,
      List.filter_append, List.filter_cons_of_pos (by simpa using hfilled), List.map_append]
    rfl
  · refine ⟨[], path.toList, hslash, .inl ⟨rfl, rfl⟩, ?_⟩
    rw [targetNames, Path.splitSlashes_eq_singleton hslash,
      List.filter_cons_of_pos (by simpa using hpath.toList_ne_nil)]
    rfl

theorem exists_names (hpath : Ordinary path) :
    ∃ front name, targetNames path = front ++ [name] ∧ IsName name := by
  obtain ⟨base, last, -, -, hnames⟩ := hpath.exists_last
  exact ⟨_, _, hnames, hpath.isName _ (hnames ▸ List.mem_append_right _ (List.mem_singleton_self _))⟩

theorem dot_not_mem (hpath : Ordinary path) : ['.'] ∉ Path.splitSlashes path.toList := by
  intro hmem
  refine (hpath.isName "." ?_).1 rfl
  exact List.mem_map.mpr ⟨['.'], List.mem_filter.mpr ⟨hmem, by simp⟩, rfl⟩

/-- The names of the parent are the names before the last one. -/
theorem exists_parent (hpath : Ordinary path) (hnames : targetNames path = front ++ [name])
    (hfront : front ≠ []) :
    ∃ parent, Path.parent? path = some parent ∧ Ordinary parent ∧ targetNames parent = front := by
  obtain ⟨base, last, hslash, htext, hsplit⟩ := hpath.exists_last
  obtain ⟨hbase, -⟩ := List.append_inj' (hnames.symm.trans hsplit) rfl
  have hname : ∃ char ∈ base, char ≠ '/' := by
    by_contra hnone
    refine hfront ?_
    rw [hbase, Path.filter_splitSlashes_of_slashes, List.map_nil]
    intro char hmem
    by_contra hchar
    exact hnone ⟨char, hmem, hchar⟩
  have htext : path.toList = base ++ '/' :: last := by
    rcases htext with ⟨-, rfl⟩ | htext
    · simp at hname
    · exact htext
  obtain ⟨core, slashes, rfl, hslashes, hcore, hended, hparent⟩ :=
    Path.exists_parent?_eq hpath.dot_not_mem hpath.ended htext hslash hname
  have hsame : targetNames (String.ofList core) = front := by
    rw [targetNames, String.toList_ofList, hbase, Path.filter_splitSlashes_append_slashes hslashes]
  refine ⟨String.ofList core, hparent, {
    filled := fun hempty => hcore (by simpa using congrArg String.toList hempty)
    isName := fun other hmem => ?_
    ended := by rwa [String.toList_ofList] }, hsame⟩
  rw [hsame] at hmem
  exact hpath.isName other (hnames ▸ List.mem_append_left _ hmem)

theorem ofPath_ne_notFound (hpath : Ordinary path) :
    PathParts.ofPath path ≠ .error .notFound := by
  unfold PathParts.ofPath
  rw [if_neg (c := path.isEmpty = true) fun hempty => hpath.filled (String.isEmpty_iff.mp hempty)]
  split
  next => simp
  next => split <;> simp

theorem trailing_eq (hpath : Ordinary path) (hparts : PathParts.ofPath path = .ok parts) :
    parts.trailing = false := by
  unfold PathParts.ofPath at hparts
  split at hparts
  next => simp at hparts
  next =>
    split at hparts
    next => simp at hparts
    next =>
      split at hparts
      next => simp at hparts
      next =>
        rw [← Except.ok.inj hparts]
        simp [hpath.ended]

end Ordinary

end Files

end FleetControl
