import FleetControl.Files.Directory

/-!
# Removed directories

A directory whose removal succeeds is gone: its path leads to nothing afterwards, whether a link at
its end is followed or not. Removing takes entries away and changes none, and a path through a tree
that has fewer entries leads where it led before, or to nothing.
-/

namespace FleetControl

theorem exists_of_bind_eq_ok {ε α β : Type} {x : Except ε α} {f : α → Except ε β} {b : β}
    (hbind : (x >>= f) = .ok b) : ∃ a, x = .ok a ∧ f a = .ok b := by
  cases x with
  | error e => cases hbind
  | ok a => exact ⟨a, rfl, hbind⟩

theorem Keyed.find?_filter {κ α : Type} [DecidableEq κ] (entries : Keyed κ α) (keep : κ → Bool)
    (key : κ) :
    Keyed.find? (entries.filter fun entry => keep entry.1) key =
      if keep key then Keyed.find? entries key else none := by
  induction entries with
  | nil => simp
  | cons entry rest ih =>
      obtain ⟨other, value⟩ := entry
      by_cases hother : other = key
      · subst hother
        by_cases hkeep : keep other = true <;> simp [hkeep, find?, ih]
      · by_cases hkeep : keep other = true <;> simp [hkeep, find?, hother, ih]

theorem getLast?_cons_cases {α : Type} {first last : α} {rest : List α}
    (hlast : (first :: rest).getLast? = some last) :
    rest = [] ∧ first = last ∨ rest.getLast? = some last := by
  cases rest with
  | nil => exact .inl ⟨rfl, by simpa using hlast⟩
  | cons => exact .inr (List.getLast?_cons_cons ▸ hlast)

namespace Files

/-- A component of a path that names an entry. -/
def IsName (name : String) : Prop := name ≠ "." ∧ name ≠ ".."

/-- The names on the path that a link holds. -/
def targetNames (target : String) : List String :=
  ((Path.splitSlashes target.toList).filter (· ≠ [])).map String.ofList

/-- The way along names from a directory, and where it ends. -/
inductive Way (files : Files) (follow : Bool) :
    Nat → FileKey → List String → Except IoFault FileKey → Prop where
  | done {links : Nat} {dir : FileKey} : Way files follow links dir [] (.ok dir)
  | here {links : Nat} {dir : FileKey} {rest : List String} {ending : Except IoFault FileKey}
      (way : Way files follow links dir rest ending) :
      Way files follow links dir ("." :: rest) ending
  | up {links : Nat} {dir : FileKey} {rest : List String} {ending : Except IoFault FileKey}
      (way : Way files follow links dir.dropLast rest ending) :
      Way files follow links dir (".." :: rest) ending
  | long {links : Nat} {dir : FileKey} {name : String} {rest : List String} (hname : IsName name)
      (hlong : maxNameBytes < name.utf8ByteSize) :
      Way files follow links dir (name :: rest) (.error .nameTooLong)
  /-- What the last name leads to is not looked into. -/
  | last {links : Nat} {dir : FileKey} {name : String} (hname : IsName name)
      (hshort : ¬ maxNameBytes < name.utf8ByteSize)
      (hdirectory : files.entry? (dir ++ [name]) ≠ some .directory)
      (hlink : follow = true → ∀ target, files.entry? (dir ++ [name]) ≠ some (.link target)) :
      Way files follow links dir [name] (.ok (dir ++ [name]))
  | missing {links : Nat} {dir : FileKey} {name : String} {rest : List String} (hname : IsName name)
      (hshort : ¬ maxNameBytes < name.utf8ByteSize) (hentry : files.entry? (dir ++ [name]) = none)
      (hrest : rest ≠ []) : Way files follow links dir (name :: rest) (.error .notFound)
  | blocked {links : Nat} {dir : FileKey} {name text : String} {rest : List String}
      (hname : IsName name) (hshort : ¬ maxNameBytes < name.utf8ByteSize)
      (hentry : files.entry? (dir ++ [name]) = some (.file text)) (hrest : rest ≠ []) :
      Way files follow links dir (name :: rest) (.error .notADirectory)
  | enter {links : Nat} {dir : FileKey} {name : String} {rest : List String}
      {ending : Except IoFault FileKey} (hname : IsName name)
      (hshort : ¬ maxNameBytes < name.utf8ByteSize)
      (hentry : files.entry? (dir ++ [name]) = some .directory)
      (way : Way files follow links (dir ++ [name]) rest ending) :
      Way files follow links dir (name :: rest) ending
  | loop {dir : FileKey} {name target : String} {rest : List String} (hname : IsName name)
      (hshort : ¬ maxNameBytes < name.utf8ByteSize)
      (hentry : files.entry? (dir ++ [name]) = some (.link target))
      (hfollow : rest = [] → follow = true) :
      Way files follow 0 dir (name :: rest) (.error .linkLoop)
  | link {left : Nat} {dir : FileKey} {name target : String} {rest : List String}
      {ending : Except IoFault FileKey} (hname : IsName name)
      (hshort : ¬ maxNameBytes < name.utf8ByteSize)
      (hentry : files.entry? (dir ++ [name]) = some (.link target))
      (hfollow : rest = [] → follow = true)
      (way : Way files follow left (if Path.isAbsolute target then [] else dir)
        (targetNames target ++ rest) ending) :
      Way files follow (left + 1) dir (name :: rest) ending

namespace Way

variable {files : Files} {follow : Bool} {links : Nat} {dir : FileKey} {names : List String}

theorem of_walk (files : Files) (follow : Bool) (links : Nat) (dir : FileKey)
    (names : List String) :
    Way files follow links dir names (files.walk follow links dir names) := by
  fun_induction Files.walk files follow links dir names with
  | case1 => exact .done
  | case2 _ _ _ ih => exact .here ih
  | case3 _ _ _ _ ih => exact .up ih
  | case4 _ _ _ _ hdot hup hlong => exact .long ⟨hdot, hup⟩ hlong
  | case5 _ _ _ hdot hup hshort key hentry =>
      exact .last ⟨hdot, hup⟩ hshort (by simp [key, hentry]) (by simp [key, hentry])
  | case6 _ _ _ _ hdot hup hshort _ hentry hrest => exact .missing ⟨hdot, hup⟩ hshort hentry hrest
  | case7 _ _ _ _ hdot hup hshort _ hentry ih => exact .enter ⟨hdot, hup⟩ hshort hentry ih
  | case8 _ _ _ hdot hup hshort key _ hentry =>
      exact .last ⟨hdot, hup⟩ hshort (by simp [key, hentry]) (by simp [key, hentry])
  | case9 _ _ _ _ hdot hup hshort _ _ hentry hrest => exact .blocked ⟨hdot, hup⟩ hshort hentry hrest
  | case10 _ _ _ _ hdot hup hshort key _ hentry hkept =>
      obtain ⟨rfl, hfollow⟩ := hkept
      exact .last ⟨hdot, hup⟩ hshort (by simp [key, hentry]) fun hyes => absurd hyes hfollow
  | case11 _ _ _ hdot hup hshort _ _ hentry hkept =>
      exact .loop ⟨hdot, hup⟩ hshort hentry
        fun hrest => Decidable.not_not.mp fun hno => hkept ⟨hrest, hno⟩
  | case12 _ _ _ hdot hup hshort _ _ hentry hkept _ _ _ ih =>
      exact .link ⟨hdot, hup⟩ hshort hentry
        (fun hrest => Decidable.not_not.mp fun hno => hkept ⟨hrest, hno⟩) ih

theorem walk_eq {ending : Except IoFault FileKey} (way : Way files follow links dir names ending) :
    files.walk follow links dir names = ending := by
  induction way with
  | done => rw [walk]
  | here way ih => rw [walk, if_pos rfl, ih]
  | up way ih => rw [walk, if_neg (by decide), if_pos rfl, ih]
  | long hname hlong => rw [walk, if_neg hname.1, if_neg hname.2, if_pos hlong]
  | missing hname hshort hentry hrest =>
      rw [walk, if_neg hname.1, if_neg hname.2, if_neg hshort]
      simp [hentry, hrest]
  | blocked hname hshort hentry hrest =>
      rw [walk, if_neg hname.1, if_neg hname.2, if_neg hshort]
      simp [hentry, hrest]
  | enter hname hshort hentry way ih =>
      rw [walk, if_neg hname.1, if_neg hname.2, if_neg hshort]
      simpa [hentry] using ih
  | loop hname hshort hentry hfollow =>
      rw [walk, if_neg hname.1, if_neg hname.2, if_neg hshort]
      simpa [hentry] using hfollow
  | link hname hshort hentry hfollow way ih =>
      rw [walk, if_neg hname.1, if_neg hname.2, if_neg hshort]
      simp only [hentry]
      rw [if_neg fun hkept => hkept.2 (hfollow hkept.1)]
      exact ih
  | last hname hshort hdirectory hlink =>
      rw [walk, if_neg hname.1, if_neg hname.2, if_neg hshort]
      dsimp only
      split
      next => rfl
      next hentry => exact absurd hentry hdirectory
      next => rfl
      next target hentry =>
        have hkept : follow = false := by simpa using fun hyes => hlink hyes target hentry
        simp [hkept]

end Way

variable {before after : Files} {key : FileKey}

/-- What is in a tree was in the other one. -/
def Remains (after before : Files) : Prop :=
  ∀ key, after.entry? key = none ∨ after.entry? key = before.entry? key

theorem Remains.trans {later : Files} (hlate : Remains later after)
    (hearly : Remains after before) : Remains later before := by
  intro key
  rcases hlate key with hnone | hsame
  · exact .inl hnone
  · rw [hsame]
    exact hearly key

/-! ### What is taken away -/

section

variable {other : FileKey}

/-- The root is always there. -/
@[simp] theorem entry?_root (files : Files) : files.entry? [] = some .directory := rfl

theorem entry?_of_ne_root {files : Files} (hroot : key ≠ []) :
    files.entry? key = files.entries.find? key := if_neg hroot

theorem entry?_prune_of_below (files : Files) (hbelow : key <+: other) (hroot : other ≠ []) :
    Files.entry? (files.prune key) other = none := by
  rw [entry?_of_ne_root hroot, prune, Keyed.find?_filter _ fun k => decide ¬ key.isPrefixOf k]
  simp [hbelow]

theorem entry?_prune_of_not_below (files : Files) (hapart : ¬ key <+: other) :
    Files.entry? (files.prune key) other = files.entry? other := by
  unfold entry?
  simp only [prune, Keyed.find?_filter _ fun k => decide ¬ key.isPrefixOf k]
  simp [hapart]

theorem entry?_pruneBelow_of_below (files : Files) (hbelow : key <+: other) (hother : key ≠ other) :
    Files.entry? (files.pruneBelow key) other = none := by
  have hroot : other ≠ [] := by
    rintro rfl
    exact hother (List.prefix_nil.mp hbelow)
  rw [entry?_of_ne_root hroot, pruneBelow,
    Keyed.find?_filter _ fun k => decide (k = key ∨ ¬ key.isPrefixOf k)]
  simp [hbelow, hother.symm]

theorem entry?_pruneBelow_of_not_below (files : Files) (hapart : key <+: other → key = other) :
    Files.entry? (files.pruneBelow key) other = files.entry? other := by
  have hkeep : other = key ∨ ¬ key <+: other :=
    (Classical.em (key <+: other)).imp_left fun hbelow => (hapart hbelow).symm
  unfold entry?
  simp only [pruneBelow, Keyed.find?_filter _ fun k => decide (k = key ∨ ¬ key.isPrefixOf k)]
  simp [hkeep]

end

theorem remains_prune (files : Files) (key : FileKey) : Remains (files.prune key) files := by
  intro other
  by_cases hbelow : key <+: other
  · by_cases hroot : other = []
    · subst hroot
      simp
    · exact .inl (entry?_prune_of_below files hbelow hroot)
  · exact .inr (entry?_prune_of_not_below files hbelow)

theorem remains_pruneBelow (files : Files) (key : FileKey) :
    Remains (files.pruneBelow key) files := by
  intro other
  by_cases hbelow : key <+: other → key = other
  · exact .inr (entry?_pruneBelow_of_not_below files hbelow)
  · obtain ⟨hunder, hother⟩ := Classical.not_imp.mp hbelow
    exact .inl (entry?_pruneBelow_of_below files hunder hother)

theorem entry?_prune_self (files : Files) (hkey : key ≠ []) :
    Files.entry? (files.prune key) key = none :=
  entry?_prune_of_below files (List.prefix_refl key) hkey

/-- The root and the directories that lead to an entry are all there. -/
def Reached (files : Files) (dir : FileKey) : Prop :=
  ∀ count, files.entry? (dir.take count) = some .directory

namespace Reached

variable {files : Files} {dir : FileKey}

theorem root (files : Files) : files.Reached [] := fun _ => by simp

theorem self (hreached : files.Reached dir) : files.entry? dir = some .directory := by
  simpa using hreached dir.length

theorem dropLast (hreached : files.Reached dir) : files.Reached dir.dropLast := by
  intro count
  rw [List.dropLast_eq_take, List.take_take]
  exact hreached _

theorem concat (hreached : files.Reached dir) {name : String}
    (hentry : files.entry? (dir ++ [name]) = some .directory) : files.Reached (dir ++ [name]) := by
  intro count
  rw [List.take_append]
  rcases Nat.lt_or_ge dir.length count with hlt | hge
  · rw [List.take_of_length_le (Nat.le_of_lt hlt), List.take_of_length_le (by simp; omega)]
    exact hentry
  · rw [Nat.sub_eq_zero_of_le hge, List.take_zero, List.append_nil]
    exact hreached count

end Reached

/-- Something on the way is missing, or what it leads to is. -/
def Nowhere (files : Files) (ending : Except IoFault FileKey) : Prop :=
  ending = .error .notFound ∨ ∃ key, ending = .ok key ∧ files.entry? key = none

namespace Way

variable {follow : Bool} {links : Nat} {dir : FileKey} {names : List String}
  {ending : Except IoFault FileKey}

/-- With fewer entries, a way ends where it did or leads to nothing. -/
theorem remains (hremains : Remains after before)
    (way : Way after follow links dir names ending) :
    Way before follow links dir names ending ∨ after.Nowhere ending := by
  -- An entry that is found on the way was there before.
  have hold : ∀ {key entry}, after.entry? key = some entry → before.entry? key = some entry := by
    intro key entry hentry
    rcases hremains key with hnone | hsame
    · simp [hentry] at hnone
    · rw [← hsame, hentry]
  induction way with
  | done => exact .inl .done
  | here _ ih => exact ih.imp_left .here
  | up _ ih => exact ih.imp_left .up
  | long hname hlong => exact .inl (.long hname hlong)
  | @last links dir name hname hshort hdirectory hlink =>
      rcases hremains (dir ++ [name]) with hnone | hsame
      · exact .inr (.inr ⟨_, rfl, hnone⟩)
      · exact .inl (.last hname hshort (hsame ▸ hdirectory) (hsame ▸ hlink))
  | missing => exact .inr (.inl rfl)
  | blocked hname hshort hentry hrest => exact .inl (.blocked hname hshort (hold hentry) hrest)
  | enter hname hshort hentry _ ih => exact ih.imp_left (.enter hname hshort (hold hentry))
  | loop hname hshort hentry hfollow => exact .inl (.loop hname hshort (hold hentry) hfollow)
  | link hname hshort hentry hfollow _ ih =>
      exact ih.imp_left (.link hname hshort (hold hentry) hfollow)

/-- A link at the end is all that it matters for whether links there are followed. -/
theorem followed {files : Files} (way : Way files false links dir names ending) :
    Way files true links dir names ending ∨
      ∃ key target, ending = .ok key ∧ files.entry? key = some (.link target) := by
  induction way with
  | done => exact .inl .done
  | here _ ih => exact ih.imp_left .here
  | up _ ih => exact ih.imp_left .up
  | long hname hlong => exact .inl (.long hname hlong)
  | @last links dir name hname hshort hdirectory _ =>
      by_cases hlink : ∃ target, files.entry? (dir ++ [name]) = some (.link target)
      · obtain ⟨target, hentry⟩ := hlink
        exact .inr ⟨_, target, rfl, hentry⟩
      · exact .inl (.last hname hshort hdirectory fun _ target hentry => hlink ⟨target, hentry⟩)
  | missing hname hshort hentry hrest => exact .inl (.missing hname hshort hentry hrest)
  | blocked hname hshort hentry hrest => exact .inl (.blocked hname hshort hentry hrest)
  | enter hname hshort hentry _ ih => exact ih.imp_left (.enter hname hshort hentry)
  | loop hname hshort hentry _ => exact .inl (.loop hname hshort hentry fun _ => rfl)
  | link hname hshort hentry _ _ ih => exact ih.imp_left (.link hname hshort hentry fun _ => rfl)

/-- What lies behind a way that leads to nothing cannot be found. -/
theorem append {files : Files} (way : Way files true links dir names ending)
    (hreached : files.Reached dir) (hnowhere : files.Nowhere ending) {more : List String}
    (hmore : more ≠ []) (follow : Bool) :
    Way files follow links dir (names ++ more) (.error .notFound) := by
  induction way with
  | @done links dir =>
      -- Whatever directory a way has come to is there.
      rcases hnowhere with hfault | ⟨key, hkey, hnone⟩
      · simp at hfault
      · obtain rfl := Except.ok.inj hkey
        simp [hreached.self] at hnone
  | here _ ih => exact .here (ih hreached hnowhere)
  | up _ ih => exact .up (ih hreached.dropLast hnowhere)
  | long => simp [Nowhere] at hnowhere
  | last hname hshort hdirectory hlink =>
      rcases hnowhere with hfault | ⟨key, hkey, hnone⟩
      · simp at hfault
      · obtain rfl := Except.ok.inj hkey
        exact .missing hname hshort hnone hmore
  | missing hname hshort hentry hrest =>
      exact .missing hname hshort hentry (List.append_ne_nil_of_right_ne_nil _ hmore)
  | blocked => simp [Nowhere] at hnowhere
  | enter hname hshort hentry _ ih =>
      exact .enter hname hshort hentry (ih (hreached.concat hentry) hnowhere)
  | loop => simp [Nowhere] at hnowhere
  | @link left dir name target rest ending hname hshort hentry hfollow way ih =>
      refine .link hname hshort hentry
        (fun hnil => absurd hnil (List.append_ne_nil_of_right_ne_nil _ hmore)) ?_
      refine List.append_assoc .. ▸ ih ?_ hnowhere
      split
      next => exact .root files
      next => exact hreached

/-- From a directory that a way leads to, it goes on by one name. -/
theorem concat {files : Files} {key : FileKey} {name : String} {stop : Except IoFault FileKey}
    (way : Way files true links dir names ending) (hending : ending = .ok key)
    (hdirectory : files.entry? key = some .directory)
    (hstep : ∀ left, Way files follow left key [name] stop) :
    Way files follow links dir (names ++ [name]) stop := by
  induction way with
  | done =>
      obtain rfl := Except.ok.inj hending
      exact hstep _
  | here _ ih => exact .here (ih hending)
  | up _ ih => exact .up (ih hending)
  | last _ _ hother _ =>
      obtain rfl := Except.ok.inj hending
      exact absurd hdirectory hother
  | enter hname hshort hfound _ ih => exact .enter hname hshort hfound (ih hending)
  | link hname hshort hfound _ _ ih =>
      refine .link hname hshort hfound (fun hnil => by simp at hnil) ?_
      exact List.append_assoc .. ▸ ih hending
  | long | missing | blocked | loop => simp at hending

/-- Behind a name that is not that of a followed link there is no root. -/
theorem ne_root {files : Files} {name : String} (hname : IsName name)
    (way : Way files false links dir names ending) (hlast : names.getLast? = some name) :
    ending ≠ .ok [] := by
  induction way with
  | done => simp at hlast
  | here _ ih =>
      rcases getLast?_cons_cases hlast with ⟨-, rfl⟩ | hlast
      · exact absurd rfl hname.1
      · exact ih hlast
  | up _ ih =>
      rcases getLast?_cons_cases hlast with ⟨-, rfl⟩ | hlast
      · exact absurd rfl hname.2
      · exact ih hlast
  | enter _ _ _ way ih =>
      rcases getLast?_cons_cases hlast with ⟨rfl, -⟩ | hlast
      · cases way
        simp
      · exact ih hlast
  | link _ _ _ hfollow _ ih =>
      rcases getLast?_cons_cases hlast with ⟨rfl, -⟩ | hlast
      · exact absurd (hfollow rfl) Bool.false_ne_true
      · exact ih (by rw [List.getLast?_append, hlast]; rfl)
  | long | last | missing | blocked | loop => simp

end Way

/-- The path leads to nothing, whether a link at its end is followed or not. -/
def Absent (files : Files) (path : String) : Prop :=
  ∀ follow, files.stat follow path = .error .notFound

section

variable {files : Files} {path : String} {parts : PathParts}

theorem stat_eq (hparts : PathParts.ofPath path = .ok parts) (follow : Bool) :
    files.stat follow path =
      match files.walk (follow || parts.trailing) maxLinks [] parts.parts with
      | .error fault => .error fault
      | .ok key =>
          match files.entry? key with
          | none => .error .notFound
          | some .directory => .ok (key, .directory)
          | some entry => if parts.trailing then .error .notADirectory else .ok (key, entry) := by
  simp only [stat, locate, hparts, bind, Except.bind]
  cases files.walk (follow || parts.trailing) maxLinks [] parts.parts with
  | error fault => rfl
  | ok key =>
      cases hentry : files.entry? key with
      | none => cases parts.trailing <;> simp [hentry]
      | some entry => cases entry <;> cases parts.trailing <;> simp [hentry]

theorem absent_of_nowhere (hparts : PathParts.ofPath path = .ok parts)
    (hnowhere : files.Nowhere (files.walk parts.trailing maxLinks [] parts.parts)) :
    files.Absent path := by
  intro follow
  have hwalk : files.Nowhere (files.walk (follow || parts.trailing) maxLinks [] parts.parts) := by
    cases htrailing : parts.trailing with
    | true => simpa [htrailing] using hnowhere
    | false =>
        cases follow with
        | false => simpa [htrailing] using hnowhere
        | true =>
            rw [htrailing] at hnowhere
            rcases (Way.of_walk files false maxLinks [] parts.parts).followed with
              hsame | ⟨key, target, hkey, hlink⟩
            · simpa [hsame.walk_eq] using hnowhere
            · simp [Nowhere, hkey, hlink] at hnowhere
  rw [stat_eq hparts]
  rcases hwalk with hfault | ⟨key, hkey, hnone⟩
  · rw [hfault]
  · rw [hkey]
    simp [hnone]

/-- What is not found at a path is absent. -/
theorem absent_of_stat (hstat : files.stat false path = .error .notFound) : files.Absent path := by
  cases hparts : PathParts.ofPath path with
  | error fault =>
      have hfault : fault = .notFound := by
        simpa [stat, locate, hparts, bind, Except.bind] using hstat
      intro follow
      simp [stat, locate, hparts, hfault, bind, Except.bind]
  | ok parts =>
      refine absent_of_nowhere hparts ?_
      rw [stat_eq hparts, Bool.false_or] at hstat
      split at hstat
      next fault hfault =>
        obtain rfl := Except.error.inj hstat
        exact .inl hfault
      next key hkey =>
        split at hstat
        next hnone => exact .inr ⟨key, hkey, hnone⟩
        next => simp at hstat
        next => split at hstat <;> simp at hstat

/-- What is found at a path is at the end of the walk along it. -/
theorem walk_of_stat {key : FileKey} {entry : FileEntry}
    (hstat : files.stat false path = .ok (key, entry)) :
    ∃ parts, PathParts.ofPath path = .ok parts ∧
      files.walk parts.trailing maxLinks [] parts.parts = .ok key ∧
      files.entry? key = some entry := by
  cases hparts : PathParts.ofPath path with
  | error fault => simp [stat, locate, hparts, bind, Except.bind] at hstat
  | ok parts =>
      rw [stat_eq hparts, Bool.false_or] at hstat
      refine ⟨parts, rfl, ?_⟩
      split at hstat
      next => simp at hstat
      next found hfound =>
        split at hstat
        next => simp at hstat
        next hentry =>
          obtain ⟨rfl, rfl⟩ := Prod.mk.inj (Except.ok.inj hstat)
          exact ⟨hfound, hentry⟩
        next hentry =>
          split at hstat
          next => simp at hstat
          next =>
            obtain ⟨rfl, rfl⟩ := Prod.mk.inj (Except.ok.inj hstat)
            exact ⟨hfound, hentry⟩

/-- A path whose entry was taken away leads to nothing. -/
theorem absent_of_remains {key : FileKey} (hremains : Remains after before)
    (hparts : PathParts.ofPath path = .ok parts)
    (hwalk : before.walk parts.trailing maxLinks [] parts.parts = .ok key)
    (hgone : after.entry? key = none) : after.Absent path := by
  refine absent_of_nowhere hparts ?_
  rcases (Way.of_walk after parts.trailing maxLinks [] parts.parts).remains hremains with
    hsame | hnowhere
  · exact .inr ⟨key, hsame.walk_eq ▸ hwalk, hgone⟩
  · exact hnowhere

/-- An emptied directory that cannot be found by its path any more is absent. -/
theorem absent_of_removeEmpty {key : FileKey} (hparts : PathParts.ofPath path = .ok parts)
    (hremove : files.removeEmpty key parts = .error .notFound) : files.Absent path := by
  refine absent_of_nowhere hparts ?_
  have hdirectory : files.directoryKey parts.parts.dropLast = .error .notFound := by
    unfold removeEmpty at hremove
    cases hparent : files.directoryKey parts.parts.dropLast with
    | error fault => simpa [hparent, bind, Except.bind] using hremove
    | ok parent =>
        simp only [hparent, bind, Except.bind] at hremove
        split at hremove
        next => simp at hremove
        next => simp at hremove
        next => simp at hremove
        next => split at hremove <;> simp at hremove
  have hnowhere : files.Nowhere (files.walk true maxLinks [] parts.parts.dropLast) := by
    unfold directoryKey at hdirectory
    cases hwalk : files.walk true maxLinks [] parts.parts.dropLast with
    | error fault => exact .inl (by simpa [hwalk, bind, Except.bind] using hdirectory)
    | ok key =>
        refine .inr ⟨key, rfl, ?_⟩
        simp only [hwalk, bind, Except.bind] at hdirectory
        split at hdirectory
        next => simp at hdirectory
        next => simp at hdirectory
        next hnone => exact hnone
  have hparent := Way.of_walk files true maxLinks [] parts.parts.dropLast
  rcases List.eq_nil_or_concat parts.parts with hnil | ⟨front, name, hconcat⟩
  · -- The root cannot be missing.
    rw [hnil] at hnowhere
    simp [Nowhere, walk, entry?] at hnowhere
  · rw [hconcat, List.concat_eq_append] at hparent hnowhere ⊢
    rw [List.dropLast_concat] at hparent hnowhere
    exact .inl (hparent.append (.root files) hnowhere (List.cons_ne_nil name []) _).walk_eq

/-- An emptied directory is removed by the name that its path ends with. -/
theorem removeEmpty_eq_ok {emptied removed : Files} {key : FileKey}
    (hremove : emptied.removeEmpty key parts = .ok removed) :
    removed = emptied.prune key ∧ ∃ parent name, parts.parts.getLast? = some name ∧ IsName name ∧
      (parts.trailing = true → parent ++ [name] = key) := by
  obtain ⟨parent, -, hremove⟩ := exists_of_bind_eq_ok hremove
  split at hremove
  next => simp at hremove
  next => simp at hremove
  next => simp at hremove
  next name hdot hup hlast =>
    split at hremove
    next => simp at hremove
    next hplace =>
      have hname : IsName name := ⟨fun hname => hdot (hname ▸ rfl), fun hname => hup (hname ▸ rfl)⟩
      exact ⟨(Except.ok.inj hremove).symm, parent, name, hlast, hname, fun htrailing =>
        Decidable.not_not.mp fun hne => hplace ⟨htrailing, hne⟩⟩

/-- The place of a directory that is removed by its path is not the root. -/
theorem ne_root_of_removeEmpty {emptied removed : Files} {key : FileKey}
    (hwalk : files.walk parts.trailing maxLinks [] parts.parts = .ok key)
    (hremove : emptied.removeEmpty key parts = .ok removed) : key ≠ [] := by
  obtain ⟨-, parent, name, hlast, hname, hplace⟩ := removeEmpty_eq_ok hremove
  cases htrailing : parts.trailing with
  | true => simp [← hplace htrailing]
  | false =>
      rw [htrailing] at hwalk
      rintro rfl
      exact (Way.of_walk files false maxLinks [] parts.parts).ne_root hname hlast hwalk

/-- What may become of a tree from which a directory is removed. -/
inductive Clears (files : Files) (path : String) : Files → Except IoFault Unit → Prop where
  | unfound {fault : IoFault} (hstat : files.stat false path = .error fault) :
      Clears files path files (.error fault)
  | file {key : FileKey} {text : String} (hstat : files.stat false path = .ok (key, .file text)) :
      Clears files path files (.error .notADirectory)
  | link {key : FileKey} {target : String}
      (hstat : files.stat false path = .ok (key, .link target)) :
      Clears files path (files.prune key) (.ok ())
  | directory {key : FileKey} (hstat : files.stat false path = .ok (key, .directory)) :
      Clears files path ((files.pruneBelow key).prune key) (.ok ())
  /-- The contents of the directory are gone, and it is still there. -/
  | contents {key : FileKey} (hstat : files.stat false path = .ok (key, .directory))
      (fault : IoFault) : Clears files path (files.pruneBelow key) (.error fault)

theorem clears_removeTree (files : Files) (path : String) :
    files.Clears path (files.removeTree path).1 (files.removeTree path).2 := by
  unfold removeTree
  split
  next hstat => exact .unfound hstat
  next hstat => exact .link hstat
  next hstat => exact .file hstat
  next key hstat =>
    obtain ⟨parts, hparts, -⟩ := walk_of_stat hstat
    simp only [hparts, Except.bind]
    split
    next hremove =>
      obtain ⟨rfl, -⟩ := removeEmpty_eq_ok hremove
      exact .directory hstat
    next fault _ => exact .contents hstat fault

/-- A tree that was removed, or found missing on the way, is absent. -/
theorem absent_removeTree {outcome : Except IoFault Unit}
    (hremoved : before.removeTree path = (after, outcome))
    (houtcome : outcome = .ok () ∨ outcome = .error .notFound) : after.Absent path := by
  unfold removeTree at hremoved
  split at hremoved
  next fault hstat =>
    obtain ⟨rfl, rfl⟩ := Prod.mk.inj hremoved
    rcases houtcome with hok | hfault
    · simp at hok
    · exact absent_of_stat (Except.error.inj hfault ▸ hstat)
  next key target hstat =>
    obtain ⟨rfl, rfl⟩ := Prod.mk.inj hremoved
    obtain ⟨parts, hparts, hwalk, hentry⟩ := walk_of_stat hstat
    have hkey : key ≠ [] := by
      rintro rfl
      simp at hentry
    exact absent_of_remains (remains_prune _ _) hparts hwalk (entry?_prune_self _ hkey)
  next =>
    obtain ⟨-, rfl⟩ := Prod.mk.inj hremoved
    simp at houtcome
  next key hstat =>
    obtain ⟨parts, hparts, hwalk, -⟩ := walk_of_stat hstat
    simp only [hparts, Except.bind] at hremoved
    split at hremoved
    next removed hremove =>
      obtain ⟨rfl, rfl⟩ := Prod.mk.inj hremoved
      have hkey := ne_root_of_removeEmpty hwalk hremove
      obtain ⟨rfl, -⟩ := removeEmpty_eq_ok hremove
      exact absent_of_remains (Remains.trans (remains_prune _ _) (remains_pruneBelow _ _)) hparts
        hwalk (entry?_prune_self _ hkey)
    next fault hremove =>
      obtain ⟨rfl, rfl⟩ := Prod.mk.inj hremoved
      rcases houtcome with hok | hfault
      · simp at hok
      · exact absent_of_removeEmpty hparts (Except.error.inj hfault ▸ hremove)

/-- That a missing directory is no failure makes no difference to the tree. -/
theorem clears_removeDirectory (files : Files) (path : String) :
    files.Clears path (files.removeDirectory path).1 (files.removeTree path).2 := by
  have hclears := files.clears_removeTree path
  unfold removeDirectory
  split
  next hremoved => exact hremoved ▸ hclears
  next hremoved => exact hremoved ▸ hclears
  next hremoved => exact hremoved ▸ hclears

/-- A directory whose removal succeeds does not exist afterwards. -/
theorem absent_removeDirectory (hremoved : (before.removeDirectory path).2 = .ok ()) :
    (before.removeDirectory path).1.Absent path := by
  unfold removeDirectory at hremoved ⊢
  split at hremoved
  next htree => exact absent_removeTree htree (.inl rfl)
  next htree => exact absent_removeTree htree (.inr rfl)
  next => simp at hremoved

/-- There is nothing to remove where a path leads to nothing. -/
theorem removeDirectory_of_absent (habsent : before.Absent path) :
    before.removeDirectory path = (before, .ok ()) := by
  simp only [removeDirectory, removeTree, habsent false]

end

end Files

end FleetControl
