import FleetControl.Files.Path

/-!
# Components of joined paths

A path that is appended to another adds its components behind those of the other, however the two
texts meet. So paths below one directory are told apart by what was appended.
-/

namespace FleetControl.Path

theorem splitSlashes_ne_nil (chars : List Char) : splitSlashes chars ≠ [] := by
  cases chars with
  | nil => simp [splitSlashes]
  | cons char rest =>
      unfold splitSlashes
      split
      next => simp
      next => split <;> simp

theorem splitSlashes_cons_of_ne {char : Char} (hchar : char ≠ '/') {rest : List Char}
    {first : List Char} {others : List (List Char)} (hrest : splitSlashes rest = first :: others) :
    splitSlashes (char :: rest) = (char :: first) :: others := by
  simp [splitSlashes, hrest, hchar]

theorem splitSlashes_slash (rest : List Char) :
    splitSlashes ('/' :: rest) = [] :: splitSlashes rest := by
  obtain ⟨first, others, hrest⟩ := List.exists_cons_of_ne_nil (splitSlashes_ne_nil rest)
  simp [splitSlashes, hrest]

/-- A slash ends a component. -/
theorem splitSlashes_append_slash (front rest : List Char) :
    splitSlashes (front ++ '/' :: rest) = splitSlashes front ++ splitSlashes rest := by
  induction front with
  | nil => exact splitSlashes_slash rest
  | cons char front ih =>
      by_cases hchar : char = '/'
      · subst hchar
        rw [List.cons_append, splitSlashes_slash, splitSlashes_slash, ih, List.cons_append]
      · obtain ⟨first, others, hfront⟩ := List.exists_cons_of_ne_nil (splitSlashes_ne_nil front)
        rw [hfront, List.cons_append] at ih
        rw [List.cons_append, splitSlashes_cons_of_ne hchar ih,
          splitSlashes_cons_of_ne hchar hfront, List.cons_append]

theorem splitSlashes_eq_singleton {chars : List Char} (hslash : '/' ∉ chars) :
    splitSlashes chars = [chars] := by
  induction chars with
  | nil => rfl
  | cons char rest ih =>
      obtain ⟨hchar, hrest⟩ := not_or.mp (mt List.mem_cons.mpr hslash)
      exact splitSlashes_cons_of_ne (Ne.symm hchar) (ih hrest)

/-- A name is its own only component. -/
theorem components_eq_singleton {name : String} (hslash : '/' ∉ name.toList) (hempty : name ≠ "")
    (hdot : name ≠ ".") : components name = [name] := by
  have hchars : name.toList ≠ [] ∧ name.toList ≠ ['.'] :=
    ⟨fun hnil => hempty (String.toList_inj.mp hnil), fun hone => hdot (String.toList_inj.mp hone)⟩
  rw [components, splitSlashes_eq_singleton hslash]
  simp [hchars]

theorem same_eq_false {a b : String} (hne : components a ≠ components b) : same a b = false := by
  simp [same, hne]

@[simp] theorem same_self (path : String) : same path path = true := by
  simp [same]

/-- Texts that are the same path are the same path as the same texts. -/
theorem same_congr {a b : String} (hsame : same a b = true) (c : String) : same a c = same b c := by
  simp only [same, Bool.and_eq_true, beq_iff_eq, decide_eq_true_eq] at hsame
  obtain ⟨⟨habsolute, hhere⟩, hcomponents⟩ := hsame
  simp only [same, habsolute, hhere, hcomponents]

theorem isAbsolute_eq_false {name : String} (hslash : '/' ∉ name.toList) :
    isAbsolute name = false := by
  unfold isAbsolute
  exact decide_eq_false fun hhead => hslash (List.mem_of_mem_head? (by rw [hhead]; rfl))

/-- What is appended to a path comes last among its parts, whichever of these are kept, unless the
empty ones are. -/
theorem filter_splitSlashes_join {keep : List Char → Bool} (hkeep : keep [] = false) (base : String)
    {part : String} (hpart : isAbsolute part = false) :
    (splitSlashes (join base part).toList).filter keep =
      (splitSlashes base.toList).filter keep ++ (splitSlashes part.toList).filter keep := by
  have hmark : ∀ front : List Char,
      (splitSlashes (front ++ '/' :: part.toList)).filter keep =
        (splitSlashes front).filter keep ++ (splitSlashes part.toList).filter keep := by
    intro front
    rw [splitSlashes_append_slash, List.filter_append]
  unfold join
  rw [if_neg (by simp [hpart])]
  split
  next hmeet =>
    rcases Bool.or_eq_true_iff.mp hmeet with hempty | hslash
    · obtain rfl : base = "" := String.isEmpty_iff.mp hempty
      simp [splitSlashes, hkeep]
    -- The slash that ends the first text is the one between the two.
    · obtain ⟨front, hfront⟩ := List.getLast?_eq_some_iff.mp (of_decide_eq_true hslash)
      have hbase : (splitSlashes base.toList).filter keep = (splitSlashes front).filter keep := by
        rw [hfront, splitSlashes_append_slash]
        simp [splitSlashes, hkeep]
      rw [String.toList_append, hbase, hfront, List.append_assoc]
      exact hmark front
  next =>
    rw [String.toList_append, String.toList_append, List.append_assoc]
    exact hmark base.toList

theorem components_join (base : String) {part : String} (hpart : isAbsolute part = false) :
    components (join base part) = components base ++ components part := by
  rw [components, filter_splitSlashes_join (by simp) base hpart, List.map_append]
  rfl

theorem components_join_name (base : String) {name : String} (hslash : '/' ∉ name.toList)
    (hempty : name ≠ "") (hdot : name ≠ ".") :
    components (join base name) = components base ++ [name] := by
  rw [components_join base (isAbsolute_eq_false hslash), components_eq_singleton hslash hempty hdot]

end FleetControl.Path
