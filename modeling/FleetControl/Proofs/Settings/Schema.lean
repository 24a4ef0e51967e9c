import FleetControl.Settings.Layer

/-!
# Layers that fit a schema

A schema says which keys lead to settings and of which kind each setting is. In a layer that fits
it every leaf is a value of a setting, and no table stands where a setting is. Laying such entries
over a layer gives every setting the value that they have for it, and keeps the others.
-/

namespace FleetControl

open FleetControl.Number FleetControl.Text

/-- What kind of value a setting has. -/
inductive SettingKind where
  | word (bits : Nat)
  | text
  | truth
deriving DecidableEq, Repr

/-- A layer can hold the value for a setting of the kind. -/
def SettingKind.admits : SettingKind → Scalar → Bool
  | .word bits, .int n => 0 ≤ n && n < wordCount bits && fitsSigned n
  | .text, .text _ => true
  | .truth, .bool _ => true
  | _, _ => false

/-- A tree of settings, by the names of their fields. -/
inductive Schema where
  | setting (kind : SettingKind)
  | record (fields : List (String × Schema))

namespace Schema

/-- What stands under a name; no setting where the name is unknown. -/
def child (schema : Schema) (name : String) : Schema :=
  match schema with
  | .setting _ => .record []
  | .record fields => (Keyed.find? fields name).getD (.record [])

/-- The kind of the setting at a path. -/
def kindAt? (schema : Schema) (path : List String) : Option SettingKind :=
  match path with
  | [] =>
      match schema with
      | .setting kind => some kind
      | .record _ => none
  | name :: path => (schema.child name).kindAt? path

@[simp] theorem kindAt?_setting_nil (kind : SettingKind) : (setting kind).kindAt? [] = some kind :=
  rfl

@[simp] theorem kindAt?_record_nil (fields : List (String × Schema)) :
    (record fields).kindAt? [] = none := rfl

theorem kindAt?_cons (schema : Schema) (name : String) (path : List String) :
    schema.kindAt? (name :: path) = (schema.child name).kindAt? path := rfl

@[simp] theorem kindAt?_unknown (path : List String) : (record []).kindAt? path = none := by
  induction path with
  | nil => rfl
  | cons name path ih => exact ih

/-- Nothing is below a setting. -/
theorem eq_nil_of_kindAt?_setting {own kind : SettingKind} {path : List String}
    (hkind : (setting own).kindAt? path = some kind) : path = [] := by
  cases path with
  | nil => rfl
  | cons name path => simp [kindAt?_cons, child] at hkind

end Schema

namespace Layer

/-- The scalar at the end of a path. -/
def scalarAt? (layer : Layer) (path : List String) : Option Scalar :=
  match path with
  | [] =>
      match layer with
      | .leaf _ value => some value
      | _ => none
  | name :: path => (layer.get? name).bind (·.scalarAt? path)

theorem scalarAt?_cons (layer : Layer) (name : String) (path : List String) :
    layer.scalarAt? (name :: path) = (layer.get? name).bind (·.scalarAt? path) := rfl

@[simp] theorem scalarAt?_empty (path : List String) : empty.scalarAt? path = none := by
  cases path <;> rfl

theorem eq_leaf_of_scalarAt? {layer : Layer} {value : Scalar}
    (hvalue : layer.scalarAt? [] = some value) : ∃ origin, layer = .leaf origin value := by
  cases layer with
  | leaf origin own => exact ⟨origin, by rw [← Option.some.inj hvalue]⟩
  | list | table => simp [scalarAt?] at hvalue

@[simp] theorem get?_setEntry_self (layer : Layer) (key : String) (entry : Layer) :
    (layer.setEntry key entry).get? key = some entry := by
  cases layer <;> simp [setEntry, get?, entries, Keyed.find?]

theorem get?_setEntry_of_ne (layer entry : Layer) {key other : String} (hne : key ≠ other) :
    (layer.setEntry key entry).get? other = layer.get? other := by
  cases layer <;> simp [setEntry, get?, entries, Keyed.find?, Keyed.find?_set_of_ne, hne]

@[simp] theorem scalarAt?_setEntry_nil (layer : Layer) (key : String) (entry : Layer) :
    (layer.setEntry key entry).scalarAt? [] = none := by
  cases layer <;> rfl

mutual

/-- Every leaf is the value of a setting, and no table stands where a setting is. -/
def fits : Layer → Schema → Bool
  | .leaf _ value, .setting kind => kind.admits value
  | .table _ entries, .record fields => entriesFit entries (.record fields)
  | _, _ => false

/-- The entries of a table fit the fields of a record. Keys count in lower case. -/
def entriesFit : List (String × Layer) → Schema → Bool
  | [], _ => true
  | (key, entry) :: rest, schema =>
      entry.fits (schema.child (lower key)) && entriesFit rest schema

end

mutual

/-- What a layer sets at a path. -/
def sets? : Layer → List String → Option Scalar
  | .leaf _ value, [] => some value
  | .table _ entries, path => entriesSet? entries path
  | _, _ => none

/-- What entries set at a path: the last one that sets it counts. -/
def entriesSet? : List (String × Layer) → List String → Option Scalar
  | [], _ => none
  | _ :: _, [] => none
  | (key, entry) :: rest, name :: path =>
      (entriesSet? rest (name :: path)).or
        (if lower key = name then entry.sets? path else none)

end

theorem lay_leaf (lower : Layer) (key : String) (origin : Option Origin) (value : Scalar) :
    lower.lay key (.leaf origin value) =
      lower.setEntry (Text.lower key) (.leaf origin value) := by
  simp only [lay]

mutual

/-- Laying an entry that fits gives a setting the value that the entry has for it, if any. -/
theorem scalarAt?_lay {schema : Schema} {lower : Layer} {key name : String} {path : List String}
    {kind : SettingKind} :
    ∀ {upper : Layer}, upper.fits (schema.child (Text.lower key)) = true →
      (schema.child name).kindAt? path = some kind →
      (lower.lay key upper).scalarAt? (name :: path) =
        (if Text.lower key = name then upper.sets? path else none).or
          (lower.scalarAt? (name :: path))
  | .leaf origin value, hfits, hkind => by
      -- Below the name of a setting there is none, so nothing is lost where the leaf stands.
      rw [lay_leaf, scalarAt?_cons, scalarAt?_cons]
      by_cases hname : Text.lower key = name
      · subst hname
        cases hchild : schema.child (Text.lower key) with
        | record fields =>
            rw [hchild] at hfits
            simp [fits] at hfits
        | setting own =>
            obtain rfl := Schema.eq_nil_of_kindAt?_setting (hchild ▸ hkind)
            rw [get?_setEntry_self, if_pos rfl]
            rfl
      · rw [get?_setEntry_of_ne _ _ hname, if_neg hname, Option.none_or]
  | .list origin items, hfits, hkind => by simp [fits] at hfits
  | .table origin changes, hfits, hkind => by
      rw [lay, scalarAt?_cons, scalarAt?_cons]
      by_cases hname : Text.lower key = name
      · subst hname
        cases hchild : schema.child (Text.lower key) with
        | setting own =>
            rw [hchild] at hfits
            simp [fits] at hfits
        | record fields =>
            rw [hchild] at hkind hfits
            have hchanges : entriesFit changes (.record fields) = true := by
              simpa [fits] using hfits
            rw [get?_setEntry_self, if_pos rfl, Option.bind_some,
              scalarAt?_layEntries hchanges hkind, sets?]
            cases lower.get? (Text.lower key) <;> simp
      · rw [get?_setEntry_of_ne _ _ hname, if_neg hname, Option.none_or]

/-- Laying entries that fit gives a setting the value that they have for it, if any. -/
theorem scalarAt?_layEntries {fields : List (String × Schema)} {path : List String}
    {kind : SettingKind} :
    ∀ {changes : List (String × Layer)} {lower : Layer},
      entriesFit changes (.record fields) = true →
      (Schema.record fields).kindAt? path = some kind →
      (layEntries lower changes).scalarAt? path =
        (entriesSet? changes path).or (lower.scalarAt? path)
  | [], lower, hfits, hkind => rfl
  | (key, entry) :: rest, lower, hfits, hkind => by
      cases path with
      | nil => simp at hkind
      | cons name path =>
          simp only [entriesFit, Bool.and_eq_true] at hfits
          rw [layEntries, scalarAt?_layEntries hfits.2 hkind, scalarAt?_lay hfits.1 hkind,
            entriesSet?, Option.or_assoc]

end

mutual

/-- What an entry that fits sets for a setting is of the setting's kind. -/
theorem admits_of_sets? {kind : SettingKind} {value : Scalar} :
    ∀ {upper : Layer} {schema : Schema} {path : List String}, upper.fits schema = true →
      schema.kindAt? path = some kind → upper.sets? path = some value → kind.admits value = true
  | .leaf origin own, .setting _, path, hfits, hkind, hsets => by
      obtain rfl := Schema.eq_nil_of_kindAt?_setting hkind
      rw [← Option.some.inj hkind, ← Option.some.inj hsets]
      exact hfits
  | .table origin changes, .record fields, path, hfits, hkind, hsets => by
      simp only [fits] at hfits
      simp only [sets?] at hsets
      exact admits_of_entriesSet? hfits hkind hsets
  | .leaf .., .record _, _, hfits, _, _ | .list .., _, _, hfits, _, _
  | .table .., .setting _, _, hfits, _, _ => by simp [fits] at hfits

theorem admits_of_entriesSet? {fields : List (String × Schema)} {kind : SettingKind}
    {value : Scalar} :
    ∀ {changes : List (String × Layer)} {path : List String},
      entriesFit changes (.record fields) = true →
      (Schema.record fields).kindAt? path = some kind →
      entriesSet? changes path = some value → kind.admits value = true
  | [], _, _, _, hsets => by simp [entriesSet?] at hsets
  | _ :: _, [], _, hkind, _ => by simp at hkind
  | (key, entry) :: rest, name :: path, hfits, hkind, hsets => by
      simp only [entriesFit, Bool.and_eq_true] at hfits
      rw [entriesSet?, Option.or_eq_some_iff] at hsets
      obtain hlater | ⟨-, hown⟩ := hsets
      · exact admits_of_entriesSet? hfits.2 hkind hlater
      · split at hown
        next hname => exact admits_of_sets? hfits.1 (hname ▸ hkind) hown
        next => simp at hown

end

/-! ### Keys that are paths -/

/-- The tables that the steps of a path lead through, around a layer. No setting is in a list. -/
def nested : List PathStep → Layer → Layer
  | [], layer => layer
  | .key name :: rest, layer => .table none [(name, nested rest layer)]
  | .index _ :: _, _ => .list none []

/-- A top-level entry as tables in each other. -/
def expanded (entry : String × Layer) : String × Layer :=
  ((pathOf entry.1).1, nested (pathOf entry.1).2 entry.2)

theorem steps_eq_keys_of_fits {steps : List PathStep} {layer : Layer} {schema : Schema}
    (hfits : (nested steps layer).fits schema = true) :
    ∀ step ∈ steps, ∃ name, step = .key name := by
  induction steps generalizing schema with
  | nil => simp
  | cons step rest ih =>
      cases step with
      | index position => simp [nested, fits] at hfits
      | key name =>
          cases schema with
          | setting kind => simp [nested, fits] at hfits
          | record fields =>
              simp only [nested, fits, entriesFit, Bool.and_true] at hfits
              intro other hmem
              rcases List.mem_cons.mp hmem with rfl | hmem
              · exact ⟨name, rfl⟩
              · exact ih hfits other hmem

/-- Where nothing stands that has the key, anything else might stand just as well. -/
theorem lay_of_no_entries {lower : Layer} (hlower : ∀ origin entries, lower ≠ .table origin entries)
    (key : String) (upper : Layer) : lower.lay key upper = empty.lay key upper := by
  cases lower with
  | leaf => cases upper <;> simp [lay, setEntry, empty, get?, entries, Keyed.set]
  | list => cases upper <;> simp [lay, setEntry, empty, get?, entries, Keyed.set]
  | table origin entries => exact absurd rfl (hlower origin entries)

/-- Following keys is laying the tables that they lead through. -/
theorem layAt_eq_lay {steps : List PathStep} (hkeys : ∀ step ∈ steps, ∃ name, step = .key name)
    (lower : Layer) (name : String) (upper : Layer) :
    layAt lower upper (.key name :: steps) = lower.lay name (nested steps upper) := by
  induction steps generalizing lower name with
  | nil =>
      cases lower with
      | table => rfl
      | leaf | list => exact (lay_of_no_entries (by simp) name upper).symm
  | cons step rest ih =>
      obtain ⟨next, rfl⟩ := hkeys step List.mem_cons_self
      simp only [layAt, ih fun step hmem => hkeys step (List.mem_cons_of_mem _ hmem), nested, lay,
        layEntries]
      -- A missing entry counts as an unset leaf on one side and as an empty table on the other.
      cases lower.get? (Text.lower name) with
      | some entry => rfl
      | none => rw [Option.getD_none, Option.getD_none, lay_of_no_entries (by simp [unset])]

theorem layTop_eq_lay {key : String} {upper : Layer} {schema : Schema}
    (hfits : (expanded (key, upper)).2.fits schema = true) (lower : Layer) :
    lower.layTop key upper = lower.lay (expanded (key, upper)).1 (expanded (key, upper)).2 := by
  have hkeys := steps_eq_keys_of_fits hfits
  unfold layTop expanded at *
  dsimp only at *
  split
  next name hpath => simp [hpath, nested]
  next hpath =>
    rw [hpath] at hkeys ⊢
    exact layAt_eq_lay hkeys lower _ upper

/-- A source whose entries fit is laid over a layer as the tables that its keys stand for. -/
theorem layAll_eq_layEntries {source : List (String × Layer)} {schema : Schema}
    (hfits : entriesFit (source.map expanded) schema = true) (lower : Layer) :
    lower.layAll source = layEntries lower (source.map expanded) := by
  induction source generalizing lower with
  | nil => rfl
  | cons entry rest ih =>
      simp only [List.map_cons, entriesFit, Bool.and_eq_true] at hfits
      rw [layAll, List.foldl_cons, ← layAll, ih hfits.2, List.map_cons, layEntries]
      exact congrArg (layEntries · _) (layTop_eq_lay hfits.1 lower)

/-- The entries of a source fit a schema. -/
def sourceFits (source : List (String × Layer)) (schema : Schema) : Bool :=
  entriesFit (source.map expanded) schema

/-- What a source sets at a path. -/
def sourceSets? (source : List (String × Layer)) (path : List String) : Option Scalar :=
  entriesSet? (source.map expanded) path

/-- A source that fits gives a setting the value that it sets, if any. -/
theorem scalarAt?_layAll {source : List (String × Layer)} {fields : List (String × Schema)}
    {path : List String} {kind : SettingKind} (hfits : sourceFits source (.record fields) = true)
    (hkind : (Schema.record fields).kindAt? path = some kind) (lower : Layer) :
    (lower.layAll source).scalarAt? path =
      (sourceSets? source path).or (lower.scalarAt? path) := by
  rw [layAll_eq_layEntries hfits, scalarAt?_layEntries hfits hkind]
  rfl

end Layer

end FleetControl
