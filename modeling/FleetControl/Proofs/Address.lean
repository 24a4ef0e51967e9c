import FleetControl.Address
import FleetControl.Tls
import Mathlib.Data.List.TakeWhile

/-!
# Schemes, host parts and host names

The first scheme mark of an endpoint is found wherever it is, and it splits the endpoint in one way
only. So its host part and its host name, which are cut out of it, can be told by what stands around
them. Once the host part is taken, there is nothing more to take away.

The scheme of a URL can be read off whatever its host is. Its host part ends at the first slash
behind the scheme, so it is the host with its port only where the host has no slash in it; otherwise
the port is cut off with the rest of the host.
-/

namespace FleetControl

open FleetControl.Number

theorem Number.decimal_injective : Function.Injective decimal := by
  intro m n hmn
  have hdigits : Nat.toDigits 10 m = Nat.toDigits 10 n := String.ofList_injective hmn
  have hread : ∀ k, Nat.ofDigitChars 10 (Nat.toDigits 10 k) 0 = k :=
    fun k => Nat.ofDigitChars_toDigits (by decide) (by decide)
  rw [← hread m, hdigits, hread]

theorem Number.not_mem_decimal {char : Char} (hdigit : char.isDigit = false) (n : Nat) :
    char ∉ (decimal n).toList := by
  rw [decimal, String.toList_ofList]
  intro hmem
  exact Bool.false_ne_true (hdigit.symm.trans
    (Nat.isDigit_of_mem_toDigits (by decide) (by decide) hmem))

theorem Number.slash_not_mem_decimal (n : Nat) : '/' ∉ (decimal n).toList :=
  not_mem_decimal (by decide) n

namespace Address

/-! ### The first scheme mark -/

section

variable {char : Char} {text front rest : List Char}

theorem afterScheme?_cons_of_not_begun (hbegun : ¬ schemeMark <+: char :: text) :
    afterScheme? (char :: text) = afterScheme? text := by
  rw [afterScheme?]
  rintro rest rfl rfl
  exact hbegun ⟨rest, rfl⟩

/-- A scheme mark is not begun before another one, as it has a colon only in front. -/
theorem not_prefix_of_first (hfirst : ¬ schemeMark <:+: char :: front) :
    ¬ schemeMark <+: char :: (front ++ schemeMark ++ rest) := by
  rintro ⟨tail, hmark⟩
  match front with
  | [] => simp [schemeMark] at hmark
  | [_] => simp [schemeMark] at hmark
  | second :: third :: more =>
      simp only [schemeMark, List.cons_append, List.nil_append, List.cons.injEq] at hmark
      obtain ⟨rfl, rfl, rfl, -⟩ := hmark
      exact hfirst ⟨[], more, rfl⟩

theorem afterScheme?_append (hfirst : ¬ schemeMark <:+: front) (rest : List Char) :
    afterScheme? (front ++ schemeMark ++ rest) = some rest := by
  induction front with
  | nil => rfl
  | cons char front ih =>
      rw [List.cons_append, List.cons_append,
        afterScheme?_cons_of_not_begun (not_prefix_of_first hfirst)]
      exact ih fun hmark => hfirst (List.infix_cons_iff.mpr (.inr hmark))

theorem afterScheme?_eq_none_iff : afterScheme? text = none ↔ ¬ schemeMark <:+: text := by
  induction text with
  | nil => simp [afterScheme?, schemeMark]
  | cons char text ih =>
      rw [List.infix_cons_iff, not_or]
      by_cases hbegun : schemeMark <+: char :: text
      · obtain ⟨rest, hrest⟩ := hbegun
        simp [← hrest, schemeMark, afterScheme?]
      · rw [afterScheme?_cons_of_not_begun hbegun, ih]
        exact (and_iff_right hbegun).symm

/-- A text without a slash has no scheme mark. -/
theorem not_mark_of_no_slash (hslash : '/' ∉ text) : ¬ schemeMark <:+: text :=
  fun hmark => hslash (hmark.subset (by simp [schemeMark]))

theorem slash_not_mem_takeWhile (text : List Char) : '/' ∉ text.takeWhile (· ≠ '/') := by
  intro hmem
  simpa using List.mem_takeWhile_imp hmem

theorem takeWhile_of_no_slash (hslash : '/' ∉ text) : text.takeWhile (· ≠ '/') = text := by
  rw [List.takeWhile_eq_self_iff]
  exact fun char hchar => decide_eq_true (ne_of_mem_of_not_mem hchar hslash)

theorem takeWhile_append_slash (hslash : '/' ∉ text) (path : List Char) :
    (text ++ '/' :: path).takeWhile (· ≠ '/') = text := by
  rw [List.takeWhile_append_of_pos
    fun char hchar => decide_eq_true (ne_of_mem_of_not_mem hchar hslash)]
  simp

end

/-! ### Host parts -/

theorem hostChars_of_mark {front : List Char} (hfirst : ¬ schemeMark <:+: front)
    (rest : List Char) :
    hostChars (front ++ schemeMark ++ rest) = rest.takeWhile (· ≠ '/') := by
  rw [hostChars, afterScheme?_append hfirst]

theorem hostChars_of_no_mark {endpoint : List Char} (hnone : ¬ schemeMark <:+: endpoint) :
    hostChars endpoint = endpoint := by
  rw [hostChars, afterScheme?_eq_none_iff.mpr hnone]

/-- What is cut out between a scheme mark and a slash has no slash, and so no scheme mark either. -/
theorem not_mark_hostChars (endpoint : List Char) : ¬ schemeMark <:+: hostChars endpoint := by
  cases hscheme : afterScheme? endpoint with
  | none =>
      have hnone := afterScheme?_eq_none_iff.mp hscheme
      rwa [hostChars_of_no_mark hnone]
  | some rest =>
      have hhost : hostChars endpoint = rest.takeWhile (· ≠ '/') := by rw [hostChars, hscheme]
      rw [hhost]
      exact not_mark_of_no_slash (slash_not_mem_takeWhile rest)

theorem hostChars_hostChars (endpoint : List Char) :
    hostChars (hostChars endpoint) = hostChars endpoint :=
  hostChars_of_no_mark (not_mark_hostChars endpoint)

theorem not_mark_hostOf (endpoint : String) : ¬ schemeMark <:+: (hostOf endpoint).toList := by
  rw [hostOf, String.toList_ofList]
  exact not_mark_hostChars endpoint.toList

/-- Whoever looks up a host part finds what is filed under it. -/
theorem hostOf_hostOf (endpoint : String) : hostOf (hostOf endpoint) = hostOf endpoint := by
  rw [hostOf, hostOf, String.toList_ofList, hostChars_hostChars]

/-- A text is the host part of an endpoint: it stands between the first scheme mark and the next
slash or the end, or it is the whole of an endpoint without a scheme mark. -/
inductive HostPart : List Char → List Char → Prop
  | beforePath {front host : List Char} (hfirst : ¬ schemeMark <:+: front) (hslash : '/' ∉ host)
      (path : List Char) : HostPart (front ++ schemeMark ++ (host ++ '/' :: path)) host
  | last {front host : List Char} (hfirst : ¬ schemeMark <:+: front) (hslash : '/' ∉ host) :
      HostPart (front ++ schemeMark ++ host) host
  | whole {endpoint : List Char} (hnone : ¬ schemeMark <:+: endpoint) : HostPart endpoint endpoint

theorem exists_eq_append_of_mark {endpoint : List Char} (hmark : schemeMark <:+: endpoint) :
    ∃ front rest, ¬ schemeMark <:+: front ∧ endpoint = front ++ schemeMark ++ rest := by
  induction endpoint with
  | nil => simp [schemeMark] at hmark
  | cons char endpoint ih =>
      by_cases hbegun : schemeMark <+: char :: endpoint
      · obtain ⟨rest, hrest⟩ := hbegun
        exact ⟨[], rest, by simp [schemeMark], hrest.symm⟩
      · obtain ⟨front, rest, hfirst, rfl⟩ := ih ((List.infix_cons_iff.mp hmark).resolve_left hbegun)
        refine ⟨char :: front, rest, fun hearly => ?_, rfl⟩
        -- The mark would begin with the first character, and then it would be the first one.
        have hstart := (List.infix_cons_iff.mp hearly).resolve_right hfirst
        exact hbegun (hstart.trans ⟨schemeMark ++ rest, by simp⟩)

theorem hostPart_iff {endpoint host : List Char} :
    HostPart endpoint host ↔ hostChars endpoint = host := by
  constructor
  · intro hhost
    cases hhost with
    | beforePath hfirst hslash path =>
        rw [hostChars_of_mark hfirst, takeWhile_append_slash hslash]
    | last hfirst hslash => rw [hostChars_of_mark hfirst, takeWhile_of_no_slash hslash]
    | whole hnone => exact hostChars_of_no_mark hnone
  · rintro rfl
    by_cases hmark : schemeMark <:+: endpoint
    · obtain ⟨front, rest, hfirst, rfl⟩ := exists_eq_append_of_mark hmark
      rw [hostChars_of_mark hfirst]
      by_cases hslash : '/' ∈ rest
      · obtain ⟨host, path, rfl, hhost⟩ := List.eq_append_cons_of_mem hslash
        rw [takeWhile_append_slash hhost]
        exact .beforePath hfirst hhost path
      · rw [takeWhile_of_no_slash hslash]
        exact .last hfirst hslash
    · rw [hostChars_of_no_mark hmark]
      exact .whole hmark

section

variable {scheme rest : String}

theorem not_mark_of_scheme (hscheme : scheme = "http" ∨ scheme = "https") :
    ¬ schemeMark <:+: scheme.toList := by
  apply not_mark_of_no_slash
  rcases hscheme with rfl | rfl <;> simp

theorem hostOf_of_scheme (hscheme : ¬ schemeMark <:+: scheme.toList) (rest : String) :
    hostOf (scheme ++ "://" ++ rest) = String.ofList (rest.toList.takeWhile (· ≠ '/')) := by
  have hmark : (scheme ++ "://" ++ rest).toList = scheme.toList ++ schemeMark ++ rest.toList := by
    simp [schemeMark]
  rw [hostOf, hmark, hostChars_of_mark hscheme]

theorem hostOf_of_no_scheme (hrest : ¬ schemeMark <:+: rest.toList) : hostOf rest = rest := by
  rw [hostOf, hostChars_of_no_mark hrest, String.ofList_toList]

/-- Only an endpoint without a scheme has a slash in its host part, and it is its own host part. -/
theorem hostOf_eq_iff_of_slash (hrest : ¬ schemeMark <:+: rest.toList) (hslash : '/' ∈ rest.toList)
    (endpoint : String) : hostOf endpoint = rest ↔ endpoint = rest := by
  constructor
  · intro hhost
    cases hafter : afterScheme? endpoint.toList with
    | none => rwa [hostOf_of_no_scheme (afterScheme?_eq_none_iff.mp hafter)] at hhost
    | some behind =>
        rw [← hhost, hostOf, String.toList_ofList, hostChars, hafter] at hslash
        exact absurd hslash (slash_not_mem_takeWhile behind)
  · rintro rfl
    exact hostOf_of_no_scheme hrest

end

/-! ### Host names -/

/-- A text is a host part without its port: it stands before the last colon, or it is the whole of a
host part without a colon. -/
inductive Portless : List Char → List Char → Prop
  | beforePort {port : List Char} (name : List Char) (hport : ':' ∉ port) :
      Portless (name ++ ':' :: port) name
  | whole {host : List Char} (hnone : ':' ∉ host) : Portless host host

theorem dropPortChars_append {port : List Char} (hport : ':' ∉ port) (name : List Char) :
    dropPortChars (name ++ ':' :: port) = name := by
  have hcut : (':' :: name.reverse).dropWhile (· ≠ ':') = ':' :: name.reverse := by simp
  have hdrop : ∀ char ∈ port.reverse, decide (char ≠ ':') = true := fun char hchar =>
    decide_eq_true (ne_of_mem_of_not_mem (List.mem_reverse.mp hchar) hport)
  rw [dropPortChars, if_pos (by simp), List.reverse_append, List.reverse_cons, List.append_assoc,
    List.dropWhile_append_of_pos hdrop, List.singleton_append, hcut, List.drop_one, List.tail_cons,
    List.reverse_reverse]

theorem portless_iff {host name : List Char} : Portless host name ↔ dropPortChars host = name := by
  constructor
  · intro hname
    cases hname with
    | beforePort name hport => exact dropPortChars_append hport name
    | whole hnone => exact if_neg hnone
  · rintro rfl
    by_cases hcolon : ':' ∈ host
    · -- The last colon is the first one from behind.
      obtain ⟨port, name, hsplit, hport⟩ := List.eq_append_cons_of_mem (List.mem_reverse.mpr hcolon)
      have hhost : host = name.reverse ++ ':' :: port.reverse := by
        rw [← List.reverse_reverse host, hsplit]
        simp
      have hbehind : ':' ∉ port.reverse := fun hmem => hport (List.mem_reverse.mp hmem)
      rw [hhost, dropPortChars_append hbehind]
      exact .beforePort _ hbehind
    · rw [dropPortChars, if_neg hcolon]
      exact .whole hcolon

/-- A text is the host name of a URL: its host part without the port. -/
def IsNameOf (url name : String) : Prop :=
  ∃ host, HostPart url.toList host ∧ Portless host name.toList

theorem isNameOf_iff {url name : String} : IsNameOf url name ↔ name = nameOf url := by
  simp only [IsNameOf, hostPart_iff, portless_iff, exists_eq_left', nameOf]
  rw [← String.toList_inj, String.toList_ofList, eq_comm]

/-! ### URLs -/

/-- The scheme of a URL: what stands before the first colon. -/
def schemeOf (url : String) : String := String.ofList (url.toList.takeWhile (· ≠ ':'))

theorem schemeOf_url (mode : TlsMode) (host : String) (port : Nat) :
    schemeOf (url mode.scheme host port) = mode.scheme := by
  cases mode <;> simp [schemeOf, url, TlsMode.scheme]

section

variable (mode : TlsMode) {host : String} (port : Nat)

/-- Behind the scheme of a URL the first slash ends the host part. -/
theorem hostOf_url_eq (host : String) :
    hostOf (url mode.scheme host port) =
      String.ofList ((host ++ ":" ++ decimal port).toList.takeWhile (· ≠ '/')) := by
  have hscheme : mode.scheme = "http" ∨ mode.scheme = "https" := by
    cases mode <;> simp [TlsMode.scheme]
  rw [← hostOf_of_scheme (not_mark_of_scheme hscheme), url]
  simp only [String.append_assoc]

theorem hostOf_url (hslash : '/' ∉ host.toList) :
    hostOf (url mode.scheme host port) = host ++ ":" ++ decimal port := by
  have hnone : '/' ∉ (host ++ ":" ++ decimal port).toList := by
    simp [hslash, slash_not_mem_decimal]
  rw [hostOf_url_eq, takeWhile_of_no_slash hnone, String.ofList_toList]

/-- The port is lost with what follows a slash in the host. -/
theorem hostOf_url_of_slash (hslash : '/' ∈ host.toList) :
    hostOf (url mode.scheme host port) = String.ofList (host.toList.takeWhile (· ≠ '/')) := by
  have hcut : (host.toList.takeWhile (· ≠ '/')).length ≠ host.toList.length := by
    intro hlength
    have hwhole := (List.takeWhile_prefix (· ≠ '/')).eq_of_length hlength
    rw [← hwhole] at hslash
    exact slash_not_mem_takeWhile _ hslash
  rw [hostOf_url_eq, String.append_assoc, String.toList_append, List.takeWhile_append, if_neg hcut]

end

end Address

end FleetControl
