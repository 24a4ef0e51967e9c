import FleetControl.Member.Config
import FleetControl.Network.EndpointIndex
import FleetControl.Proofs.Address
import Mathlib.Data.List.Induction

/-!
# What a lookup finds

An index made by any entries answers a lookup with the entry that was made last under the same host
part. Behind a scheme the host part ends at the first slash, without one nothing is cut off. So a
lookup is the same with and without a scheme as long as there is no slash in what follows; a path or
a trailing slash keeps the bare lookup from finding anything but an entry made with that very path.
-/

namespace FleetControl

open Address

namespace EndpointIndex

theorem find?_insert (index : EndpointIndex) (filed endpoint : String) (slot : Nat) :
    (index.insert filed slot).find? endpoint =
      if hostOf filed = hostOf endpoint then some slot else index.find? endpoint := by
  split
  next hsame => rw [find?, insert, hsame, Keyed.find?_set_self]
  next hother => exact Keyed.find?_set_of_ne index.hosts slot hother

/-- The index made by some entries, from the first to the last. -/
def ofInserts (inserts : List (String × Nat)) : EndpointIndex :=
  inserts.foldl (fun index entry => index.insert entry.1 entry.2) {}

variable {inserts : List (String × Nat)} {endpoint other : String}

theorem ofInserts_concat (inserts : List (String × Nat)) (entry : String × Nat) :
    ofInserts (inserts ++ [entry]) = (ofInserts inserts).insert entry.1 entry.2 := by
  rw [ofInserts, List.foldl_append]
  rfl

/-- The last of the entries with the host part of an endpoint. -/
theorem find?_ofInserts (inserts : List (String × Nat)) (endpoint : String) :
    (ofInserts inserts).find? endpoint =
      (inserts.reverse.find? fun entry => hostOf entry.1 = hostOf endpoint).map Prod.snd := by
  induction inserts using List.reverseRecOn with
  | nil => rfl
  | append_singleton inserts entry ih =>
      rw [ofInserts_concat, find?_insert, ih, List.reverse_concat, List.find?_cons]
      by_cases hsame : hostOf entry.1 = hostOf endpoint <;> simp [hsame]

/-- Two endpoints are looked up alike in every index if they have one host part, and only then: an
index that holds one of the two tells them apart. -/
theorem forall_find?_eq_iff :
    (∀ inserts, (ofInserts inserts).find? endpoint = (ofInserts inserts).find? other) ↔
      hostOf endpoint = hostOf other := by
  constructor
  · intro halike
    have hfound := halike [(endpoint, 0)]
    by_contra hapart
    simp [find?_ofInserts, hapart] at hfound
  · intro hsame inserts
    rw [find?, find?, hsame]

theorem find?_hostOf (index : EndpointIndex) (endpoint : String) :
    index.find? (hostOf endpoint) = index.find? endpoint := by
  rw [find?, find?, hostOf_hostOf]

/-- A host part has no scheme mark, so there is nothing more to cut off from it. In every index, the
client endpoints of a member are therefore looked up alike in full and reduced to their host parts,
each in its place. -/
theorem client_endpoints_are_looked_up_alike :
    (∀ endpoint, ¬ schemeMark <:+: (hostOf endpoint).toList ∧
      hostOf (hostOf endpoint) = hostOf endpoint) ∧
    ∀ (inserts : List (String × Nat)) (config : MemberConfig) (place : Nat),
      (config.clientEndpoints false)[place]?.map (ofInserts inserts).find? =
        (config.clientEndpoints true)[place]?.map (ofInserts inserts).find? := by
  refine ⟨fun endpoint => ⟨not_mark_hostOf endpoint, hostOf_hostOf endpoint⟩,
    fun inserts config place => ?_⟩
  have halike : (ofInserts inserts).find? ∘ hostOf = (ofInserts inserts).find? :=
    funext (find?_hostOf (ofInserts inserts))
  simp [MemberConfig.clientEndpoints, halike]

variable {scheme rest : String}

/-- A lookup with a scheme finds the last entry whose host part is what stands before the first
slash. It is the lookup without the scheme, whatever the index holds, exactly if there is no slash;
with one, the lookup without the scheme finds only what was filed under that very text. -/
theorem lookup_ignores_scheme_iff_no_slash (hscheme : scheme = "http" ∨ scheme = "https")
    (hrest : ¬ schemeMark <:+: rest.toList) :
    ((∀ inserts, (ofInserts inserts).find? (scheme ++ "://" ++ rest) =
        (ofInserts inserts).find? rest) ↔ '/' ∉ rest.toList) ∧
      ∀ inserts,
        (ofInserts inserts).find? (scheme ++ "://" ++ rest) =
          (inserts.reverse.find? fun entry =>
            hostOf entry.1 = String.ofList (rest.toList.takeWhile (· ≠ '/'))).map Prod.snd ∧
        ('/' ∈ rest.toList → (ofInserts inserts).find? rest =
          (inserts.reverse.find? fun entry => entry.1 = rest).map Prod.snd) := by
  have hwith := hostOf_of_scheme (not_mark_of_scheme hscheme) rest
  have hwithout := hostOf_of_no_scheme hrest
  refine ⟨?_, fun inserts => ⟨?_, fun hslash => ?_⟩⟩
  · rw [forall_find?_eq_iff, hwith, hwithout]
    constructor
    · intro hsame hslash
      rw [← hsame, String.toList_ofList] at hslash
      exact slash_not_mem_takeWhile _ hslash
    · intro hslash
      rw [takeWhile_of_no_slash hslash, String.ofList_toList]
  · rw [find?_ofInserts, hwith]
  · simp only [find?_ofInserts, hwithout, hostOf_eq_iff_of_slash hrest hslash]

theorem localhost_is_looked_up_alike :
    ¬ schemeMark <:+: "localhost:2380".toList ∧
      ∀ inserts, (ofInserts inserts).find? "https://localhost:2380" =
        (ofInserts inserts).find? "localhost:2380" := by
  have hslash : '/' ∉ "localhost:2380".toList := by simp
  have hrest := not_mark_of_no_slash hslash
  exact ⟨hrest, (lookup_ignores_scheme_iff_no_slash (.inr rfl) hrest).1.mpr hslash⟩

/-- A trailing slash is cut off behind a scheme only. -/
theorem not_every_lookup_ignores_scheme :
    ¬ ∀ (inserts : List (String × Nat)) (scheme rest : String),
      scheme = "http" ∨ scheme = "https" → ¬ schemeMark <:+: rest.toList →
      (ofInserts inserts).find? (scheme ++ "://" ++ rest) = (ofInserts inserts).find? rest := by
  intro halike
  have hrest : ¬ schemeMark <:+: "localhost:2380/".toList := by decide +kernel
  let inserts := [("http://localhost:2380", 0)]
  have hwith : (ofInserts inserts).find? ("http" ++ "://" ++ "localhost:2380/") = some 0 := by
    decide +kernel
  have hwithout : (ofInserts inserts).find? "localhost:2380/" = none := by decide +kernel
  have hfound := halike inserts "http" "localhost:2380/" (.inl rfl) hrest
  rw [hwith, hwithout] at hfound
  cases hfound

end EndpointIndex

end FleetControl
