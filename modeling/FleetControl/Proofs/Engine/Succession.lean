import FleetControl.Proofs.Engine.Authorities
import FleetControl.Proofs.Engine.Certificate
import FleetControl.Proofs.Engine.Issuance
import Mathlib.Data.List.Induction

/-!
# Authorities that are made again

The adapter remembers one authority. While all configurations are of one directory, it stays the
same, and every certificate is signed by the authority whose certificate the directory holds. A
configuration of another directory makes it forget. When it comes back to the first one, it makes a
new authority there, which writes its certificate over the old one: what was issued before is signed
by an authority that nobody is told to trust any more.
-/

namespace FleetControl.Engine

/-! ### A run of calls -/

/-- A call that succeeded: what it was given, what it returned, and the tree right after it. -/
structure Issuance where
  config : MemberConfig
  canonical : MemberConfig
  files : Files

/-- With this call the channel got this material. -/
def Issuance.Issued (call : Issuance) (channel : Channel) (info : TlsInfo) : Prop :=
  call.config.modeOf channel = .auto ∧ call.canonical.modeOf channel = .manual info

/-- An adapter comes through these calls, all of which succeed, from one state to another. In
between, others may do to the tree what spares the authorities. -/
inductive Run (first : Issuer) (start : Files) : List Issuance → Issuer → Files → Prop where
  | start : Run first start [] first start
  | call {calls : List Issuance} {before after : Issuer} {files found written : Files}
      {config canonical : MemberConfig} (earlier : Run first start calls before files)
      (hspares : Spares files found)
      (hcanonical : before.canonicalize found config = (after, written, .ok canonical)) :
      Run first start (calls ++ [⟨config, canonical, written⟩]) after written

/-- The directories for which these calls asked for material, in order. -/
def askedDirs (calls : List Issuance) : List String :=
  calls.filterMap fun call => if call.config.Settled then none else some (issuedDir call.config)

theorem askedDirs_append (calls more : List Issuance) :
    askedDirs (calls ++ more) = askedDirs calls ++ askedDirs more :=
  List.filterMap_append

/-- Somewhere in this order of directories comes one that is another than the one before it, and
whose authority has its certificate where this path leads. -/
def Supplanted (files : Files) (dirs : List String) (path : String) : Prop :=
  ∃ former dir, [former, dir] <:+: dirs ∧ Path.same former dir = false ∧
    files.locate true (caPath dir) = files.locate true path

/-- For every change of the directory in this order there is a certificate in place. -/
def Settles (files : Files) (dirs : List String) : Prop :=
  ∀ former dir, [former, dir] <:+: dirs → Path.same former dir = false →
    ∃ key text, Stands files (caPath dir) key text

theorem Settles.mono {files : Files} {dirs more : List String} (hsettles : Settles files more)
    (hpart : dirs <:+: more) : Settles files dirs :=
  fun former dir hpair => hsettles former dir (hpair.trans hpart)

theorem Settles.grows {before after : Files} {dirs : List String} (hsettles : Settles before dirs)
    (hgrows : Files.Grows before after) : Settles after dirs := by
  intro former dir hpair hother
  obtain ⟨key, text, hstands⟩ := hsettles former dir hpair hother
  obtain ⟨new, hnew⟩ := hgrows.file hstands.entry_eq
  exact ⟨key, new, hgrows.stat_file hstands.stat hnew, hstands.ending⟩

theorem supplanted_congr {before after : Files} {dirs : List String} {path text : String}
    {key : FileKey} (hsettles : Settles before dirs) (hstands : Stands before path key text)
    (hgrows : Files.Grows before after) :
    Supplanted after dirs path ↔ Supplanted before dirs path := by
  constructor <;> rintro ⟨former, dir, hpair, hother, hsame⟩ <;>
    refine ⟨former, dir, hpair, hother, ?_⟩ <;>
    obtain ⟨place, found, hplace⟩ := hsettles former dir hpair hother
  · rwa [hplace.locate_eq hgrows, hstands.locate_eq hgrows] at hsame
  · rwa [hplace.locate_eq hgrows, hstands.locate_eq hgrows]

/-- The pairs of neighbours in a list with one more element. -/
theorem pair_infix_concat_iff {α : Type} {xs : List α} {x a b : α} :
    [a, b] <:+: xs ++ [x] ↔ [a, b] <:+: xs ∨ xs.getLast? = some a ∧ b = x := by
  rw [List.infix_concat_iff, or_comm]
  refine or_congr_right ⟨?_, ?_⟩
  · rintro ⟨others, hothers⟩
    rw [List.append_cons] at hothers
    obtain ⟨rfl, hx⟩ := List.append_inj' hothers rfl
    exact ⟨List.getLast?_concat .., (List.cons.inj hx).1⟩
  · rintro ⟨hlast, rfl⟩
    obtain ⟨front, rfl⟩ := List.getLast?_eq_some_iff.mp hlast
    exact ⟨front, List.append_cons ..⟩

/-- One more directory supplants an authority only if it is another than the one before it. -/
theorem supplanted_concat_iff {files : Files} {dirs : List String} {dir path : String} :
    Supplanted files (dirs ++ [dir]) path ↔ Supplanted files dirs path ∨
      ∃ last, dirs.getLast? = some last ∧ Path.same last dir = false ∧
        files.locate true (caPath dir) = files.locate true path := by
  constructor
  · rintro ⟨former, next, hpair, hother, hplace⟩
    rcases pair_infix_concat_iff.mp hpair with hold | ⟨hlast, rfl⟩
    · exact .inl ⟨former, next, hold, hother, hplace⟩
    · exact .inr ⟨former, hlast, hother, hplace⟩
  · rintro (⟨former, next, hpair, hrest⟩ | ⟨last, hlast, hrest⟩)
    · exact ⟨former, next, pair_infix_concat_iff.mpr (.inl hpair), hrest⟩
    · exact ⟨last, dir, pair_infix_concat_iff.mpr (.inr ⟨hlast, rfl⟩), hrest⟩

/-- The adapter remembers the authority of the directory for which it was asked last. -/
structure Current (issuer : Issuer) (files : Files) (dirs : List String) : Prop where
  plain : Plain files
  remembers : Remembers issuer files
  known : ∀ authority, issuer.authority = some authority → authority.dir ∈ dirs
  last : ∀ dir, dirs.getLast? = some dir →
    ∃ authority, issuer.authority = some authority ∧ Path.same authority.dir dir = true
  settles : Settles files dirs

/-- A certificate with this signer was issued when the first of these directories was asked for. It
agrees with the authority that its path leads to, unless that one was supplanted since. -/
structure Vouched (issuer : Issuer) (files : Files) (dirs : List String) (path : String)
    (signer : Nat) : Prop where
  drawn : signer < issuer.drawn
  stands : ∃ (key : FileKey) (authority : Authority),
    Stands files path key authority.certificate.text ∧
      (authority.key = signer ↔ ¬ Supplanted files dirs path)

section

variable {issuer after : Issuer} {files made : Files} {dirs part : List String}
  {dir path : String} {signer : Nat} {authority : Authority}

theorem Current.spares (current : Current issuer files dirs)
    (hsame : after.authority = issuer.authority) (hdrawn : issuer.drawn ≤ after.drawn)
    (hspares : Spares files made) : Current after made dirs where
  plain := hspares.plain
  remembers := current.remembers.spares hsame hdrawn hspares
  known := hsame ▸ current.known
  last := hsame ▸ current.last
  settles := current.settles.grows hspares.grows

theorem Vouched.spares (vouched : Vouched issuer files dirs path signer)
    (hsettles : Settles files dirs) (hdrawn : issuer.drawn ≤ after.drawn)
    (hspares : Spares files made) : Vouched after made dirs path signer := by
  obtain ⟨key, authority, hstands, hagrees⟩ := vouched.stands
  refine ⟨Nat.lt_of_lt_of_le vouched.drawn hdrawn, key, authority, hstands.spares hspares, ?_⟩
  rw [hagrees, supplanted_congr hsettles hstands hspares.grows]

/-! While the directory stays the same, the authority does. -/

/-- The directory of the remembered authority is no other than the last one. -/
theorem Current.stays (current : Current issuer files dirs)
    (hauthority : issuer.authority = some authority) (hsame : Path.same authority.dir dir = true)
    {last : String} (hlast : dirs.getLast? = some last) : Path.same last dir = true := by
  obtain ⟨remembered, hremembered, hdirs⟩ := current.last last hlast
  obtain rfl := Option.some.inj (hauthority.symm.trans hremembered)
  rw [← Path.same_congr hdirs, hsame]

theorem Current.reuse (current : Current issuer files dirs)
    (hauthority : issuer.authority = some authority) (hsame : Path.same authority.dir dir = true) :
    Current issuer files (dirs ++ [dir]) := by
  refine ⟨current.plain, current.remembers, fun other hother => ?_, fun last hlast => ?_,
    fun former next hpair hother => ?_⟩
  · exact List.mem_append_left _ (current.known other hother)
  · rw [List.getLast?_concat] at hlast
    exact ⟨authority, hauthority, Option.some.inj hlast ▸ hsame⟩
  · rcases pair_infix_concat_iff.mp hpair with hold | ⟨hlast, rfl⟩
    · exact current.settles former next hold hother
    · simp [current.stays hauthority hsame hlast] at hother

theorem Vouched.reuse (vouched : Vouched issuer files part path signer)
    (current : Current issuer files dirs) (hpart : part.getLast? = dirs.getLast?)
    (hauthority : issuer.authority = some authority) (hsame : Path.same authority.dir dir = true) :
    Vouched issuer files (part ++ [dir]) path signer := by
  obtain ⟨key, standing, hstands, hagrees⟩ := vouched.stands
  refine ⟨vouched.drawn, key, standing, hstands, hagrees.trans (not_congr ?_)⟩
  refine supplanted_concat_iff.trans (or_iff_left ?_) |>.symm
  rintro ⟨last, hlast, hother, -⟩
  simp [current.stays hauthority hsame (hpart ▸ hlast)] at hother

/-! With another directory there is another authority. -/

/-- The remembered authority has not lost its certificate, so where a new one is made the directory
is another. -/
theorem Current.changes (current : Current issuer files dirs)
    (habsent : ∀ old, issuer.authority = some old → Path.same old.dir dir = true →
      old.isPresent files = false) {last : String} (hlast : dirs.getLast? = some last) :
    Path.same last dir = false := by
  obtain ⟨remembered, hremembered, hdirs⟩ := current.last last hlast
  obtain ⟨-, key, hstands⟩ := current.remembers remembered hremembered
  have hpresent : remembered.isPresent files = true := Files.isFile_of_stat hstands.stat
  rw [← Path.same_congr hdirs, Bool.eq_false_iff]
  intro hsame
  simp [habsent remembered hremembered hsame] at hpresent

theorem Current.generate (current : Current issuer files dirs)
    (hgenerate : Authority.generate files dir issuer.drawn = (made, .ok authority)) :
    Current ⟨some authority, issuer.drawn + 1⟩ made (dirs ++ [dir]) := by
  obtain ⟨rfl, hgrows, hplain, place, hplace, -⟩ :=
    Authority.stands_generate current.plain hgenerate
  refine ⟨hplain, fun authority hauthority => ?_, fun authority hauthority => ?_,
    fun last hlast => ?_, fun former next hpair hother => ?_⟩
  · obtain rfl := Option.some.inj hauthority
    exact ⟨Nat.lt_succ_self _, place, hplace⟩
  · obtain rfl := Option.some.inj hauthority
    exact List.mem_append_right _ List.mem_cons_self
  · rw [List.getLast?_concat] at hlast
    exact ⟨_, rfl, Option.some.inj hlast ▸ Path.same_self dir⟩
  · rcases pair_infix_concat_iff.mp hpair with hold | ⟨-, rfl⟩
    · exact current.settles.grows hgrows former next hold hother
    · exact ⟨place, _, hplace⟩

/-- A new authority supplants the one whose certificate stood in its place, and no other. -/
theorem Vouched.generate (vouched : Vouched issuer files part path signer) (hplain : Plain files)
    (hsettles : Settles files part)
    (hchanges : ∃ last, part.getLast? = some last ∧ Path.same last dir = false)
    (hgenerate : Authority.generate files dir issuer.drawn = (made, .ok authority)) :
    Vouched ⟨some authority, issuer.drawn + 1⟩ made (part ++ [dir]) path signer := by
  obtain ⟨rfl, hgrows, -, place, hplace, hothers⟩ := Authority.stands_generate hplain hgenerate
  obtain ⟨key, standing, hstands, hagrees⟩ := vouched.stands
  obtain ⟨last, hlast, hother⟩ := hchanges
  have hmade : made.locate true (caPath dir) = .ok place := Files.locate_of_stat hplace.stat
  have hlocate : made.locate true path = .ok key :=
    (hstands.locate_eq hgrows).trans (Files.locate_of_stat hstands.stat)
  refine ⟨Nat.lt_succ_of_lt vouched.drawn, ?_⟩
  by_cases hkey : key = place
  · subst hkey
    have hsupplanted : Supplanted made (part ++ [dir]) path :=
      supplanted_concat_iff.mpr (.inr ⟨last, hlast, hother, hmade.trans hlocate.symm⟩)
    exact ⟨key, _, ⟨hgrows.stat_file hstands.stat hplace.entry_eq, hstands.ending⟩,
      iff_of_false vouched.drawn.ne' (not_not_intro hsupplanted)⟩
  · have hkept := hothers key _ hkey hstands.entry_eq
    refine ⟨key, standing, ⟨hgrows.stat_file hstands.stat hkept, hstands.ending⟩,
      hagrees.trans (not_congr ?_)⟩
    rw [← supplanted_congr hsettles hstands hgrows, supplanted_concat_iff]
    refine (or_iff_left ?_).symm
    rintro ⟨-, -, -, hsame⟩
    rw [hmade, hlocate] at hsame
    exact hkey (Except.ok.inj hsame).symm

/-- What was vouched for before an authority is found or made is vouched for afterwards. -/
theorem Current.authorityOf {found : Issuer} (current : Current issuer files dirs)
    (hauthority : issuer.authorityOf files dir = (found, made, .ok authority)) :
    Current found made (dirs ++ [dir]) ∧ found.authority = some authority ∧
      Path.same authority.dir dir = true ∧
      ∀ part path signer, part ≠ [] → part <:+ dirs → Vouched issuer files part path signer →
        Vouched found made (part ++ [dir]) path signer := by
  have hends : ∀ part : List String, part ≠ [] → part <:+ dirs →
      ∃ last, part.getLast? = some last ∧ dirs.getLast? = some last := by
    rintro part hfilled ⟨front, rfl⟩
    obtain ⟨last, hlast⟩ : ∃ last, part.getLast? = some last := by
      rwa [← Option.isSome_iff_exists, List.getLast?_isSome]
    exact ⟨last, hlast, by rw [List.getLast?_append, hlast]; rfl⟩
  rcases Issuer.authorityOf_cases hauthority with
    ⟨hremembered, hsame, rfl, rfl⟩ | ⟨habsent, rfl, hgenerate⟩
  · refine ⟨current.reuse hremembered hsame, hremembered, hsame, ?_⟩
    intro part path signer hfilled hpart vouched
    obtain ⟨last, hlast, hdirs⟩ := hends part hfilled hpart
    exact vouched.reuse current (hlast.trans hdirs.symm) hremembered hsame
  · have hmade := Authority.stands_generate current.plain hgenerate
    refine ⟨current.generate hgenerate, rfl, hmade.1 ▸ Path.same_self dir, ?_⟩
    intro part path signer hfilled hpart vouched
    obtain ⟨last, hlast, hdirs⟩ := hends part hfilled hpart
    exact vouched.generate current.plain (current.settles.mono hpart.isInfix)
      ⟨last, hlast, current.changes habsent hdirs⟩ hgenerate

end

/-! ### What comes of all that was issued -/

section

variable {issuer after : Issuer} {files written : Files} {calls : List Issuance}

/-- All that was issued in these calls is vouched for, each from its own call on. -/
structure Accounted (calls : List Issuance) (issuer : Issuer) (files : Files) : Prop where
  current : Current issuer files (askedDirs calls)
  issued : ∀ earlier call later, calls = earlier ++ call :: later → ∀ channel info,
    call.Issued channel info → ∃ dir ∈ askedDirs (earlier ++ [call]), ∃ certificate : Certificate,
      Path.same dir (issuedDir call.config) = true ∧ info.trustedCaFile = caPath dir ∧
      call.files.readText info.certFile = .ok certificate.text ∧
      Vouched issuer files (askedDirs (call :: later)) info.trustedCaFile certificate.signer

/-- Directories are asked for in the order of the calls. -/
theorem askedDirs_suffix {earlier later : List Issuance} {call : Issuance}
    (hcalls : calls = earlier ++ call :: later) :
    askedDirs (call :: later) <:+ askedDirs calls := by
  rw [hcalls, askedDirs_append]
  exact List.suffix_append ..

/-- A call that issues something asks for its directory. -/
theorem Issuance.Issued.askedDirs_eq {call : Issuance} {channel : Channel} {info : TlsInfo}
    (hissued : call.Issued channel info) (later : List Issuance) :
    askedDirs (call :: later) = issuedDir call.config :: askedDirs later := by
  have hasks : ¬ call.config.Settled := fun hsettled => hsettled channel hissued.1
  simp [askedDirs, hasks]

theorem Accounted.spares {found : Files} (accounted : Accounted calls issuer files)
    (hspares : Spares files found) : Accounted calls issuer found where
  current := accounted.current.spares rfl (Nat.le_refl _) hspares
  issued earlier call later hcalls channel info hissued := by
    obtain ⟨dir, hknown, certificate, hsame, hca, hread, vouched⟩ :=
      accounted.issued earlier call later hcalls channel info hissued
    have hsettles := accounted.current.settles.mono (askedDirs_suffix hcalls).isInfix
    exact ⟨dir, hknown, certificate, hsame, hca, hread,
      vouched.spares hsettles (Nat.le_refl _) hspares⟩

/-- A list with one more element, taken apart at one of its elements. -/
theorem concat_eq_append_cons {α : Type} {xs front back : List α} {x y : α}
    (hsame : xs ++ [x] = front ++ y :: back) :
    (∃ rest, back = rest ++ [x] ∧ xs = front ++ y :: rest) ∨ back = [] ∧ y = x ∧ xs = front := by
  rcases List.eq_nil_or_concat back with rfl | ⟨rest, last, rfl⟩
  · obtain ⟨hfront, hlast⟩ := List.append_inj' hsame rfl
    exact .inr ⟨rfl, (List.cons.inj hlast).1.symm, hfront⟩
  · rw [List.concat_eq_append, ← List.cons_append, ← List.append_assoc] at hsame
    obtain ⟨hfront, hlast⟩ := List.append_inj' hsame rfl
    exact .inl ⟨rest, by rw [(List.cons.inj hlast).1, List.concat_eq_append], hfront⟩

theorem askedDirs_concat (calls : List Issuance) (config canonical : MemberConfig)
    (written : Files) : askedDirs (calls ++ [⟨config, canonical, written⟩]) =
      askedDirs calls ++ if config.Settled then [] else [issuedDir config] := by
  rw [askedDirs_append]
  by_cases hsettled : config.Settled <;> simp [askedDirs, hsettled]

/-- Where nothing is asked for, nothing changes. -/
theorem Accounted.settled (accounted : Accounted calls issuer files) {config : MemberConfig}
    (hsettled : config.Settled) :
    Accounted (calls ++ [⟨config, config, files⟩]) issuer files := by
  have hdirs : ∀ calls, askedDirs (calls ++ [⟨config, config, files⟩]) = askedDirs calls := by
    intro calls
    rw [askedDirs_concat, if_pos hsettled, List.append_nil]
  refine ⟨hdirs calls ▸ accounted.current, fun earlier call later hcalls channel info hissued => ?_⟩
  rcases concat_eq_append_cons hcalls with ⟨rest, rfl, hold⟩ | ⟨-, rfl, -⟩
  · rw [← List.cons_append, hdirs]
    exact accounted.issued earlier call rest hold channel info hissued
  · exact absurd hissued.1 (hsettled channel)

/-- What was issued before is vouched for as the authority is, and what is issued now is signed by
the authority that is there now. -/
theorem Accounted.asked {found : Issuer} {made : Files} {authority : Authority}
    {config canonical : MemberConfig} (accounted : Accounted calls issuer files)
    (hasks : ¬ config.Settled)
    (hauthority : issuer.authorityOf files (issuedDir config) = (found, made, .ok authority))
    (hspares : Spares made written) (hkept : after.authority = found.authority)
    (hdrawn : found.drawn ≤ after.drawn)
    (hcertified : ∀ channel info, config.modeOf channel = .auto →
      canonical.modeOf channel = .manual info → Issuer.Certified written authority info) :
    Accounted (calls ++ [⟨config, canonical, written⟩]) after written := by
  obtain ⟨current, hremembered, hsame, hvouched⟩ := accounted.current.authorityOf hauthority
  have hdirs : ∀ calls, askedDirs (calls ++ [⟨config, canonical, written⟩]) =
      askedDirs calls ++ [issuedDir config] := by
    intro calls
    rw [askedDirs_concat, if_neg hasks]
  refine ⟨hdirs calls ▸ current.spares hkept hdrawn hspares,
    fun earlier call later hcalls channel info hissued => ?_⟩
  rcases concat_eq_append_cons hcalls with ⟨rest, rfl, hold⟩ | ⟨rfl, rfl, rfl⟩
  · obtain ⟨dir, hknown, certificate, hdir, hca, hread, vouched⟩ :=
      accounted.issued earlier call rest hold channel info hissued
    have hpart := askedDirs_suffix hold
    have hfilled : askedDirs (call :: rest) ≠ [] := by simp [hissued.askedDirs_eq]
    have hsettles := current.settles.mono
      (List.suffix_append_self_iff.mpr hpart).isInfix
    refine ⟨dir, hknown, certificate, hdir, hca, hread, ?_⟩
    rw [← List.cons_append, hdirs]
    exact (hvouched _ _ _ hfilled hpart vouched).spares hsettles hdrawn hspares
  · obtain ⟨hca, certificate, hsigner, hread⟩ := hcertified channel info hissued.1 hissued.2
    obtain ⟨hkey, key, hstands⟩ := current.remembers authority hremembered
    refine ⟨authority.dir, hdirs calls ▸ current.known authority hremembered, certificate, hsame,
      hca, hread,
      hsigner ▸ Nat.lt_of_lt_of_le hkey hdrawn, key, authority, hca ▸ hstands.spares hspares, ?_⟩
    have hfirst : ¬ Supplanted written [issuedDir config] info.trustedCaFile := by
      rintro ⟨former, dir, hpair, -⟩
      simpa using hpair.length_le
    rw [hissued.askedDirs_eq, hsigner]
    exact iff_of_true rfl hfirst

theorem Accounted.call (accounted : Accounted calls issuer files) {config canonical : MemberConfig}
    (hcanonical : issuer.canonicalize files config = (after, written, .ok canonical)) :
    Accounted (calls ++ [⟨config, canonical, written⟩]) after written := by
  rcases Issuer.canonicalize_cases hcanonical with ⟨hsettled, rfl, rfl, rfl⟩ |
    ⟨hasks, found, made, authority, half, drawn, clientTls, peerTls, hauthority, hclient, hpeer,
      rfl⟩
  · exact accounted.settled hsettled
  · have hplain := (accounted.current.authorityOf hauthority).1.plain
    obtain ⟨hspares, hkept, hdrawn, hcertified⟩ := Issuer.spares_channels hplain hclient hpeer
    exact accounted.asked hasks hauthority hspares hkept hdrawn fun channel info hauto hinfo =>
      (hcertified channel info hauto hinfo).certified

/-- A new adapter has nothing to account for. -/
theorem Accounted.start (hplain : Plain files) (drawn : Nat) : Accounted [] { drawn } files where
  current :=
    { plain := hplain
      remembers := fun authority hauthority => by simp at hauthority
      known := fun authority hauthority => by simp at hauthority
      last := fun dir hlast => by simp [askedDirs] at hlast
      settles := fun former dir hpair => by simp [askedDirs] at hpair }
  issued earlier call later hcalls := by simp at hcalls

theorem Run.accounted {drawn : Nat} {start : Files} (hplain : Plain start)
    (run : Run { drawn } start calls issuer files) : Accounted calls issuer files := by
  induction run with
  | start => exact .start hplain drawn
  | call _ hspares hcanonical ih => exact (ih.spares hspares).call hcanonical

/-- The authority whose certificate stands where the path leads has signed the certificate. -/
def SignedAt (files : Files) (path : String) (certificate : Certificate) : Prop :=
  ∃ authority : Authority, files.readText path = .ok authority.certificate.text ∧
    certificate.signer = authority.key

theorem Vouched.signedAt_iff {dirs : List String} {path : String} {certificate : Certificate}
    (vouched : Vouched issuer files dirs path certificate.signer) :
    SignedAt files path certificate ↔ ¬ Supplanted files dirs path := by
  obtain ⟨key, standing, hstands, hagrees⟩ := vouched.stands
  have hread := Files.readText_of_stat hstands.stat
  rw [← hagrees]
  constructor
  · rintro ⟨authority, hauthority, hsigner⟩
    have htexts : standing.certificate.text = authority.certificate.text :=
      Except.ok.inj (hread.symm.trans hauthority)
    exact (Certificate.key_eq_of_text_eq htexts).trans hsigner.symm
  · intro hsigner
    exact ⟨standing, hread, hsigner.symm⟩

/-- What a call was asked for is in what it returned. -/
theorem Run.exists_issued {first : Issuer} {start : Files}
    (run : Run first start calls issuer files) {call : Issuance} (hmem : call ∈ calls) {channel : Channel}
    (hauto : call.config.modeOf channel = .auto) : ∃ info, call.Issued channel info := by
  induction run with
  | start => simp at hmem
  | call _ _ hcanonical ih =>
      rcases List.mem_append.mp hmem with hold | hnew
      · exact ih hold
      · obtain rfl := List.mem_singleton.mp hnew
        rcases Issuer.modeOf_of_canonicalize hcanonical channel with
          ⟨hother, -⟩ | ⟨-, info, hinfo⟩
        · exact absurd hauto hother
        · exact ⟨info, hauto, hinfo⟩

/-- Members can get their material in any order. -/
theorem exists_run {start : Files} (hplain : Plain start) (drawn : Nat)
    (configs : List MemberConfig)
    (hready : ∀ config ∈ configs, Issuer.Certifiable config ∧
      ∃ key, Files.Shelf start (issuedDir config) key) :
    ∃ calls issuer files, Run { drawn } start calls issuer files ∧
      calls.map (·.config) = configs ∧ Shelved issuer files ∧ KeepsShelves start files := by
  induction configs using List.reverseRecOn with
  | nil =>
      exact ⟨[], _, start, .start, rfl, fun authority hauthority => by simp at hauthority,
        .refl start⟩
  | append_singleton configs config ih =>
      obtain ⟨calls, before, files, run, hconfigs, hshelved, hkeeps⟩ :=
        ih fun config hmem => hready config (List.mem_append_left _ hmem)
      obtain ⟨fit, key, hshelf⟩ := hready config (by simp)
      obtain ⟨after, written, canonical, hcanonical, hshelved', hkeeps'⟩ :=
        Issuer.exists_canonicalize (hkeeps _ _ hshelf) hshelved fit
      have hspares := Spares.refl (run.accounted hplain).current.plain
      refine ⟨_, after, written, run.call hspares hcanonical, ?_, hshelved', hkeeps.trans hkeeps'⟩
      rw [List.map_append, hconfigs, List.map_singleton]

end

/-! ### Two fleets and one adapter -/

theorem plain_emptyHomes (homes : List String) : Plain (emptyHomes homes) := by
  constructor <;> intro dir name target _ hentry <;> rw [entry?_emptyHomes] at hentry <;>
    split at hentry <;> simp at hentry

/-- An adapter can be asked for a member of one fleet, one of another, and a second one of the
first. -/
theorem exists_alternating_run : ∃ first second third issuer files,
    Run {} (emptyHomes ["a", "b"]) [first, second, third] issuer files ∧
    first.config = securedMember "a" "member-0" ∧ second.config = securedMember "b" "member-0" ∧
    third.config = securedMember "a" "member-1" := by
  have hready : ∀ config ∈ [securedMember "a" "member-0", securedMember "b" "member-0",
      securedMember "a" "member-1"], Issuer.Certifiable config ∧
      ∃ key, Files.Shelf (emptyHomes ["a", "b"]) (issuedDir config) key := by
    have hdirs : issuedDir (securedMember "a" "member-0") = Path.join "a" issuedDirName ∧
        issuedDir (securedMember "b" "member-0") = Path.join "b" issuedDirName ∧
        issuedDir (securedMember "a" "member-1") = Path.join "a" issuedDirName := by decide
    intro config hmem
    simp only [List.mem_cons, List.not_mem_nil, or_false] at hmem
    rcases hmem with rfl | rfl | rfl
    · refine ⟨certifiable_securedMember _ (.inl rfl), ?_⟩
      exact ⟨_, hdirs.1 ▸ shelf_emptyHomes (by simp) (by decide)⟩
    · refine ⟨certifiable_securedMember _ (.inl rfl), ?_⟩
      exact ⟨_, hdirs.2.1 ▸ shelf_emptyHomes (by simp) (by decide)⟩
    · refine ⟨certifiable_securedMember _ (.inr rfl), ?_⟩
      exact ⟨_, hdirs.2.2 ▸ shelf_emptyHomes (by simp) (by decide)⟩
  obtain ⟨calls, issuer, files, run, hconfigs, -⟩ :=
    exists_run (plain_emptyHomes ["a", "b"]) 0 _ hready
  obtain ⟨first, rest, rfl, hfirst, hrest⟩ := List.map_eq_cons_iff.mp hconfigs
  obtain ⟨second, rest, rfl, hsecond, hrest⟩ := List.map_eq_cons_iff.mp hrest
  obtain ⟨third, rest, rfl, hthird, hrest⟩ := List.map_eq_cons_iff.mp hrest
  obtain rfl := List.map_eq_nil_iff.mp hrest
  exact ⟨first, second, third, issuer, files, run, hfirst, hsecond, hthird⟩

theorem askedDirs_alternating {first second third : Issuance}
    (hfirst : first.config = securedMember "a" "member-0")
    (hsecond : second.config = securedMember "b" "member-0")
    (hthird : third.config = securedMember "a" "member-1") :
    askedDirs [first] = ["a/auto-tls"] ∧ askedDirs [third] = ["a/auto-tls"] ∧
      askedDirs [first, second, third] = ["a/auto-tls", "b/auto-tls", "a/auto-tls"] := by
  simp only [askedDirs, List.filterMap_cons, List.filterMap_nil, hfirst, hsecond, hthird]
  decide

/-! ### Which certificates agree with their authority in the end -/

/-- Whatever an adapter was asked for, and whatever others did to the tree as long as they spared
the authorities: a certificate that it issued is signed by the authority whose certificate its
directory holds in the end, unless later calls went over to other directories and came back. -/
theorem issued_signed_unless_supplanted {drawn : Nat} {start : Files} (hplain : Plain start)
    (run : Run { drawn } start calls issuer files) :
    ∀ earlier call later, calls = earlier ++ call :: later → ∀ channel info,
      call.Issued channel info → ∃ dir ∈ askedDirs (earlier ++ [call]),
        ∃ certificate : Certificate, Path.same dir (issuedDir call.config) = true ∧
          info.trustedCaFile = caPath dir ∧
          call.files.readText info.certFile = .ok certificate.text ∧
          (SignedAt files (caPath dir) certificate ↔
            ¬ Supplanted files (askedDirs (call :: later)) (caPath dir)) := by
  intro earlier call later hcalls channel info hissued
  obtain ⟨dir, hknown, certificate, hsame, hca, hread, vouched⟩ :=
    (run.accounted hplain).issued earlier call later hcalls channel info hissued
  exact ⟨dir, hknown, certificate, hsame, hca, hread, hca ▸ vouched.signedAt_iff⟩

/-- With a second fleet in between, the first certificate is not signed by the authority whose
certificate its directory holds in the end; the last one is. -/
theorem alternating_calls_supplant :
    ∃ (first second third : Issuance) (issuer : Issuer) (files : Files) (info info' : TlsInfo)
      (certificate certificate' : Certificate), Plain (emptyHomes ["a", "b"]) ∧
      Run {} (emptyHomes ["a", "b"]) [first, second, third] issuer files ∧
      first.Issued .client info ∧ first.files.readText info.certFile = .ok certificate.text ∧
      ¬ SignedAt files (caPath "a/auto-tls") certificate ∧
      third.Issued .client info' ∧ third.files.readText info'.certFile = .ok certificate'.text ∧
      SignedAt files (caPath "a/auto-tls") certificate' := by
  obtain ⟨first, second, third, issuer, files, run, hfirst, hsecond, hthird⟩ :=
    exists_alternating_run
  have hplain := plain_emptyHomes ["a", "b"]
  obtain ⟨hone, hlast, hall⟩ := askedDirs_alternating hfirst hsecond hthird
  have hauto : first.config.modeOf .client = .auto := by
    rw [hfirst]
    rfl
  obtain ⟨info, hissued⟩ := run.exists_issued (by simp) hauto
  have hauto' : third.config.modeOf .client = .auto := by
    rw [hthird]
    rfl
  obtain ⟨info', hissued'⟩ := run.exists_issued (by simp) hauto'
  obtain ⟨dir, hdir, certificate, -, -, hread, hsigned⟩ :=
    issued_signed_unless_supplanted hplain run [] first [second, third] rfl .client info hissued
  obtain ⟨dir', hdir', certificate', hsame, -, hread', hsigned'⟩ :=
    issued_signed_unless_supplanted hplain run [first, second] third [] rfl .client info' hissued'
  obtain rfl : dir = "a/auto-tls" := List.mem_singleton.mp (hone ▸ hdir)
  obtain rfl : dir' = "a/auto-tls" := by
    have hother : Path.same "b/auto-tls" (issuedDir (securedMember "a" "member-1")) = false := by
      decide
    rw [List.cons_append, List.singleton_append, hall] at hdir'
    rw [hthird] at hsame
    simp only [List.mem_cons, List.not_mem_nil, or_false] at hdir'
    rcases hdir' with rfl | rfl | rfl
    · rfl
    · rw [hother] at hsame
      simp at hsame
    · rfl
  refine ⟨first, second, third, issuer, files, info, info', certificate, certificate', hplain, run,
    hissued, hread, ?_, hissued', hread', ?_⟩
  · rw [hsigned, hall, not_not]
    exact ⟨"b/auto-tls", "a/auto-tls", ⟨["a/auto-tls"], [], rfl⟩, by decide, rfl⟩
  · rw [hsigned', hlast]
    rintro ⟨former, dir, hpair, -⟩
    simpa using hpair.length_le

/-- With two fleets in turn, not every certificate that an adapter issues is signed by the authority
whose certificate is trusted with it. -/
theorem not_every_certificate_is_signed_at_its_directory :
    ¬ ∀ (drawn : Nat) (start : Files) (calls : List Issuance) (issuer : Issuer) (files : Files),
      Plain start → Run { drawn } start calls issuer files → ∀ call ∈ calls, ∀ channel info,
        call.Issued channel info → ∀ certificate : Certificate,
          call.files.readText info.certFile = .ok certificate.text →
          SignedAt files info.trustedCaFile certificate := by
  intro hall
  obtain ⟨first, second, third, issuer, files, run, hfirst, hsecond, hthird⟩ :=
    exists_alternating_run
  have hplain := plain_emptyHomes ["a", "b"]
  obtain ⟨hone, -, hdirs⟩ := askedDirs_alternating hfirst hsecond hthird
  have hauto : first.config.modeOf .client = .auto := by
    rw [hfirst]
    rfl
  obtain ⟨info, hissued⟩ := run.exists_issued (by simp) hauto
  obtain ⟨dir, hdir, certificate, -, hca, hread, vouched⟩ :=
    (run.accounted hplain).issued [] first [second, third] rfl .client info hissued
  obtain rfl : dir = "a/auto-tls" := List.mem_singleton.mp (hone ▸ hdir)
  have hsigned := hall 0 _ _ _ _ hplain run first (by simp) .client info hissued certificate hread
  rw [vouched.signedAt_iff, hdirs, hca] at hsigned
  exact hsigned ⟨"b/auto-tls", "a/auto-tls", ⟨["a/auto-tls"], [], rfl⟩, by decide, rfl⟩

end FleetControl.Engine
