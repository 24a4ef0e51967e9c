import FleetControl.Proofs.Engine.Material
import FleetControl.Proofs.Files.Growth

/-!
# What issued material leaves alone

A certificate is written under the name of its member and channel, and only an authority is written
as `ca.pem`. So whatever is issued spares the certificates of all authorities, and the one of the
remembered authority stays where it was put.
-/

namespace FleetControl.Engine

/-- The file that holds the certificate of a directory's authority. -/
def caPath (dir : String) : String := Path.join dir "ca.pem"

/-- No link is named like a file of issued material. -/
structure Plain (files : Files) : Prop where
  certificates : files.Unlinked ".pem"
  keys : files.Unlinked ".key"

/-- Nothing is taken out of the tree, the certificates of authorities stay as they are, and no link
gets a name of issued material. -/
structure Spares (before after : Files) : Prop where
  grows : Files.Grows before after
  plain : Plain after
  kept {key : FileKey} {text : String} (hending : Files.EndsIn key "ca.pem")
    (hentry : before.entry? key = some (.file text)) : after.entry? key = some (.file text)

theorem Spares.refl {files : Files} (hplain : Plain files) : Spares files files :=
  ⟨.refl files, hplain, fun _ hentry => hentry⟩

theorem Spares.trans {before after later : Files} (hearly : Spares before after)
    (hlate : Spares after later) : Spares before later :=
  ⟨hearly.grows.trans hlate.grows, hlate.plain,
    fun hending hentry => hlate.kept hending (hearly.kept hending hentry)⟩

/-! ### What one call writes -/

section

variable {files written : Files} {path text : String} {key : FileKey}

theorem Plain.of_links (hplain : Plain files)
    (hlinks : ∀ {key target}, written.entry? key = some (.link target) →
      files.entry? key = some (.link target)) : Plain written :=
  ⟨fun dir name target hname hentry => hplain.certificates dir name target hname (hlinks hentry),
    fun dir name target hname hentry => hplain.keys dir name target hname (hlinks hentry)⟩

theorem Plain.furnished (hplain : Plain files) (hfurnished : Files.Furnished files written) :
    Plain written := by
  refine hplain.of_links fun {key target} hentry => ?_
  rcases hfurnished key with hsame | ⟨-, hdirectory⟩
  · rw [← hsame, hentry]
  · simp [hdirectory] at hentry

theorem Plain.writeText (hplain : Plain files) (hwrite : files.writeText path text = .ok written) :
    Plain written := by
  obtain ⟨key, -, -, hstat, hothers⟩ := Files.writeText_eq_ok hwrite
  refine hplain.of_links fun {other target} hentry => ?_
  rw [← hothers other (by rintro rfl; simp [Files.entry?_of_stat hstat] at hentry), hentry]

/-- A file of issued material has the name that it was written under. -/
theorem Plain.endsIn (hplain : Plain files) {base stem ending : String}
    (hslash : '/' ∉ ending.toList) (hlong : 2 < ending.toList.length)
    (hmaterial : ".pem".toList <:+ ending.toList ∨ ".key".toList <:+ ending.toList)
    (hkey : files.fileKey (Path.join base (stem ++ ending)) = .ok key) :
    Files.EndsIn key ending := by
  obtain ⟨front, hfront, -⟩ := Path.exists_join_eq base (stem ++ ending)
  rw [hfront, ← String.append_assoc] at hkey
  refine Files.endsIn_of_fileKey hslash hlong ?_ hkey
  exact hmaterial.elim hplain.certificates.mono hplain.keys.mono

/-- A file whose name is not that of an authority's certificate spares these. -/
theorem spares_writeText (hplain : Plain files) {base stem ending : String}
    (hslash : '/' ∉ ending.toList) (hlong : 2 < ending.toList.length)
    (hmaterial : ".pem".toList <:+ ending.toList ∨ ".key".toList <:+ ending.toList)
    (hother : ¬ ending.toList <:+ "ca.pem".toList ∧ ¬ "ca.pem".toList <:+ ending.toList)
    (hwrite : files.writeText (Path.join base (stem ++ ending)) text = .ok written) :
    Spares files written ∧ ∃ key, Files.EndsIn key ending ∧
      written.stat true (Path.join base (stem ++ ending)) = .ok (key, .file text) ∧
      ∀ other, key ≠ other → written.entry? other = files.entry? other := by
  obtain ⟨key, hkey, hgrows, hstat, hothers⟩ := Files.writeText_eq_ok hwrite
  have hends := hplain.endsIn hslash hlong hmaterial hkey
  refine ⟨⟨hgrows, hplain.writeText hwrite, fun hca hentry => ?_⟩, key, hends, hstat, hothers⟩
  rw [hothers _ (hends.ne hca hother.1 hother.2), hentry]

end

section

variable {files written : Files} {authority : Authority} {channel : Channel} {name : String}
  {hosts : List String} {drawn : Nat} {info : TlsInfo}

/-- Material that is issued for a channel is a certificate that the authority has signed for the
given hosts. Its files are named after the channel, and no other ones are touched. -/
theorem Authority.spares_issue (hplain : Plain files)
    (hissue : authority.issue files (name ++ roleOf channel) hosts drawn = (written, .ok info)) :
    Spares files written ∧ info.trustedCaFile = caPath authority.dir ∧
      ∃ (certificate : Certificate) (key : FileKey), certificate.signer = authority.key ∧
        certificate.names = hosts.map SubjectName.ofHost ∧
        Files.EndsIn key (roleOf channel ++ ".pem") ∧
        written.stat true info.certFile = .ok (key, .file certificate.text) ∧
        ∀ other, ¬ Files.EndsIn other (roleOf channel ++ ".pem") →
          ¬ Files.EndsIn other (roleOf channel ++ ".key") →
          written.entry? other = files.entry? other := by
  obtain ⟨certificate, between, hsigner, hnames, hcertificate, hprivate, rfl⟩ :=
    Authority.issue_eq_ok hissue
  dsimp only at hcertificate hprivate ⊢
  rw [String.append_assoc] at hcertificate hprivate ⊢
  obtain ⟨hfirst, certKey, hcertKey, hstat, hothers⟩ := spares_writeText hplain
    (by cases channel <;> decide) (by cases channel <;> decide)
    (.inl (by cases channel <;> decide)) (by cases channel <;> decide) hcertificate
  obtain ⟨hsecond, keyKey, hkeyKey, -, hmore⟩ := spares_writeText hfirst.plain
    (by cases channel <;> decide) (by cases channel <;> decide)
    (.inr (by cases channel <;> decide)) (by cases channel <;> decide) hprivate
  refine ⟨hfirst.trans hsecond, rfl, certificate, certKey, hsigner, hnames, hcertKey, ?_,
    fun other hpem hkey => ?_⟩
  · have hdiffer : keyKey ≠ certKey :=
      hkeyKey.ne hcertKey (by cases channel <;> decide) (by cases channel <;> decide)
    exact hsecond.grows.stat_file hstat ((hmore _ hdiffer).trans (Files.entry?_of_stat hstat))
  · rw [hmore other (by rintro rfl; exact hkey hkeyKey),
      hothers other (by rintro rfl; exact hpem hcertKey)]

end

namespace Issuer

variable {files written made found : Files} {issuer after : Issuer} {authority : Authority}
  {name dir : String} {urls : List String} {mode resolved : TlsMode}
  {config canonical : MemberConfig} {info : TlsInfo}

theorem spares_resolve (channel : Channel) (hplain : Plain files)
    (hresolve : issuer.resolve files authority (name ++ roleOf channel) urls mode =
      (after, written, .ok resolved)) :
    Spares files written ∧ after.authority = issuer.authority ∧ issuer.drawn ≤ after.drawn ∧
      (∀ other, ¬ Files.EndsIn other (roleOf channel ++ ".pem") →
        ¬ Files.EndsIn other (roleOf channel ++ ".key") →
        written.entry? other = files.entry? other) ∧
      ∀ info, mode = .auto → resolved = .manual info →
        info.trustedCaFile = caPath authority.dir ∧
        ∃ (certificate : Certificate) (key : FileKey), certificate.signer = authority.key ∧
          certificate.names = (certifiedHosts urls).map SubjectName.ofHost ∧
          Files.EndsIn key (roleOf channel ++ ".pem") ∧
          written.stat true info.certFile = .ok (key, .file certificate.text) := by
  rcases resolve_cases hresolve with ⟨hother, rfl, rfl, rfl⟩ | ⟨hauto, rfl, info, rfl, hissue⟩
  · exact ⟨.refl hplain, rfl, Nat.le_refl _, fun _ _ _ => rfl, fun _ hauto => absurd hauto hother⟩
  · obtain ⟨hspares, hca, certificate, key, hsigner, hnames, hkey, hstat, hothers⟩ :=
      Authority.spares_issue hplain hissue
    refine ⟨hspares, rfl, Nat.le_succ _, hothers, fun other _ hinfo => ?_⟩
    obtain rfl := TlsMode.manual.inj hinfo
    exact ⟨hca, certificate, key, hsigner, hnames, hkey, hstat⟩

/-- The certificate of this material is signed by the authority, in whose directory it is. -/
def Certified (files : Files) (authority : Authority) (info : TlsInfo) : Prop :=
  info.trustedCaFile = caPath authority.dir ∧ ∃ certificate : Certificate,
    certificate.signer = authority.key ∧ files.readText info.certFile = .ok certificate.text

/-- The certificate of this material is signed by the authority, and it names just these hosts. -/
def CertifiedFor (files : Files) (authority : Authority) (info : TlsInfo) (hosts : List String) :
    Prop :=
  info.trustedCaFile = caPath authority.dir ∧ ∃ certificate : Certificate,
    certificate.signer = authority.key ∧ certificate.names = hosts.map SubjectName.ofHost ∧
    files.readText info.certFile = .ok certificate.text

theorem CertifiedFor.certified {hosts : List String}
    (hcertified : CertifiedFor files authority info hosts) : Certified files authority info := by
  obtain ⟨hca, certificate, hsigner, -, hread⟩ := hcertified
  exact ⟨hca, certificate, hsigner, hread⟩

/-- Once there is an authority, the channels that ask for material get it, each its own. -/
theorem spares_channels {half : Issuer} {drawn : Files} {clientTls peerTls : TlsMode}
    (hplain : Plain made)
    (hclient : issuer.resolve made authority (config.name ++ "-client") config.clientUrls
      config.clientTls = (half, drawn, .ok clientTls))
    (hpeer : half.resolve drawn authority (config.name ++ "-peer") config.peerUrls config.peerTls =
      (after, written, .ok peerTls)) :
    Spares made written ∧ after.authority = issuer.authority ∧ issuer.drawn ≤ after.drawn ∧
      ∀ channel info, config.modeOf channel = .auto →
        MemberConfig.modeOf { config with clientTls, peerTls } channel = .manual info →
        CertifiedFor written authority info (certifiedHosts (config.urlsOf channel)) := by
  obtain ⟨hfirst, hsame, hdrawn, -, hissued⟩ :=
    spares_resolve .client hplain hclient
  obtain ⟨hsecond, hsame', hdrawn', hothers, hissued'⟩ :=
    spares_resolve .peer hfirst.plain hpeer
  refine ⟨hfirst.trans hsecond, hsame'.trans hsame, Nat.le_trans hdrawn hdrawn', ?_⟩
  intro channel info hauto hinfo
  cases channel with
  | client =>
      obtain ⟨hca, certificate, key, hsigner, hnames, hkey, hstat⟩ := hissued info hauto hinfo
      have hkept : written.entry? key = some (.file certificate.text) := by
        rw [hothers key (fun hend => hkey.ne hend (by decide) (by decide) rfl)
          (fun hend => hkey.ne hend (by decide) (by decide) rfl), Files.entry?_of_stat hstat]
      exact ⟨hca, certificate, hsigner, hnames,
        Files.readText_of_stat (hsecond.grows.stat_file hstat hkept)⟩
  | peer =>
      obtain ⟨hca, certificate, key, hsigner, hnames, -, hstat⟩ := hissued' info hauto hinfo
      exact ⟨hca, certificate, hsigner, hnames, Files.readText_of_stat hstat⟩

end Issuer

/-! ### Where an authority's certificate stands -/

/-- The path leads to this place of an authority's certificate, and the text stands there. -/
structure Stands (files : Files) (path : String) (key : FileKey) (text : String) : Prop where
  stat : files.stat true path = .ok (key, .file text)
  ending : Files.EndsIn key "ca.pem"

namespace Stands

variable {before after : Files} {path text : String} {key : FileKey}

theorem entry_eq (stands : Stands before path key text) :
    before.entry? key = some (.file text) :=
  Files.entry?_of_stat stands.stat

theorem spares (stands : Stands before path key text) (hspares : Spares before after) :
    Stands after path key text :=
  ⟨hspares.grows.stat_file stands.stat (hspares.kept stands.ending stands.entry_eq), stands.ending⟩

/-- In a tree that has grown, the path leads to the same place. -/
theorem locate_eq (stands : Stands before path key text) (hgrows : Files.Grows before after) :
    after.locate true path = before.locate true path := by
  obtain ⟨new, hnew⟩ := hgrows.file stands.entry_eq
  rw [Files.locate_of_stat stands.stat, Files.locate_of_stat (hgrows.stat_file stands.stat hnew)]

end Stands

/-- The authority that the adapter remembers has its certificate where it left it, and was made
before whatever is made next. -/
def Remembers (issuer : Issuer) (files : Files) : Prop :=
  ∀ authority, issuer.authority = some authority → authority.key < issuer.drawn ∧
    ∃ key, Stands files authority.caFile key authority.certificate.text

theorem Remembers.spares {issuer after : Issuer} {files found : Files}
    (remembers : Remembers issuer files) (hsame : after.authority = issuer.authority)
    (hdrawn : issuer.drawn ≤ after.drawn) (hspares : Spares files found) :
    Remembers after found := by
  intro authority hauthority
  obtain ⟨hkey, key, hstands⟩ := remembers authority (hsame ▸ hauthority)
  exact ⟨Nat.lt_of_lt_of_le hkey hdrawn, key, hstands.spares hspares⟩

/-- An authority that is made has its certificate in place, and spares all others but the one that
stood there. -/
theorem Authority.stands_generate {files made : Files} {dir : String} {drawn : Nat}
    {authority : Authority} (hplain : Plain files)
    (hgenerate : Authority.generate files dir drawn = (made, .ok authority)) :
    authority = ⟨dir, drawn⟩ ∧ Files.Grows files made ∧ Plain made ∧ ∃ place,
      Stands made (caPath dir) place authority.certificate.text ∧
      ∀ key text, key ≠ place → files.entry? key = some (.file text) →
        made.entry? key = some (.file text) := by
  obtain ⟨rfl, furnished, hmade, hwrite⟩ := Authority.generate_eq_ok hgenerate
  have hfurnished := Files.Furnished.makeAll hmade
  obtain ⟨place, hplace, hgrows, hstat, hothers⟩ := Files.writeText_eq_ok hwrite
  have hready := hplain.furnished hfurnished
  have hplaced : furnished.fileKey (Path.join dir ("" ++ "ca.pem")) = .ok place := hplace
  refine ⟨rfl, hfurnished.grows.trans hgrows, hready.writeText hwrite, place,
    ⟨hstat, hready.endsIn (by decide) (by decide) (.inl (by decide)) hplaced⟩, ?_⟩
  intro key text hne hentry
  rw [hothers key hne.symm]
  exact hfurnished.entry?_eq hentry

end FleetControl.Engine
