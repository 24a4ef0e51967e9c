import FleetControl.Proofs.Engine.Material
import FleetControl.Proofs.Files.Writing

/-!
# Material that can be issued

A member gets its material if its directory of issued material is there and holds files at most, and
if a certificate can name its hosts. Afterwards the next member can get its own.
-/

namespace FleetControl.Engine

open Files

variable {files written : Files} {issuer : Issuer} {authority : Authority} {dir path text : String}
  {config : MemberConfig}

/-- Whatever directory was fit for files is so still. -/
def KeepsShelves (before after : Files) : Prop :=
  ∀ path key, Shelf before path key → Shelf after path key

theorem KeepsShelves.refl (files : Files) : KeepsShelves files files := fun _ _ shelf => shelf

theorem KeepsShelves.trans {before after later : Files} (hearly : KeepsShelves before after)
    (hlate : KeepsShelves after later) : KeepsShelves before later :=
  fun path key shelf => hlate path key (hearly path key shelf)

/-- The adapter remembers no authority whose directory is unfit for files. -/
def Shelved (issuer : Issuer) (files : Files) : Prop :=
  ∀ authority, issuer.authority = some authority → ∃ key, Shelf files authority.dir key

namespace Authority

theorem exists_writeFile {key : FileKey} (shelf : Shelf files dir key) {name : String}
    (hname : FileName name) (text : String) :
    ∃ written, writeFile files (Path.join dir name) text = (written, .ok ()) ∧
      KeepsShelves files written := by
  obtain ⟨written, hwrite⟩ := shelf.exists_writeText hname text
  exact ⟨written, writeFile_of_ok hwrite, fun path key other => other.writeText hwrite⟩

theorem exists_generate {key : FileKey} (shelf : Shelf files dir key) (drawn : Nat) :
    ∃ written, generate files dir drawn = (written, .ok ⟨dir, drawn⟩) ∧
      KeepsShelves files written := by
  obtain ⟨written, hwrite, hkeeps⟩ := exists_writeFile shelf (show FileName "ca.pem" by decide)
    (Authority.certificate ⟨dir, drawn⟩).text
  refine ⟨written, ?_, hkeeps⟩
  rw [generate, shelf.makeAll_eq]
  simp only [caFile, hwrite]

theorem exists_issue {key : FileKey} (shelf : Shelf files authority.dir key) {name : String}
    (hpem : FileName (name ++ ".pem")) (hkey : FileName (name ++ ".key")) {hosts : List String}
    (hfit : unfitHost? hosts = none) (drawn : Nat) :
    ∃ written info, issue files authority name hosts drawn = (written, .ok info) ∧
      KeepsShelves files written := by
  obtain ⟨between, hfirst, hkeeps⟩ := exists_writeFile shelf hpem
    (Certificate.text ⟨drawn, name, Authority.name, authority.key, false,
      hosts.map SubjectName.ofHost⟩)
  obtain ⟨written, hsecond, hkeeps'⟩ := exists_writeFile (hkeeps _ _ shelf) hkey
    (PrivateKey.text drawn)
  simp only [issue, hfit, hfirst, hsecond]
  exact ⟨written, _, rfl, hkeeps.trans hkeeps'⟩

end Authority

namespace Issuer

theorem exists_authorityOf {key : FileKey} (shelf : Shelf files dir key)
    (shelved : Shelved issuer files) :
    ∃ found written authority, issuer.authorityOf files dir = (found, written, .ok authority) ∧
      found.authority = some authority ∧ Shelved found written ∧ KeepsShelves files written := by
  unfold authorityOf
  split
  next authority hfilter =>
    exact ⟨issuer, files, authority, rfl, (Option.filter_eq_some_iff.mp hfilter).1, shelved,
      .refl files⟩
  next =>
    obtain ⟨written, hgenerate, hkeeps⟩ := Authority.exists_generate shelf issuer.drawn
    simp only [hgenerate]
    refine ⟨_, written, _, rfl, rfl, fun authority hauthority => ?_, hkeeps⟩
    obtain rfl := Option.some.inj hauthority
    exact ⟨key, hkeeps _ _ shelf⟩

theorem exists_resolve (issuer : Issuer) {key : FileKey} (shelf : Shelf files authority.dir key)
    {name : String} (hpem : FileName (name ++ ".pem")) (hkey : FileName (name ++ ".key"))
    {urls : List String}
    (hfit : Authority.unfitHost? (certifiedHosts urls) = none) (mode : TlsMode) :
    ∃ after written resolved,
      issuer.resolve files authority name urls mode = (after, written, .ok resolved) ∧
      after.authority = issuer.authority ∧ KeepsShelves files written := by
  cases mode with
  | auto =>
      obtain ⟨written, info, hissue, hkeeps⟩ :=
        Authority.exists_issue shelf hpem hkey hfit issuer.drawn
      simp only [resolve, hissue]
      exact ⟨_, written, _, rfl, rfl, hkeeps⟩
  | none | manual => exact ⟨issuer, files, _, rfl, rfl, .refl files⟩

/-- What a member needs to get its material: files can be named after it, and a certificate can name
its hosts. -/
structure Certifiable (config : MemberConfig) : Prop where
  certificate : ∀ channel, FileName (config.name ++ roleOf channel ++ ".pem")
  key : ∀ channel, FileName (config.name ++ roleOf channel ++ ".key")
  hosts : ∀ channel, Authority.unfitHost? (certifiedHosts (config.urlsOf channel)) = none

theorem exists_canonicalize {key : FileKey} (shelf : Shelf files (issuedDir config) key)
    (shelved : Shelved issuer files) (fit : Certifiable config) :
    ∃ after written canonical,
      issuer.canonicalize files config = (after, written, .ok canonical) ∧
      Shelved after written ∧ KeepsShelves files written := by
  by_cases hsettled : config.Settled
  · exact ⟨issuer, files, config, canonicalize_of_settled hsettled, shelved, .refl files⟩
  · obtain ⟨found, made, authority, hauthority, hfound, hshelved, hmade⟩ :=
      exists_authorityOf shelf shelved
    obtain ⟨place, hplace⟩ := hshelved authority hfound
    obtain ⟨half, drawn, clientTls, hclient, hhalf, hdrawn⟩ :=
      exists_resolve found hplace (fit.certificate .client) (fit.key .client)
        (fit.hosts .client) config.clientTls
    obtain ⟨after, written, peerTls, hpeer, hafter, hwritten⟩ :=
      exists_resolve half (hdrawn _ _ hplace) (fit.certificate .peer) (fit.key .peer)
        (fit.hosts .peer) config.peerTls
    refine ⟨after, written, { config with clientTls, peerTls }, ?_, fun last hlast => ?_,
      hmade.trans (hdrawn.trans hwritten)⟩
    · rw [canonicalize, if_neg (mt MemberConfig.settled_iff.mpr hsettled), hauthority]
      simp only [roleOf, MemberConfig.urlsOf] at hclient hpeer
      simp only [hclient, hpeer]
    · rw [hafter, hhalf] at hlast
      obtain ⟨standing, hstanding⟩ := hshelved last hlast
      exact ⟨standing, hwritten _ _ (hdrawn _ _ hstanding)⟩

end Issuer

theorem certifiedHosts_singleton (url : String) : certifiedHosts [url] = [Address.nameOf url] := by
  rw [certifiedHosts, List.map_singleton, List.mergeSort_singleton]
  rfl

/-- A member of a fleet in this directory, whose client channel is to get its material issued. -/
def securedMember (home name : String) : MemberConfig where
  name := name
  dataDir := Path.join home (name ++ ".etcd")
  walDir := Path.join home (name ++ ".etcd/wal")
  clientUrls := ["https://localhost:2379"]
  peerUrls := ["http://localhost:2380"]
  initialCluster := name ++ "=http://localhost:2380"
  initialClusterToken := "secured"
  initialClusterState := .new
  clientTls := .auto
  peerTls := .none

theorem certifiable_securedMember (home : String) {name : String}
    (hname : name = "member-0" ∨ name = "member-1") :
    Issuer.Certifiable (securedMember home name) where
  certificate channel := by
    change FileName (name ++ roleOf channel ++ ".pem")
    rcases hname with rfl | rfl <;> cases channel <;> decide
  key channel := by
    change FileName (name ++ roleOf channel ++ ".key")
    rcases hname with rfl | rfl <;> cases channel <;> decide
  hosts channel := by
    cases channel <;> rw [MemberConfig.urlsOf, securedMember, certifiedHosts_singleton] <;> decide

/-- Directories for issued material below these homes, with nothing in them. -/
def emptyHomes (homes : List String) : Files where
  entries := homes.flatMap fun home =>
    [([home], .directory), ([home, issuedDirName], .directory)]

theorem entry?_emptyHomes (homes : List String) (key : FileKey) :
    Files.entry? (emptyHomes homes) key =
      if key = [] ∨ ∃ home ∈ homes, key = [home] ∨ key = [home, issuedDirName] then some .directory
      else none := by
  by_cases hroot : key = []
  · rw [hroot, Files.entry?_root, if_pos (.inl rfl)]
  · rw [Files.entry?_of_ne_root hroot]
    induction homes with
    | nil => simp [emptyHomes, hroot]
    | cons home homes ih =>
        simp only [emptyHomes, List.flatMap_cons, List.cons_append, List.nil_append, Keyed.find?]
          at ih ⊢
        rw [ih]
        grind

theorem shelf_emptyHomes {homes : List String} {home : String} (hmem : home ∈ homes)
    (hname : FileName home) :
    Shelf (emptyHomes homes) (Path.join home issuedDirName) [home, issuedDirName] := by
  have hdir : FileName issuedDirName := by decide
  have hshort := hname.short
  have hmost : maxNameBytes = 255 := rfl
  have hbytes : home.utf8ByteSize + maxNameBytes + 1 < 4096 := by omega
  have hhome : PathParts.ofPath home = .ok ⟨[home], false⟩ := by
    rw [hname.ofPath_eq (String.empty_append).symm (by simp) (by omega), hname.targetNames_eq]
  have hparts := hdir.ofPath_join hhome hbytes
  have hfirst : Files.entry? (emptyHomes homes) ([] ++ [home]) = some .directory := by
    rw [entry?_emptyHomes, if_pos (.inr ⟨home, hmem, .inl rfl⟩)]
  have hsecond : Files.entry? (emptyHomes homes) ([] ++ [home] ++ [issuedDirName]) =
      some .directory := by
    rw [entry?_emptyHomes, if_pos (.inr ⟨home, hmem, .inr rfl⟩)]
  have hway : Way (emptyHomes homes) true maxLinks [] ([home] ++ [issuedDirName])
      (.ok ([] ++ [home] ++ [issuedDirName])) :=
    .enter hname.isName (Nat.not_lt.mpr hname.short) hfirst
      (.enter hdir.isName (Nat.not_lt.mpr hdir.short) hsecond .done)
  refine ⟨?_, fun name => .inl ?_, ?_⟩
  · rw [stat_eq hparts, Bool.true_or, hway.walk_eq]
    simp only [hsecond]
    rfl
  · rw [entry?_emptyHomes, if_neg]
    rintro (hnil | ⟨other, -, hone | htwo⟩) <;> simp_all
  · have hjoin := Path.size_join_le home issuedDirName
    have htail : issuedDirName.utf8ByteSize = 8 := rfl
    omega

theorem exists_canonical_secured : ∃ after written config,
    Issuer.canonicalize {} (emptyHomes ["fleet"]) (securedMember "fleet" "member-0") =
      (after, written, .ok config) := by
  have hname : Files.FileName "fleet" := by decide
  have hdir : issuedDir (securedMember "fleet" "member-0") = Path.join "fleet" issuedDirName := by
    decide
  have hshelf := hdir ▸ shelf_emptyHomes (List.mem_singleton.mpr rfl) hname
  have hshelved : Shelved {} (emptyHomes ["fleet"]) := fun authority hauthority => by
    simp at hauthority
  obtain ⟨after, written, config, hcanonical, -⟩ :=
    Issuer.exists_canonicalize hshelf hshelved (certifiable_securedMember _ (.inl rfl))
  exact ⟨after, written, config, hcanonical⟩

end FleetControl.Engine
