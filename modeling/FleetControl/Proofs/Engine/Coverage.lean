import FleetControl.Network.Client
import FleetControl.Proofs.Address
import FleetControl.Proofs.Engine.Succession
import Mathlib.Data.List.Destutter
import Mathlib.Data.String.Basic

/-!
# What a certificate has to name

A client of a secured member checks the certificate for one name, the host name of the member's
first client URL. When the member asks for issued material, its certificate is asked for the host
names of all its client URLs, in ascending order and each once. So the name that is checked is among
those that the certificate vouches for, whatever the URLs are.
-/

namespace FleetControl

/-! ### Repetitions -/

section

variable {α : Type} [DecidableEq α]

theorem eraseRepsBy_loop_eq (list : List α) (a : α) (done : List α) :
    List.eraseRepsBy.loop (· == ·) a list done = done.reverse ++ list.destutter' (· ≠ ·) a := by
  induction list generalizing a done with
  | nil => simp [List.eraseRepsBy.loop]
  | cons b list ih =>
      rw [List.eraseRepsBy.loop, List.destutter'_cons]
      by_cases hsame : a = b
      · rw [beq_iff_eq.mpr hsame, if_neg (not_not_intro hsame)]
        exact ih a done
      · rw [beq_false_of_ne hsame, if_pos hsame]
        simpa using ih b (a :: done)

theorem eraseReps_eq_destutter (list : List α) : list.eraseReps = list.destutter (· ≠ ·) := by
  cases list with
  | nil => rfl
  | cons a list => exact eraseRepsBy_loop_eq list a []

end

section

variable {α : Type} [LinearOrder α] {list : List α}

/-- In a sorted list the repetitions of an element are next to it. -/
theorem eraseReps_eq_dedup (hsorted : list.Pairwise (· ≤ ·)) : list.eraseReps = list.dedup := by
  rw [eraseReps_eq_destutter, hsorted.destutter_eq_dedup]

theorem pairwise_eraseReps (hsorted : list.Pairwise (· ≤ ·)) : list.eraseReps.Pairwise (· < ·) := by
  rw [eraseReps_eq_dedup hsorted]
  have hascending := hsorted.sublist list.dedup_sublist
  exact hascending.imp₂ (fun _ _ => lt_of_le_of_ne) list.nodup_dedup

theorem mem_eraseReps (hsorted : list.Pairwise (· ≤ ·)) (a : α) :
    a ∈ list.eraseReps ↔ a ∈ list := by
  rw [eraseReps_eq_dedup hsorted, List.mem_dedup]

theorem pairwise_mergeSort_le (list : List α) :
    (list.mergeSort fun a b => a ≤ b).Pairwise (· ≤ ·) := by
  have hsorted : (list.mergeSort fun a b => a ≤ b).Pairwise fun a b => decide (a ≤ b) = true :=
    List.pairwise_mergeSort (by simpa using fun _ _ _ => le_trans) (by simpa using le_total) list
  simpa using hsorted

end

namespace Engine

variable {urls : List String} {url : String}

/-! ### The hosts of a certificate -/

theorem certifiedHosts_ascending (urls : List String) : (certifiedHosts urls).Pairwise (· < ·) :=
  pairwise_eraseReps (pairwise_mergeSort_le _)

theorem mem_certifiedHosts_iff {host : String} :
    host ∈ certifiedHosts urls ↔ ∃ url ∈ urls, Address.IsNameOf url host := by
  rw [certifiedHosts, mem_eraseReps (pairwise_mergeSort_le _), List.mem_mergeSort, List.mem_map]
  simp only [Address.isNameOf_iff, eq_comm]

theorem nameOf_clientUrl_mem {config : MemberConfig} (hurls : config.clientUrls ≠ []) :
    Address.nameOf config.clientUrl ∈ certifiedHosts config.clientUrls := by
  obtain ⟨url, rest, heq⟩ := List.exists_cons_of_ne_nil hurls
  have hfirst : config.clientUrl ∈ config.clientUrls := by
    rw [MemberConfig.clientUrl, heq]
    exact List.mem_cons_self
  exact mem_certifiedHosts_iff.mpr ⟨_, hfirst, Address.isNameOf_iff.mpr rfl⟩

end Engine

/-! ### The name that is checked -/

namespace Network

variable {files : Files} {info : TlsInfo} {domain : String} {tls : ClientTls}

/-- Whatever is read, the domain is put beside it at the end. -/
theorem ClientTls.domain_of_ofInfo (htls : ofInfo files info domain = .ok tls) :
    tls.domain = domain := by
  have hlast : ∀ trusted identity,
      (pure ⟨domain, trusted, identity⟩ : Except NetworkFault ClientTls) = .ok tls →
        tls.domain = domain :=
    fun _ _ hpure => (congrArg ClientTls.domain (Except.ok.inj hpure)).symm
  unfold ofInfo at htls
  dsimp only at htls
  split at htls
  all_goals
    obtain ⟨trusted, -, hrest⟩ := exists_of_bind_eq_ok htls
    split at hrest
    · exact hlast _ _ hrest
    · obtain ⟨certificate, -, hrest⟩ := exists_of_bind_eq_ok hrest
      obtain ⟨key, -, hrest⟩ := exists_of_bind_eq_ok hrest
      exact hlast _ _ hrest

/-- A client of this configuration is set up with its material, whatever the tree holds, and checks
the member's certificate for this name. -/
def ChecksFor (config : MemberConfig) (domain : String) : Prop :=
  ∃ info, config.clientTls = .manual info ∧ ∀ files,
    clientTls files config = some <$> ClientTls.ofInfo files info domain ∧
    ∀ tls, ClientTls.ofInfo files info domain = .ok tls → tls.domain = domain

theorem checksFor_nameOf {config : MemberConfig} (hmanual : config.clientTls = .manual info) :
    ChecksFor config (Address.nameOf config.clientUrl) := by
  refine ⟨info, hmanual, fun files => ⟨?_, fun tls htls => ClientTls.domain_of_ofInfo htls⟩⟩
  rw [clientTls, hmanual]

end Network

namespace Engine

namespace Issuer

variable {issuer after found : Issuer} {files written made : Files}
  {config canonical : MemberConfig} {authority : Authority} {dir : String}

theorem plain_authorityOf (hplain : Plain files)
    (hauthority : issuer.authorityOf files dir = (found, made, .ok authority)) : Plain made := by
  rcases authorityOf_cases hauthority with ⟨-, -, -, rfl⟩ | ⟨-, -, hgenerate⟩
  · exact hplain
  · exact (Authority.stands_generate hplain hgenerate).2.2.1

/-- For a client channel that asks for material, a certificate is requested with the hosts of all
client URLs. In a tree in which no link stands in the way, it is there when the adapter is done. -/
theorem exists_request (hauto : config.clientTls = .auto)
    (hcanonical : issuer.canonicalize files config = (after, written, .ok canonical)) :
    canonical.clientUrls = config.clientUrls ∧ ∃ info, canonical.clientTls = .manual info ∧
      (∃ (authority : Authority) (before later : Files) (drawn : Nat),
        authority.issue before (config.name ++ "-client") (certifiedHosts config.clientUrls) drawn =
          (later, .ok info)) ∧
      (Plain files → ∃ certificate : Certificate,
        written.readText info.certFile = .ok certificate.text ∧
        certificate.names = (certifiedHosts config.clientUrls).map SubjectName.ofHost) := by
  rcases canonicalize_cases hcanonical with ⟨hsettled, -⟩ |
    ⟨-, found, made, authority, half, drawn, clientTls, peerTls, hauthority, hclient, hpeer, rfl⟩
  · exact absurd hauto (hsettled .client)
  · rcases resolve_cases hclient with ⟨hother, -⟩ | ⟨-, -, info, rfl, hissue⟩
    · exact absurd hauto hother
    · refine ⟨rfl, info, rfl, ⟨authority, made, drawn, found.drawn, hissue⟩, fun hplain => ?_⟩
      obtain ⟨-, -, -, hcertified⟩ :=
        spares_channels (plain_authorityOf hplain hauthority) hclient hpeer
      obtain ⟨-, certificate, -, hnames, hread⟩ := hcertified .client info hauto rfl
      exact ⟨certificate, hread, hnames⟩

end Issuer

/-- The hosts of a certificate are the host names of the URLs, in ascending order and each once. A
client of a member with these client URLs checks for one of them. If the member gets its material
issued, that is one of the hosts for which the certificate is requested, and the certificate that
the tree holds then vouches for it. -/
theorem certificates_cover_checked_name (urls : List String) :
    (certifiedHosts urls).Pairwise (· < ·) ∧
    (∀ host, host ∈ certifiedHosts urls ↔ ∃ url ∈ urls, Address.IsNameOf url host) ∧
    (urls ≠ [] → ∀ config : MemberConfig, config.clientUrls = urls →
      (∀ info, config.clientTls = .manual info →
        ∃ domain ∈ certifiedHosts urls, Network.ChecksFor config domain) ∧
      ∀ issuer files after written canonical, config.clientTls = .auto →
        Issuer.canonicalize issuer files config = (after, written, .ok canonical) →
        ∃ info, canonical.clientTls = .manual info ∧
          (∃ (authority : Authority) (before later : Files) (drawn : Nat),
            authority.issue before (config.name ++ "-client") (certifiedHosts urls) drawn =
              (later, .ok info)) ∧
          ∃ domain ∈ certifiedHosts urls, Network.ChecksFor canonical domain ∧
            (Plain files → ∃ certificate : Certificate,
              written.readText info.certFile = .ok certificate.text ∧
              SubjectName.ofHost domain ∈ certificate.names)) := by
  refine ⟨certifiedHosts_ascending urls, fun host => mem_certifiedHosts_iff, ?_⟩
  rintro hurls config rfl
  constructor
  · intro info hmanual
    exact ⟨_, nameOf_clientUrl_mem hurls, Network.checksFor_nameOf hmanual⟩
  · intro issuer files after written canonical hauto hcanonical
    obtain ⟨hsame, info, hinfo, hrequest, hissued⟩ := Issuer.exists_request hauto hcanonical
    have hmem := nameOf_clientUrl_mem (hsame ▸ hurls)
    rw [hsame] at hmem
    refine ⟨info, hinfo, hrequest, _, hmem, Network.checksFor_nameOf hinfo, fun hplain => ?_⟩
    obtain ⟨certificate, hread, hnames⟩ := hissued hplain
    exact ⟨certificate, hread, hnames ▸ List.mem_map_of_mem hmem⟩

/-- A member whose material was issued is checked for a name that its certificate carries. -/
theorem secured_member_is_covered : ∃ after written canonical info,
    Issuer.canonicalize {} (emptyHomes ["fleet"]) (securedMember "fleet" "member-0") =
      (after, written, .ok canonical) ∧
    canonical.clientTls = .manual info ∧
    ∃ domain ∈ certifiedHosts ["https://localhost:2379"], Network.ChecksFor canonical domain ∧
      ∃ certificate : Certificate, written.readText info.certFile = .ok certificate.text ∧
        SubjectName.ofHost domain ∈ certificate.names := by
  obtain ⟨after, written, canonical, hcanonical⟩ := exists_canonical_secured
  have hcovers := certificates_cover_checked_name ["https://localhost:2379"]
  obtain ⟨info, hinfo, -, domain, hmem, hchecks, hcertificate⟩ :=
    (hcovers.2.2 (by simp) (securedMember "fleet" "member-0") rfl).2 _ _ _ _ _ rfl hcanonical
  exact ⟨after, written, canonical, info, hcanonical, hinfo, domain, hmem, hchecks,
    hcertificate (plain_emptyHomes ["fleet"])⟩

end Engine

end FleetControl
