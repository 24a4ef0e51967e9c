import FleetControl.Engine.Certificate
import FleetControl.Files.Tree

/-!
# Authorities

An authority signs the certificates of one fleet, so that its members trust each other. It lives in
a directory, which holds its own certificate and whatever it issues.
-/

namespace FleetControl.Engine

/-- An authority: its directory, and the number of its key pair. -/
structure Authority where
  dir : String
  key : Nat
deriving DecidableEq, Repr, Inhabited

namespace Authority

/-- The name under which an authority signs. -/
def name : String := "d-engine-fleet auto TLS authority"

/-- The file that holds the certificate of an authority. -/
def caFile (authority : Authority) : String := Path.join authority.dir "ca.pem"

/-- The certificate of an authority, which it signs itself. -/
def certificate (authority : Authority) : Certificate :=
  { key := authority.key, subject := name, issuer := name, signer := authority.key
    authority := true, names := [] }

/-- Writes a file of an authority's directory. -/
def writeFile (files : Files) (path text : String) : Files × Except Error Unit :=
  match files.writeText path text with
  | .ok written => (written, .ok ())
  | .error fault => (files, .error (.path path fault))

/-- Makes an authority with a new key pair in a directory, which is made if it is missing, and
writes its certificate there. -/
def generate (files : Files) (dir : String) (key : Nat) : Files × Except Error Authority :=
  match files.makeAll dir with
  | (made, .error fault) => (made, .error (.path dir fault))
  | (made, .ok ()) =>
      let authority : Authority := { dir, key }
      match writeFile made authority.caFile authority.certificate.text with
      | (written, .ok ()) => (written, .ok authority)
      | (written, .error e) => (written, .error e)

/-- The certificate of an authority is still in its place. -/
def isPresent (files : Files) (authority : Authority) : Bool := files.isFile authority.caFile

/-- The first host that no certificate can name. -/
def unfitHost? (hosts : List String) : Option String :=
  hosts.find? fun host => !host.toList.all fun c => c.toNat < 128

/-- Certifies a new key pair for the given hosts, and writes the certificate and the private key
under the given file name. -/
def issue (files : Files) (authority : Authority) (fileName : String) (hosts : List String)
    (key : Nat) : Files × Except Error TlsInfo :=
  match unfitHost? hosts with
  | some host => (files, .error (.tls ("Invalid IA5String: '" ++ host ++ "'")))
  | none =>
      let certificate : Certificate :=
        { key, subject := fileName, issuer := name, signer := authority.key
          authority := false, names := hosts.map SubjectName.ofHost }
      let certFile := Path.join authority.dir (fileName ++ ".pem")
      let keyFile := Path.join authority.dir (fileName ++ ".key")
      match writeFile files certFile certificate.text with
      | (written, .error e) => (written, .error e)
      | (written, .ok ()) =>
          match writeFile written keyFile (PrivateKey.text key) with
          | (written, .error e) => (written, .error e)
          | (written, .ok ()) =>
              (written, .ok { certFile, keyFile, trustedCaFile := authority.caFile })

end Authority

end FleetControl.Engine
