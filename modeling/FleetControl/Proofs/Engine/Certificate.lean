import FleetControl.Engine.Certificate
import FleetControl.Proofs.Address
import FleetControl.Proofs.Number.Hexadecimal

/-!
# Certificates told apart

The text of a certificate says whose key pair it certifies: texts that are the same certify the same
key. Fields and characters are written one after the other, each closed by a mark that does not
occur in it.
-/

namespace FleetControl

open FleetControl.Number

/-- What stands before the first mark can be read off. -/
theorem eq_of_append_mark {α : Type} [DecidableEq α] {mark : α} {front other rest others : List α}
    (hfront : mark ∉ front) (hother : mark ∉ other)
    (hsame : front ++ mark :: rest = other ++ mark :: others) :
    front = other ∧ rest = others := by
  have hcut : ∀ {front rest : List α}, mark ∉ front →
      (front ++ mark :: rest).takeWhile (· ≠ mark) = front := by
    intro front rest hmark
    have hkept : ∀ x ∈ front, decide (x ≠ mark) = true := fun x hx =>
      decide_eq_true fun hx' => hmark (hx' ▸ hx)
    rw [List.takeWhile_append_of_pos hkept, List.takeWhile_cons_of_neg (by simp), List.append_nil]
  have hfronts : front = other := by rw [← hcut hfront, hsame, hcut hother]
  subst hfronts
  exact ⟨rfl, (List.cons.inj (List.append_cancel_left hsame)).2⟩

theorem Number.not_mem_toDigits {char : Char} (hchar : char ∉ hexDigits) (n : Nat) :
    char ∉ Nat.toDigits 16 n :=
  fun hmem => hchar ((digits_of_toDigits n).1 char hmem)

theorem Number.toDigits_injective : Function.Injective (Nat.toDigits 16) := by
  intro m n hsame
  rw [← (digits_of_toDigits m).2.1, hsame, (digits_of_toDigits n).2.1]

namespace Engine

namespace Certificate

/-- Characters as numerals, each closed by a slash. -/
def packChars (chars : List Char) : List Char :=
  chars.flatMap fun char => Nat.toDigits 16 char.toNat ++ ['/']

theorem packChars_injective : Function.Injective packChars := by
  intro chars
  induction chars with
  | nil =>
      intro others hsame
      cases others with
      | nil => rfl
      | cons other others => simp [packChars] at hsame
  | cons char chars ih =>
      intro others hsame
      cases others with
      | nil => simp [packChars] at hsame
      | cons other others =>
          have hmark : ∀ n, '/' ∉ Nat.toDigits 16 n := not_mem_toDigits (by decide)
          simp only [packChars, List.flatMap_cons, List.append_assoc, List.singleton_append]
            at hsame
          obtain ⟨hnumeral, hrest⟩ := eq_of_append_mark (hmark _) (hmark _) hsame
          rw [Char.toNat_inj.mp (toDigits_injective hnumeral), ih hrest]

theorem packText_injective : Function.Injective packText := fun _ _ hsame =>
  String.toList_inj.mp (packChars_injective hsame)

theorem plus_not_mem_packText (text : String) : '+' ∉ packText text := by
  intro hmem
  obtain ⟨char, -, hplus⟩ := List.mem_flatMap.mp hmem
  rcases List.mem_append.mp hplus with hdigit | hslash
  · exact not_mem_toDigits (by decide) _ hdigit
  · simp at hslash

/-- A certificate says first whose key pair it certifies. -/
theorem exists_body_eq (certificate : Certificate) :
    ∃ rest, certificate.body.toList = packText (decimal certificate.key) ++ '+' :: rest := by
  simp only [body, String.toList_ofList, List.cons_append, List.flatMap_cons, List.append_assoc]
  exact ⟨_, rfl⟩

/-- Certificates with one text certify one key pair. -/
theorem key_eq_of_text_eq {certificate other : Certificate}
    (hsame : certificate.text = other.text) : certificate.key = other.key := by
  have hbodies : certificate.body.toList ++ ("\n" ++ Block.closing blockKind ++ "\n").toList =
      other.body.toList ++ ("\n" ++ Block.closing blockKind ++ "\n").toList := by
    have hchars := congrArg String.toList hsame
    simp only [text, Block.text, String.toList_append, List.append_assoc,
      List.append_cancel_left_eq] at hchars
    simpa only [String.toList_append, List.append_assoc] using hchars
  obtain ⟨rest, hrest⟩ := exists_body_eq certificate
  obtain ⟨others, hothers⟩ := exists_body_eq other
  have hpacked := List.append_cancel_right hbodies
  rw [hrest, hothers] at hpacked
  obtain ⟨hfields, -⟩ :=
    eq_of_append_mark (plus_not_mem_packText _) (plus_not_mem_packText _) hpacked
  exact decimal_injective (packText_injective hfields)

end Certificate

end Engine

end FleetControl
