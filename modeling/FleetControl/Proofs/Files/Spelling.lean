import FleetControl.Files.OsPath
import Mathlib.Data.String.Basic

/-!
# Paths that spell texts

A path that spells a text is shown as that text. So such paths are told apart by what they are shown
as, and others need not be.
-/

namespace FleetControl.OsPath

/-- A character is read back from its bytes, whatever comes after them. -/
theorem shown_utf8EncodeChar_append (char : Char) (bytes : List UInt8) :
    shown (String.utf8EncodeChar char ++ bytes) = char :: shown bytes := by
  obtain ⟨first, rest, hencoded⟩ :=
    List.exists_cons_of_ne_nil (String.utf8EncodeChar_ne_nil (c := char))
  have hread : (first :: (rest ++ bytes)).toByteArray.utf8DecodeChar? 0 = some char := by
    rw [← List.cons_append, ← hencoded, List.toByteArray_append]
    exact ByteArray.utf8DecodeChar?_utf8EncodeChar_append
  have hlength : char.utf8Size - 1 = rest.length := by
    rw [← String.length_utf8EncodeChar, hencoded, List.length_cons, Nat.add_sub_cancel]
  rw [hencoded, List.cons_append, shown, hread]
  simp only [hlength, List.drop_left]

theorem shown_flatMap_append (chars : List Char) (bytes : List UInt8) :
    shown (chars.flatMap String.utf8EncodeChar ++ bytes) = chars ++ shown bytes := by
  induction chars with
  | nil => rfl
  | cons char chars ih =>
      rw [List.flatMap_cons, List.append_assoc, shown_utf8EncodeChar_append, ih, List.cons_append]

/-- A path that spells a text is shown as this text. -/
@[simp] theorem display_ofString (text : String) : (ofString text).display = text := by
  have hshown := shown_flatMap_append text.toList []
  rw [List.append_nil, shown, List.append_nil] at hshown
  rw [display, ofString, hshown, String.ofList_toList]

end FleetControl.OsPath
