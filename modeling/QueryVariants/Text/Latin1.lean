/-!
# Single-byte text

Distribution files hold one byte per character: each byte stands for the code point of the same
number.
-/

namespace QueryVariants.Text

def decodeLatin1 (bytes : ByteArray) : String :=
  String.ofList (bytes.toList.map fun b => Char.ofNat b.toNat)

/-- UTF-8 where the bytes allow it, one byte per character otherwise. -/
def decodeLenient (bytes : ByteArray) : String :=
  (String.fromUTF8? bytes).getD (decodeLatin1 bytes)

theorem decodeLenient_toUTF8 (text : String) : decodeLenient text.toUTF8 = text := by
  rw [decodeLenient, String.fromUTF8?, String.toUTF8_eq_toByteArray, dif_pos text.isValidUTF8]
  rfl

theorem decodeLenient_of_not_isValidUTF8 {bytes : ByteArray} (h : ¬bytes.IsValidUTF8) :
    decodeLenient bytes = decodeLatin1 bytes := by
  rw [decodeLenient, String.fromUTF8?, dif_neg h]
  rfl

end QueryVariants.Text
