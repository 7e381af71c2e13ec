/-! Bytes, the content of files. -/

namespace PlayerSession

abbrev Bytes := List UInt8

namespace Bytes

def ofText (s : String) : Bytes := s.toUTF8.data.toList

/-- The text that some bytes stand for, if they stand for one. -/
def text? (bytes : Bytes) : Option String := String.fromUTF8? ⟨bytes.toArray⟩

theorem text?_ofText (s : String) : (ofText s).text? = some s := by
  simp only [text?, ofText, String.fromUTF8?, String.toUTF8_eq_toByteArray, Array.toArray_toList,
    dif_pos s.isValidUTF8]
  rfl

end Bytes

end PlayerSession
