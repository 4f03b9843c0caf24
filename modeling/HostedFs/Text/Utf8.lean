/-! # Texts as bytes

    The UTF-8 form of a text, and the text of bytes that are in that form.
    Each determines the other: `ofBytes?_bytes` and `bytes_of_ofBytes?`.
    Positions in a text are counted in bytes, and `cut?` takes the part between
    two of them.
-/

namespace HostedFs.Text

/-- The UTF-8 form of a text. -/
def bytes (s : String) : List UInt8 :=
  s.toUTF8.data.toList

/-- The text whose UTF-8 form the bytes are, if they are one. -/
def ofBytes? (bs : List UInt8) : Option String :=
  String.fromUTF8? ⟨bs.toArray⟩

theorem ofBytes?_bytes (s : String) : ofBytes? (bytes s) = some s := by
  have h : (⟨(bytes s).toArray⟩ : ByteArray) = s.toUTF8 := by simp [bytes]
  rw [ofBytes?, h, String.fromUTF8?]
  exact dif_pos s.isValidUTF8

theorem bytes_of_ofBytes? {bs : List UInt8} {s : String} (h : ofBytes? bs = some s) :
    bytes s = bs := by
  unfold ofBytes? String.fromUTF8? at h
  split at h
  · cases h
    rfl
  · cases h

/-! ## Positions -/

/-- A byte that goes on with a character begun before it. -/
def isContinuation (b : UInt8) : Bool :=
  b &&& 0xC0 == 0x80

/-- A position in a text that is not inside a character. -/
def isBoundary (s : String) (n : Nat) : Bool :=
  n ≤ (bytes s).length && !((bytes s)[n]?).any isContinuation

/-- The part of a text between two positions, if neither is inside a
    character. -/
def cut? (s : String) (first last : Nat) : Option String :=
  if isBoundary s first && isBoundary s last then
    ofBytes? (((bytes s).drop first).take (last - first))
  else none

end HostedFs.Text
