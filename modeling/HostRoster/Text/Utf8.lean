/-!
# Bytes as text

Bytes are a text if they are its UTF-8 encoding. Bytes that are no text can still be read character
by character: a byte that starts no character is replaced by a stand-in, a character that does not
occur elsewhere.
-/

namespace HostRoster.Text

/-- The text that bytes encode. -/
def ofUtf8? (b : ByteArray) : Option String := String.fromUTF8? b

/-- The bytes of a text encode it. -/
theorem ofUtf8?_toUTF8 (s : String) : ofUtf8? s.toUTF8 = some s := by
  simp only [ofUtf8?, String.fromUTF8?, Option.dite_none_right_eq_some, Option.some.injEq]
  exact ⟨s.isValidUTF8, rfl⟩

/-- The characters from an offset on, and nothing for each byte that starts none. -/
def charsFrom (b : ByteArray) (i : Nat) : List (Option Char) :=
  if _h : i < b.size then
    match b.utf8DecodeChar? i with
    | some c => some c :: charsFrom b (i + c.utf8Size)
    | none => none :: charsFrom b (i + 1)
  else []
termination_by b.size - i
decreasing_by
  · have := c.utf8Size_pos
    omega
  · omega

/-- A character that does not occur in a list of fewer than a million. -/
def unusedChar (cs : List (Option Char)) : Char :=
  let candidates := (List.range (cs.length + 1)).map fun n => Char.ofNat (0x10FFFF - n)
  (candidates.find? fun c => !cs.contains (some c)).getD '\uFFFF'

/-- The characters of bytes that are no text, and the stand-in among them. -/
def lossyChars (b : ByteArray) : Char × List Char :=
  let cs := charsFrom b 0
  let standIn := unusedChar cs
  (standIn, cs.map (·.getD standIn))

end HostRoster.Text
