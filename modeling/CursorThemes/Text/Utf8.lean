/-! # Texts in bytes

Names and paths of a file system are bytes that need not be a text.

* **`ofBytes?`** reads bytes as UTF-8 and refuses anything else; **`toBytes`** is its inverse.
* **`display`** shows any bytes to a person: every longest piece that could still have begun a
  character, but does not go on to be one, becomes a single replacement character `U+FFFD`. -/

namespace CursorThemes.Text

/-- The UTF-8 bytes of a text. -/
def toBytes (text : String) : List UInt8 := text.toByteArray.data.toList

/-- The text that the bytes spell in UTF-8, if they do. -/
def ofBytes? (bytes : List UInt8) : Option String := String.fromUTF8? ⟨bytes.toArray⟩

/-- Whether a byte can follow the first one of a character. -/
def isTail (b : UInt8) : Bool := 0x80 ≤ b && b ≤ 0xbf

/-- How a character continues after its first byte: the bounds of its second byte, and the number of
plain tail bytes after that. Bytes below `0x80` are characters by themselves and are not asked
for here; a byte that starts no character has no continuation. -/
def continuation? (lead : UInt8) : Option (UInt8 × UInt8 × Nat) :=
  if 0xc2 ≤ lead ∧ lead ≤ 0xdf then some (0x80, 0xbf, 0)
  -- a lower second byte would spell what two bytes can spell
  else if lead = 0xe0 then some (0xa0, 0xbf, 1)
  -- a higher second byte would spell a surrogate
  else if lead = 0xed then some (0x80, 0x9f, 1)
  else if 0xe1 ≤ lead ∧ lead ≤ 0xef then some (0x80, 0xbf, 1)
  -- a lower second byte would spell what three bytes can spell
  else if lead = 0xf0 then some (0x90, 0xbf, 2)
  else if 0xf1 ≤ lead ∧ lead ≤ 0xf3 then some (0x80, 0xbf, 2)
  -- a higher second byte would lie beyond `U+10FFFF`
  else if lead = 0xf4 then some (0x80, 0x8f, 2)
  else none

/-- The number of bytes, of those that follow `lead`, which the piece starting with it takes up, and
whether the piece is a whole character. -/
def pieceLength (lead : UInt8) (later : List UInt8) : Nat × Bool :=
  if lead < 0x80 then (0, true)
  else
    match continuation? lead, later with
    | some (low, high, owed), second :: rest =>
      if low ≤ second ∧ second ≤ high then
        let tails := (rest.take owed).takeWhile isTail
        (1 + tails.length, tails.length == owed)
      else (0, false)
    | _, _ => (0, false)

/-- The character that a whole piece spells. -/
def pieceChar (lead : UInt8) (tails : List UInt8) : Char :=
  let payload : Nat := match tails.length with
    | 0 => lead.toNat
    | 1 => lead.toNat % 32
    | 2 => lead.toNat % 16
    | _ => lead.toNat % 8
  Char.ofNat (tails.foldl (fun acc b => acc * 64 + b.toNat % 64) payload)

/-- The bytes as characters, with `U+FFFD` in place of each piece that is no character. -/
def displayChars : List UInt8 → List Char
  | [] => []
  | lead :: later =>
    let piece := pieceLength lead later
    let char := if piece.2 then pieceChar lead (later.take piece.1) else '\uFFFD'
    char :: displayChars (later.drop piece.1)
termination_by bytes => bytes.length
decreasing_by
  simp only [List.length_drop, List.length_cons]
  omega

/-- **Any bytes as a text for a person to read.** -/
def display (bytes : List UInt8) : String := String.ofList (displayChars bytes)

/-- Reading the bytes of a text gives the text. -/
@[simp] theorem ofBytes?_toBytes (text : String) : ofBytes? (toBytes text) = some text := by
  simp [ofBytes?, toBytes, String.fromUTF8?, String.fromUTF8, text.isValidUTF8]

/-- Bytes that can be read are the bytes of what was read. -/
theorem toBytes_of_ofBytes? {bytes : List UInt8} {text : String}
    (h : ofBytes? bytes = some text) : toBytes text = bytes := by
  unfold ofBytes? String.fromUTF8? at h
  split at h
  · cases h
    simp [toBytes, String.fromUTF8]
  · cases h

end CursorThemes.Text
