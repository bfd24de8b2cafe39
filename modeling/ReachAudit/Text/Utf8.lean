namespace ReachAudit.Text

/-- Bytes read as UTF-8, with nothing lost: each piece is a character, or a byte that belongs to
    none. -/
inductive Piece where
  | char (c : Char)
  | stray (b : UInt8)
  deriving DecidableEq, Repr

namespace Piece

def size : Piece → Nat
  | .char c => c.utf8Size
  | .stray _ => 1

def ofBytesFrom (bytes : ByteArray) (i : Nat) : List Piece :=
  if bound : i < bytes.size then
    match bytes.utf8DecodeChar? i with
    | some c => .char c :: ofBytesFrom bytes (i + c.utf8Size)
    | none => .stray bytes[i] :: ofBytesFrom bytes (i + 1)
  else []
  termination_by bytes.size - i
  decreasing_by
    all_goals first
      | omega
      | have := c.utf8Size_pos; omega

def ofBytes (bytes : ByteArray) : List Piece := ofBytesFrom bytes 0

def ofString (s : String) : List Piece := s.toList.map .char

def text? : List Piece → Option (List Char)
  | [] => some []
  | .char c :: rest => (text? rest).map (c :: ·)
  | .stray _ :: _ => none

theorem text?_map_char (cs : List Char) : text? (cs.map .char) = some cs := by
  induction cs with
  | nil => rfl
  | cons c cs ih => simp [text?, ih]

end Piece

end ReachAudit.Text
