namespace ReachAudit.Text

abbrev Images := List (Char × List Char)

namespace Images

/-- Reads a table that is written out as words: in each a character comes first, then its text. -/
def ofLines (lines : List String) : Images :=
  (lines.flatMap fun line => line.toList.splitOn ' ').filterMap fun word =>
    match word with
    | c :: text => some (c, text)
    | [] => none

def get? (images : Images) (c : Char) : Option (List Char) :=
  (images.find? (·.1 = c)).map Prod.snd

def source? (images : Images) (text : List Char) : Option Char :=
  (images.find? (·.2 = text)).map Prod.fst

end Images

end ReachAudit.Text
