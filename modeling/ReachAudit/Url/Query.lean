import ReachAudit.Url
import ReachAudit.Url.Percent

namespace ReachAudit.Url

open ReachAudit.Text (Piece)

def replacement : Char := '\ufffd'

def decodeSetting (cs : List Char) : String :=
  let bytes := percentDecode (cs.map fun c => if c = '+' then ' ' else c)
  String.ofList ((Piece.ofBytes bytes.toByteArray).map fun
    | .char c => c
    | .stray _ => replacement)

def queryPairs (u : Url) : List (String × String) :=
  (((u.query.getD "").toList.splitOn '&').filter (· ≠ [])).map fun setting =>
    let (name, value) := setting.span (· ≠ '=')
    (decodeSetting name, decodeSetting value.tail)

end ReachAudit.Url
