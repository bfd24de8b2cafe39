import ReachAudit.Url.Domain.Direction
import ReachAudit.Url.Domain.Folding
import ReachAudit.Url.Domain.Joiner
import ReachAudit.Url.Punycode

namespace ReachAudit.Url.Domain

def isAscii (cs : List Char) : Bool := cs.all (·.toNat < 128)

def encodedMark : List Char := ['x', 'n', '-', '-']

def isLabel (label : List Char) : Bool :=
  !(label.head?.any Text.isMark) && joinersFit [] label &&
    (encodedMark.isPrefixOf? label).isNone

/-- What an encoded label stands for. It has to be a label that needs encoding, in the form in which
    names are compared, and encoded in the one way there is. -/
def decode? (encoded : List Char) : Option (List Char) :=
  (Punycode.decode encoded).filter fun label =>
    !isAscii label && fold? label = some label && Punycode.encode label = encoded

def readLabel? (label : List Char) : Option (List Char) := do
  let label ← match encodedMark.isPrefixOf? label with
    | some encoded => decode? encoded
    | none => some label
  if isAscii label || isLabel label then some label else none

def labelToAscii (label : List Char) : List Char :=
  if isAscii label then label else encodedMark ++ Punycode.encode label

def toAscii? (name : List Char) : Option (List Char) := do
  let labels ← ((← fold? name).splitOn '.').mapM readLabel?
  if isReadable labels then some (['.'].intercalate (labels.map labelToAscii)) else none

end ReachAudit.Url.Domain
