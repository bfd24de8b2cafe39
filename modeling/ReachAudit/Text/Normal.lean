import ReachAudit.Text.Hangul
import ReachAudit.Text.Normal.Classes
import ReachAudit.Text.Normal.Composites

namespace ReachAudit.Text

/-- What a character is made of, down to what is made of nothing else. -/
def decompose (c : Char) : List Char :=
  if c.toNat < 128 then [c]
  else (((composites.get? c).or (aliases.get? c)).or (Hangul.decompose? c)).getD [c]

/-- Puts a character in front of a text. A mark goes behind those of smaller classes that follow. -/
def place (c : Char) : List Char → List Char
  | [] => [c]
  | d :: rest =>
    if 0 < combiningClass d ∧ combiningClass d < combiningClass c then d :: place c rest
    else c :: d :: rest

def decomposed (cs : List Char) : List Char := (cs.flatMap decompose).foldr place []

def compose? (first second : Char) : Option Char :=
  (composites.source? (decompose first ++ [second])).or (Hangul.compose? first second)

/-- Joins a character with what follows it. `held` are the marks that could not join it, of which
    the last keeps out every mark of a class that is no greater. -/
def composeFrom (base : Char) (held : List Char) : List Char → List Char
  | [] => base :: held
  | c :: rest =>
    let blocked := held.getLast?.any fun d => combiningClass c ≤ combiningClass d
    match if blocked then none else compose? base c with
    | some joined => composeFrom joined held rest
    | none =>
      if combiningClass c = 0 then base :: held ++ composeFrom c [] rest
      else composeFrom base (held ++ [c]) rest

def composed : List Char → List Char
  | [] => []
  | c :: rest => if combiningClass c = 0 then composeFrom c [] rest else c :: composed rest

/-- The normal form of a text: equivalent texts have the same, in as few characters as can be. -/
def normal (cs : List Char) : List Char :=
  if cs.all (·.toNat < 128) then cs else composed (decomposed cs)

end ReachAudit.Text
