namespace ReachAudit.Text.Hangul

/-- Syllables are numbered by lead, then vowel, then tail; a syllable without a tail counts as one
    with tail zero. -/
def firstLead : Nat := 0x1100
def firstVowel : Nat := 0x1161
def beforeTails : Nat := 0x11a7
def firstSyllable : Nat := 0xac00
def leads : Nat := 19
def vowels : Nat := 21
def tails : Nat := 28

def index? (c : Char) : Option Nat :=
  if firstSyllable ≤ c.toNat ∧ c.toNat < firstSyllable + leads * vowels * tails then
    some (c.toNat - firstSyllable)
  else none

def decompose? (c : Char) : Option (List Char) :=
  (index? c).map fun n =>
    let lead := Char.ofNat (firstLead + n / tails / vowels)
    let vowel := Char.ofNat (firstVowel + n / tails % vowels)
    if n % tails = 0 then [lead, vowel] else [lead, vowel, Char.ofNat (beforeTails + n % tails)]

def join? (lead vowel : Char) : Option Char :=
  if firstLead ≤ lead.toNat ∧ lead.toNat < firstLead + leads ∧
      firstVowel ≤ vowel.toNat ∧ vowel.toNat < firstVowel + vowels then
    some (Char.ofNat (firstSyllable +
      ((lead.toNat - firstLead) * vowels + (vowel.toNat - firstVowel)) * tails))
  else none

def close? (syllable tail : Char) : Option Char :=
  match index? syllable with
  | some n =>
    if n % tails = 0 ∧ beforeTails < tail.toNat ∧ tail.toNat < beforeTails + tails then
      some (Char.ofNat (syllable.toNat + (tail.toNat - beforeTails)))
    else none
  | none => none

def compose? (first second : Char) : Option Char := (join? first second).or (close? first second)

end ReachAudit.Text.Hangul
