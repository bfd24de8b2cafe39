import ReachAudit.Json.Shape
import ReachAudit.Text.Digits
import ReachAudit.Text.Utf8

namespace ReachAudit.Json

open ReachAudit.Text (Piece)

/-- Why a text was refused. The first fault met from left to right is the one reported. -/
inductive ReadError where
  | malformed
  | truncated
  | misfit (m : Misfit)
  deriving DecidableEq, Repr

abbrev Reader := StateT (List Piece) (Except ReadError)

namespace Reader

variable {α κ σ : Type}

def fail (e : ReadError) : Reader α := fun _ => .error e

def isBlank (p : Piece) : Bool :=
  p = .char ' ' ∨ p = .char '\t' ∨ p = .char '\n' ∨ p = .char '\r'

def blanks : Reader Unit := modify fun input => input.dropWhile isBlank

def peek : Reader Piece := do
  match ← get with
  | [] => fail .truncated
  | p :: _ => pure p

def skip : Reader Unit := modify List.tail

def peekToken : Reader Piece := do
  blanks
  peek

def letters : List Char → Reader Unit
  | [] => pure ()
  | c :: cs => do
    if (← peek) = .char c then skip; letters cs else fail .malformed

/-- A number as it is written: `-? whole (. fraction)? (e exponent)?`. -/
structure Numeral where
  negative : Bool
  whole : List Char
  fraction : List Char
  exponent : Option Int
  deriving DecidableEq, Repr

def digits : List Piece → List Char × List Piece
  | .char c :: rest =>
    if c.isDigit then
      let (cs, after) := digits rest
      (c :: cs, after)
    else ([], .char c :: rest)
  | input => ([], input)

def someDigits : Reader (List Char) := do
  let (cs, rest) := digits (← get)
  if cs ≠ [] then set rest; pure cs
  else if rest = [] then fail .truncated
  else fail .malformed

def wholePart : Reader (List Char) := do
  let cs ← someDigits
  if cs.head? = some '0' ∧ cs.length ≠ 1 then fail .malformed else pure cs

def fractionPart : Reader (List Char) := do
  if (← get).head? = some (.char '.') then skip; someDigits else pure []

def exponentPart : Reader (Option Int) := do
  let next := (← get).head?
  if next = some (.char 'e') ∨ next = some (.char 'E') then
    skip
    let sign := (← get).head?
    if sign = some (.char '+') ∨ sign = some (.char '-') then skip
    let n : Int := Nat.ofDigitChars 10 (← someDigits) 0
    pure (some (if sign = some (.char '-') then -n else n))
  else pure none

def numeral : Reader Numeral := do
  let negative := (← get).head? = some (.char '-')
  if negative then skip
  pure ⟨negative, ← wholePart, ← fractionPart, ← exponentPart⟩

def appendDigits (n : Nat) : List Char → Nat × List Char
  | [] => (n, [])
  | c :: rest =>
    let longer := n * 10 + (c.toNat - '0'.toNat)
    if longer < UInt64.size then appendDigits longer rest else (n, c :: rest)

/-- Whole numbers stay exact within 64 bits, signed or not. All others, and `-0`, are binary64. Of
    these the digits count that fit into 64 bits; those of the whole part that are left over still
    count as places. -/
def Numeral.value? (n : Numeral) : Option Number :=
  let (whole, wholeRest) := appendDigits 0 n.whole
  if n.fraction = [] ∧ n.exponent = none ∧ wholeRest = [] ∧
      (n.negative = false ∨ (0 < whole ∧ whole ≤ UInt64.size / 2)) then
    some (.int (if n.negative then -whole else whole))
  else
    let (digits, fractionRest) := appendDigits whole n.fraction
    let places : Int := n.fraction.length - fractionRest.length
    (Binary64.ofDecimal n.negative digits
      (n.exponent.getD 0 + wholeRest.length - places)).map .real

def number : Reader Number := do
  match (← numeral).value? with
  | some n => pure n
  | none => fail .malformed

def hexValue? : Piece → Option Nat
  | .char c => Text.hexValue? c
  | .stray _ => none

/-- The four hexadecimal digits of an escape. Less than four bytes are too short a text, whatever
    they are. -/
def hexQuad : Reader Nat := do
  match ← get with
  | a :: b :: c :: d :: rest =>
    match hexValue? a, hexValue? b, hexValue? c, hexValue? d with
    | some a, some b, some c, some d =>
      set rest
      pure (a * 0x1000 + b * 0x100 + c * 0x10 + d)
    | _, _, _, _ => fail .malformed
  | short => if short.foldr (fun p n => p.size + n) 0 < 4 then fail .truncated else fail .malformed

def lowSurrogate (high : Nat) : Reader Char := do
  if (← peek) ≠ .char '\\' then fail .malformed
  skip
  if (← peek) ≠ .char 'u' then fail .malformed
  skip
  let low ← hexQuad
  if 0xdc00 ≤ low ∧ low ≤ 0xdfff then
    pure (Char.ofNat (0x10000 + (high - 0xd800) * 0x400 + (low - 0xdc00)))
  else fail .malformed

/-- The character that an escape stands for, its backslash having been read. In a string that is
    not kept the halves of a pair need not meet. -/
def escape (kept : Bool) : Reader Char := do
  let p ← peek
  skip
  match p with
  | .char '"' => pure '"'
  | .char '\\' => pure '\\'
  | .char '/' => pure '/'
  | .char 'b' => pure '\x08'
  | .char 'f' => pure '\x0c'
  | .char 'n' => pure '\n'
  | .char 'r' => pure '\r'
  | .char 't' => pure '\t'
  | .char 'u' =>
    let n ← hexQuad
    if kept = false then pure (Char.ofNat n)
    else if 0xd800 ≤ n ∧ n ≤ 0xdbff then lowSurrogate n
    else if 0xdc00 ≤ n ∧ n ≤ 0xdfff then fail .malformed
    else pure (Char.ofNat n)
  | _ => fail .malformed

/-- Reads up to the closing quote. Each round reads at least one piece, so `fuel` pieces are
    enough. -/
def untilQuote (kept : Bool) : (fuel : Nat) → Reader (List Piece)
  | 0 => fail .truncated
  | fuel + 1 => do
    let p ← peek
    skip
    match p with
    | .char '"' => pure []
    | .char '\\' =>
      let c ← escape kept
      return .char c :: (← untilQuote kept fuel)
    | .char c => if c.toNat < 0x20 then fail .malformed else return p :: (← untilQuote kept fuel)
    | .stray _ => return p :: (← untilQuote kept fuel)

def passString : Reader Unit := do
  let _ ← untilQuote false ((← get).length + 1)

def stringBody : Reader String := do
  match Piece.text? (← untilQuote true ((← get).length + 1)) with
  | some cs => pure (String.ofList cs)
  | none => fail .malformed

def moreItems (item : Reader α) : (fuel : Nat) → Reader (List α)
  | 0 => fail .truncated
  | fuel + 1 => do
    let p ← peekToken
    if p = .char ']' then skip; pure []
    else if p = .char ',' then
      skip
      let first ← item
      return first :: (← moreItems item fuel)
    else fail .malformed

def items (item : Reader α) : Reader (List α) := do
  let fuel := (← get).length + 1
  if (← peekToken) = .char ']' then skip; pure []
  else
    let first ← item
    return first :: (← moreItems item fuel)

def colon : Reader Unit := do
  if (← peekToken) = .char ':' then skip else fail .malformed

def oneMember (key : Reader κ) (step : σ → κ → Reader σ) (state : σ) : Reader σ := do
  if (← peekToken) = .char '"' then
    skip
    step state (← key)
  else fail .malformed

def moreMembers (key : Reader κ) (step : σ → κ → Reader σ) : (fuel : Nat) → σ → Reader σ
  | 0, _ => fail .truncated
  | fuel + 1, state => do
    let p ← peekToken
    if p = .char '\x7d' then skip; pure state
    else if p = .char ',' then
      skip
      moreMembers key step fuel (← oneMember key step state)
    else fail .malformed

/-- Folds over the members of an object, its opening bracket having been read. `step` is given
    each key and reads the colon and the value. -/
def members (key : Reader κ) (step : σ → κ → Reader σ) (state : σ) : Reader σ := do
  let fuel := (← get).length + 1
  if (← peekToken) = .char '\x7d' then skip; pure state
  else moreMembers key step fuel (← oneMember key step state)

def passNumber : Reader Unit := fun input =>
  match StateT.run numeral input with
  | .ok (_, rest) => .ok ((), rest)
  | .error _ => .error .malformed

/-- Passes over a value. It has to be well formed, but its numbers may be out of range, its
    strings no text and its nesting as deep as the text is long. -/
def passValue : (depth : Nat) → Reader Unit
  | 0 => fail .malformed
  | depth + 1 => do
    match ← peekToken with
    | .char 'n' => skip; letters ['u', 'l', 'l']
    | .char 't' => skip; letters ['r', 'u', 'e']
    | .char 'f' => skip; letters ['a', 'l', 's', 'e']
    | .char '"' => skip; passString
    | .char '[' =>
      skip
      let _ ← items (passValue depth)
    | .char '\x7b' =>
      skip
      members passString (fun _ _ => do colon; passValue depth) ()
    | .char c => if c = '-' ∨ c.isDigit then passNumber else fail .malformed
    | .stray _ => fail .malformed

def scalar (p : Piece) : Reader Json :=
  match p with
  | .char 'n' => do skip; letters ['u', 'l', 'l']; pure .null
  | .char 't' => do skip; letters ['r', 'u', 'e']; pure (.bool true)
  | .char 'f' => do skip; letters ['a', 'l', 's', 'e']; pure (.bool false)
  | .char '"' => do skip; return .string (← stringBody)
  | .char c => if c = '-' ∨ c.isDigit then do return .number (← number) else fail .malformed
  | .stray _ => fail .malformed

def value : (depth : Nat) → Reader Json
  | 0 => do
    let p ← peekToken
    if p = .char '[' ∨ p = .char '\x7b' then fail .malformed else scalar p
  | depth + 1 => do
    let p ← peekToken
    if p = .char '[' then
      skip
      return .array (← items (value depth))
    else if p = .char '\x7b' then
      skip
      return .object (← members stringBody (fun sorted key => do
        colon
        return addMember key (← value depth) sorted) [])
    else scalar p

def unexpected (expected : String) : Reader α := do
  let p ← peekToken
  let found : Found ←
    if p = .char '[' then pure .array
    else if p = .char '\x7b' then pure .object
    else (fun j => j.found) <$> scalar p
  fail (.misfit (.kind found expected))

def string : Reader String := do
  if (← peekToken) = .char '"' then skip; stringBody else unexpected "a string"

def finish : Reader Unit := do
  blanks
  if (← get) ≠ [] then fail .malformed

def run (reader : Reader α) (input : List Piece) : Except ReadError α :=
  Prod.fst <$> StateT.run reader input

end Reader

def maxDepth : Nat := 127

def read (input : List Piece) : Except ReadError Json :=
  Reader.run (do let j ← Reader.value maxDepth; Reader.finish; return j) input

end ReachAudit.Json
