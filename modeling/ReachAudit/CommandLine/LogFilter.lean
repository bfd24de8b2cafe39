import ReachAudit.Text.Alphanumeric
import ReachAudit.Text.Blank
import ReachAudit.Text.Pattern

namespace ReachAudit.CommandLine

def levelNames : List String := ["trace", "debug", "info", "warn", "error", "off"]

def isLevel (cs : List Char) : Bool :=
  let digits := match cs with
    | '+' :: rest => rest
    | _ => cs
  cs = [] || levelNames.contains (String.ofList (cs.map Char.toLower)) ||
    (Text.numberBelow? levelNames.length digits).isSome

def isPlusNumber (cs : List Char) : Bool :=
  match cs with
  | '+' :: number =>
    let (mantissa, power) := number.span fun c => c ≠ 'e' && c ≠ 'E'
    let (whole, fraction) := mantissa.span (· ≠ '.')
    let exponent := match power with
      | _ :: '+' :: digits => digits
      | _ :: '-' :: digits => digits
      | _ :: digits => digits
      | [] => ['0']
    ["inf", "infinity", "nan"].contains (String.ofList (number.map Char.toLower)) ||
      (Text.isDigits (whole ++ fraction.tail) && Text.isDigits exponent)
  | _ => false

def isField (cs : List Char) : Bool :=
  match cs.span (· ≠ '=') with
  | (name, []) => name ≠ []
  | (_, _ :: rest) =>
    let value := rest.takeWhile (· ≠ '=')
    isPlusNumber value || Text.isPattern value

def afterSpan? (cs : List Char) : Option (List Char) :=
  match cs.span fun c => c ≠ ']' && c ≠ '\x7b' with
  | (_, ']' :: after) => some after
  | (_, '\x7b' :: rest) =>
    match rest.span (· ≠ '\x7d') with
    | (field, '\x7d' :: ']' :: after) => if isField field then some after else none
    | _ => none
  | _ => none

def isTargetStart (c : Char) : Bool :=
  c = '-' || c = ':' || c = '_' || Text.isAlphanumeric c

/-- One directive: a level, or a target, a span or both, with or without a level after an equals
    sign. Blanks may surround it unless it has such a level. -/
def isDirective (cs : List Char) : Bool :=
  let text := Text.trim cs
  let isEnding : List Char → Bool
    | [] => true
    | '=' :: level => text = cs && isLevel level
    | _ => false
  match text with
  | [] => false
  | '[' :: rest => (afterSpan? rest).any isEnding
  | first :: _ =>
    isTargetStart first &&
      match text.dropWhile fun c => c ≠ '=' && c ≠ '[' with
      | '[' :: rest => (afterSpan? rest).any isEnding
      | rest => isEnding rest

def isLogFilter (s : String) : Bool :=
  (s.toList.splitOn ',').all fun cs => cs = [] || isDirective cs

end ReachAudit.CommandLine
