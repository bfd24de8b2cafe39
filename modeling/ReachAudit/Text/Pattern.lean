import ReachAudit.Text.Digits

namespace ReachAudit.Text.Pattern

def afterHex? (count : Nat) (cs : List Char) : Option (List Char) :=
  if count ≤ cs.length ∧ ((cs.take count).all fun c => (hexValue? c).isSome) then
    some (cs.drop count)
  else none

/-- What follows the character after a backslash. Letters have to mean something, and word ends are
    not known. -/
def afterEscape? : List Char → Option (List Char)
  | [] => none
  | c :: rest =>
    if "dDsSwWafnrtvAz".toList.contains c then some rest
    else if c = 'x' then afterHex? 2 rest
    else if c = 'u' then afterHex? 4 rest
    else if c = 'U' then afterHex? 8 rest
    else if c = 'p' ∨ c = 'P' then
      if rest.head?.any "CLMNPSZ".toList.contains then some (rest.drop 1) else none
    else if c.isAlphanum ∨ c = '<' ∨ c = '>' ∨ 128 ≤ c.toNat then none
    else some rest

/-- What follows a set of characters in brackets. At the front of a set a bracket that would close
    it stands for itself. `fuel` is the length of the text. -/
def afterSet? : (fuel : Nat) → (depth : Nat) → (atFront : Bool) → List Char → Option (List Char)
  | 0, _, _, _ => none
  | _, _, _, [] => none
  | fuel + 1, depth, atFront, c :: rest =>
    if c = '\\' then (afterEscape? rest).bind (afterSet? fuel depth false)
    else if c = '[' then
      afterSet? fuel (depth + 1) true (if rest.head? = some '^' then rest.drop 1 else rest)
    else if c = ']' ∧ atFront = false then
      if depth = 0 then some rest else afterSet? fuel (depth - 1) false rest
    else
      match rest with
      | '-' :: last :: more =>
        if last = ']' ∨ last = '[' ∨ last = '\\' ∨ last = '-' ∨ c = '-' then
          afterSet? fuel depth false rest
        else if c ≤ last then afterSet? fuel depth false more
        else none
      | _ => afterSet? fuel depth false rest

def isFlags (cs : List Char) : Bool :=
  let (on, off) := cs.span (· ≠ '-')
  let names := on ++ off.tail
  names.all "imsUuxR".toList.contains && names.eraseDups.length = names.length &&
    (off = [] || off.tail ≠ [])

/-- What follows the opening of a group, and whether the group stays open: flags may stand in
    parentheses alone. -/
def afterOpening? (cs : List Char) : Option (Bool × List Char) :=
  let named (rest : List Char) : Option (Bool × List Char) :=
    match rest.span fun c => c.isAlphanum || c = '_' || c = '.' || c = '[' || c = ']' with
    | (first :: _, '>' :: after) =>
      if first.isAlpha ∨ first = '_' then some (true, after) else none
    | _ => none
  match cs with
  | '?' :: 'P' :: '<' :: rest => named rest
  | '?' :: '<' :: rest => named rest
  | '?' :: rest =>
    match rest.span fun c => c ≠ ':' && c ≠ ')' with
    | (flags, ':' :: after) => if isFlags flags then some (true, after) else none
    | (flags, ')' :: after) => if flags ≠ [] ∧ isFlags flags then some (false, after) else none
    | _ => none
  | _ => some (true, cs)

/-- Whether a pattern is in order from here on, with `depth` groups open. `repeats` says whether
    there is something to repeat. `fuel` is the length of the text. -/
def isOrderly : (fuel : Nat) → (depth : Nat) → (repeats : Bool) → List Char → Bool
  | _, depth, _, [] => depth = 0
  | 0, _, _, _ => false
  | fuel + 1, depth, repeats, c :: rest =>
    if c = '(' then
      match afterOpening? rest with
      | some (true, after) => isOrderly fuel (depth + 1) false after
      | some (false, after) => isOrderly fuel depth false after
      | none => false
    else if c = ')' then 0 < depth && isOrderly fuel (depth - 1) true rest
    else if c = '|' then isOrderly fuel depth false rest
    else if c = '*' ∨ c = '+' ∨ c = '?' then
      repeats && isOrderly fuel depth true (if rest.head? = some '?' then rest.drop 1 else rest)
    else if c = '\x7b' then false
    else if c = '[' then
      let inner := if rest.head? = some '^' then rest.drop 1 else rest
      match afterSet? fuel 0 true inner with
      | some after => isOrderly fuel depth true after
      | none => false
    else if c = '\\' then
      match afterEscape? rest with
      | some after => isOrderly fuel depth true after
      | none => false
    else isOrderly fuel depth true rest

end Pattern

def isPattern (cs : List Char) : Bool := Pattern.isOrderly (cs.length + 1) 0 false cs

end ReachAudit.Text
