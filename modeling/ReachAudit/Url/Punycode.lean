namespace ReachAudit.Url.Punycode

def base : Nat := 36
def tMin : Nat := 1
def tMax : Nat := 26

def adapt (delta points : Nat) (first : Bool) : Nat :=
  let start := if first then delta / 700 else delta / 2
  let start := start + start / points
  let limit := (base - tMin) * tMax / 2
  -- Each round divides by more than two, so forty rounds are enough below 2 ^ 64.
  let (k, delta) := (List.range 40).foldl (fun (k, delta) _ =>
    if limit < delta then (k + base, delta / (base - tMin)) else (k, delta)) (0, start)
  k + (base - tMin + 1) * delta / (delta + 38)

def threshold (k bias : Nat) : Nat :=
  if k ≤ bias then tMin else if bias + tMax ≤ k then tMax else k - bias

def digit (n : Nat) : Char :=
  if n < 26 then Char.ofNat ('a'.toNat + n) else Char.ofNat ('0'.toNat + n - 26)

def digit? (c : Char) : Option Nat :=
  if c.isDigit then some (c.toNat - '0'.toNat + 26)
  else if c.isLower then some (c.toNat - 'a'.toNat)
  else if c.isUpper then some (c.toNat - 'A'.toNat)
  else none

theorem threshold_pos (k bias : Nat) : 0 < threshold k bias := by
  unfold threshold tMin tMax
  split
  · omega
  · split <;> omega

/-- A delta as digits, least first, in a base that varies with the place. -/
def encodeDelta (bias k q : Nat) : List Char :=
  let t := threshold k bias
  if q < t then [digit q]
  else digit (t + (q - t) % (base - t)) :: encodeDelta bias (k + base) ((q - t) / (base - t))
  termination_by q
  decreasing_by
    rename_i reached
    have positive := threshold_pos k bias
    have := Nat.div_le_self (q - threshold k bias) (base - threshold k bias)
    omega

structure EncodeState where
  delta : Nat := 0
  bias : Nat := 72
  handled : Nat
  first : Bool := true
  output : List Char := []

def encodePoint (input : List Char) (n : Nat) (s : EncodeState) : EncodeState :=
  input.foldl (fun s c =>
    if c.toNat < n then { s with delta := s.delta + 1 }
    else if c.toNat = n then
      { delta := 0
        bias := adapt s.delta (s.handled + 1) s.first
        handled := s.handled + 1
        first := false
        output := s.output ++ encodeDelta s.bias base s.delta }
    else s) s

def extendedPoints (input : List Char) : List Nat :=
  let sorted := ((input.map Char.toNat).filter (128 ≤ ·)).mergeSort
  sorted.foldr (fun n rest => if rest.head? = some n then rest else n :: rest) []

def encode (input : List Char) : List Char :=
  let basic := input.filter fun c => c.toNat < 128
  let start := if basic = [] then [] else basic ++ ['-']
  let state : EncodeState := { handled := basic.length }
  let (_, state) := (extendedPoints input).foldl (fun (previous, s) n =>
    let s := { s with delta := s.delta + (n - previous) * (s.handled + 1) }
    let s := encodePoint input n s
    (n + 1, { s with delta := s.delta + 1 })) (128, state)
  start ++ state.output

def decodeDelta (bias k weight i : Nat) : List Char → Option (Nat × List Char)
  | [] => none
  | c :: rest => do
    let d ← digit? c
    let i := i + d * weight
    let t := threshold k bias
    if d < t then some (i, rest)
    else decodeDelta bias (k + base) (weight * (base - t)) i rest

theorem decodeDelta_shorter {bias k weight i j : Nat} {cs rest : List Char}
    (h : decodeDelta bias k weight i cs = some (j, rest)) : rest.length < cs.length := by
  induction cs generalizing k weight i with
  | nil => cases h
  | cons c cs ih =>
    simp only [decodeDelta, Option.bind_eq_bind, Option.bind_eq_some_iff] at h
    obtain ⟨d, _, h⟩ := h
    split at h
    · cases h; simp
    · have := ih h
      simp only [List.length_cons]
      omega

def insertAll (n i bias : Nat) (first : Bool) (output : List Char) (cs : List Char) :
    Option (List Char) :=
  if cs = [] then some output
  else
    match _read : decodeDelta bias base 1 i cs with
    | none => none
    | some (j, rest) =>
      let count := output.length + 1
      let n := n + j / count
      let place := j % count
      if n.isValidChar ∧ n < 0x110000 then
        insertAll n (place + 1) (adapt (j - i) count first) false
          (output.take place ++ Char.ofNat n :: output.drop place) rest
      else none
  termination_by cs.length
  decreasing_by exact decodeDelta_shorter _read

def decode (cs : List Char) : Option (List Char) :=
  let reversed := cs.reverse
  let tail := (reversed.takeWhile (· ≠ '-')).reverse
  let basic := ((reversed.dropWhile (· ≠ '-')).drop 1).reverse
  if basic.all (·.toNat < 128) then insertAll 128 0 72 true basic tail else none

end ReachAudit.Url.Punycode
