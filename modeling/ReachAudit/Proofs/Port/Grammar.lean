import Mathlib
import ReachAudit.Port
import ReachAudit.Proofs.Text.Trimmed

namespace ReachAudit.Port

/-- The specifiers without blanks around them: digits alone are TCP, otherwise the name of a
    protocol, in letters of either case, and a slash stand before the digits. -/
inductive Specifier : List Char → Protocol → List Char → Prop where
  | bare {digits : List Char} (some : digits ≠ []) (number : ∀ d ∈ digits, d.isDigit = true) :
      Specifier digits .tcp digits
  | named {name digits : List Char} {protocol : Protocol}
      (spelled : name.map Char.toLower = protocol.name.toList) (some : digits ≠ [])
      (number : ∀ d ∈ digits, d.isDigit = true) :
      Specifier (name ++ '/' :: digits) protocol digits

/-- What a text means as a port, where the specifier is what is left without the blanks around it.
    An error keeps the text as it was given. -/
inductive Meaning (raw : String) (spec : List Char) : Except PortError Port → Prop where
  | port {p : Port} {digits : List Char} (specifier : Specifier spec p.protocol digits)
      (value : Nat.ofDigitChars 10 digits 0 = p.number) : Meaning raw spec (.ok p)
  | range {protocol : Protocol} {digits : List Char} (specifier : Specifier spec protocol digits)
      (out : Nat.ofDigitChars 10 digits 0 = 0 ∨ 65535 < Nat.ofDigitChars 10 digits 0) :
      Meaning raw spec (.error (.range raw))
  | format (none : ∀ protocol digits, ¬ Specifier spec protocol digits) :
      Meaning raw spec (.error (.format raw))

variable {raw : String} {spec cs ds digits : List Char} {c d : Char} {protocol : Protocol}

theorem toLower_eq_self (plain : c.isAlpha = false) : c.toLower = c := by
  refine Char.toLower_eq_of_not_isUpper fun upper => ?_
  rw [Char.isAlpha, upper] at plain
  cases plain

theorem toLower_eq_iff (plain : d.isAlpha = false) : c.toLower = d ↔ c = d := by
  constructor
  · rintro rfl
    rw [Char.isAlpha_toLower_eq_isAlpha] at plain
    exact (toLower_eq_self plain).symm
  · rintro rfl
    exact toLower_eq_self plain

theorem map_toLower_eq_iff (plain : ∀ d ∈ ds, d.isAlpha = false) :
    cs.map Char.toLower = ds ↔ cs = ds := by
  induction ds generalizing cs with
  | nil => exact List.map_eq_nil_iff
  | cons d ds ih =>
    rw [List.map_eq_cons_iff]
    constructor
    · rintro ⟨c, cs, rfl, first, rest⟩
      rw [(toLower_eq_iff (plain d List.mem_cons_self)).mp first,
        (ih fun d member => plain d (List.mem_cons_of_mem _ member)).mp rest]
    · rintro rfl
      exact ⟨d, ds, rfl, (toLower_eq_iff (plain d List.mem_cons_self)).mpr rfl,
        (ih fun d member => plain d (List.mem_cons_of_mem _ member)).mpr rfl⟩

theorem not_isAlpha_of_isDigit (digit : d.isDigit = true) : d.isAlpha = false := by
  simp only [Char.isDigit, Char.isAlpha, Char.isUpper, Char.isLower] at digit ⊢
  grind [UInt32.le_iff_toNat_le]

theorem map_toLower_eq_digits_iff (number : ∀ d ∈ ds, d.isDigit = true) :
    cs.map Char.toLower = ds ↔ cs = ds :=
  map_toLower_eq_iff fun d member => not_isAlpha_of_isDigit (number d member)

theorem slash_notMem_name (protocol : Protocol) : '/' ∉ protocol.name.toList := by
  cases protocol <;> decide

theorem slash_notMem_digits (number : ∀ d ∈ digits, d.isDigit = true) : '/' ∉ digits := by
  intro member
  have digit := number '/' member
  revert digit
  decide

theorem protocolAndDigits_of_notMem (plain : '/' ∉ spec) :
    protocolAndDigits spec = some (.tcp, spec) := by
  have inside : ∀ c ∈ spec, decide (c ≠ '/') = true := by
    intro c member
    simpa using ne_of_mem_of_not_mem member plain
  rw [protocolAndDigits, List.span_eq_takeWhile_dropWhile,
    List.takeWhile_eq_self_iff.mpr inside, List.dropWhile_eq_nil_iff.mpr inside]

theorem protocolAndDigits_append {name : List Char} (plain : '/' ∉ name) (digits : List Char) :
    protocolAndDigits (name ++ '/' :: digits) =
      if name = ['t', 'c', 'p'] then some (.tcp, digits)
      else if name = ['u', 'd', 'p'] then some (.udp, digits)
      else none := by
  have inside : ∀ c ∈ name, decide (c ≠ '/') = true := by
    intro c member
    simpa using ne_of_mem_of_not_mem member plain
  rw [protocolAndDigits, List.span_eq_takeWhile_dropWhile,
    List.takeWhile_append_of_pos inside, List.dropWhile_append_of_pos inside,
    List.takeWhile_cons_of_neg (by decide), List.dropWhile_cons_of_neg (by decide),
    List.append_nil]

theorem protocolAndDigits_eq_some_iff :
    protocolAndDigits spec = some (protocol, digits) ↔
      (protocol = .tcp ∧ spec = digits ∧ '/' ∉ digits) ∨
        spec = protocol.name.toList ++ '/' :: digits := by
  constructor
  · intro found
    by_cases slash : '/' ∈ spec
    · obtain ⟨name, rest, rfl, plain⟩ := List.eq_append_cons_of_mem slash
      rw [protocolAndDigits_append plain] at found
      split at found
      · next tcp =>
        cases found
        exact Or.inr (by rw [tcp]; rfl)
      · split at found
        · next udp =>
          cases found
          exact Or.inr (by rw [udp]; rfl)
        · cases found
    · rw [protocolAndDigits_of_notMem slash] at found
      cases found
      exact Or.inl ⟨rfl, rfl, slash⟩
  · rintro (⟨rfl, rfl, plain⟩ | rfl)
    · exact protocolAndDigits_of_notMem plain
    · rw [protocolAndDigits_append (slash_notMem_name protocol)]
      cases protocol <;> rfl

/-- Lower case is taken of the whole specifier, yet only the name of the protocol has letters. -/
theorem specifier_iff :
    Specifier spec protocol digits ↔
      protocolAndDigits (spec.map Char.toLower) = some (protocol, digits) ∧
        Text.isDigits digits = true := by
  rw [protocolAndDigits_eq_some_iff, Text.isDigits_iff]
  constructor
  · intro specifier
    cases specifier with
    | bare some number =>
      have lower := (map_toLower_eq_digits_iff number).mpr rfl
      exact ⟨Or.inl ⟨rfl, lower, slash_notMem_digits number⟩, some, number⟩
    | @named name _ _ spelled some number =>
      have lower := (map_toLower_eq_digits_iff number).mpr rfl
      refine ⟨Or.inr ?_, some, number⟩
      rw [List.map_append, List.map_cons, spelled, lower]
      rfl
  · rintro ⟨⟨rfl, lower, _⟩ | lower, some, number⟩
    · rw [(map_toLower_eq_digits_iff number).mp lower]
      exact .bare some number
    · obtain ⟨name, rest, rfl, spelled, lower⟩ := List.map_eq_append_iff.mp lower
      obtain ⟨c, rest, rfl, slash, lower⟩ := List.map_eq_cons_iff.mp lower
      rw [(toLower_eq_iff (by decide)).mp slash, (map_toLower_eq_digits_iff number).mp lower]
      exact .named spelled some number

theorem parts_eq_some_iff :
    parts raw = some (protocol, digits) ↔ Specifier (Text.trim raw.toList) protocol digits := by
  rw [parts, Option.filter_eq_some_iff, specifier_iff]

theorem parts_eq_none_iff :
    parts raw = none ↔
      ∀ protocol digits, ¬ Specifier (Text.trim raw.toList) protocol digits := by
  rw [Option.eq_none_iff_forall_ne_some]
  constructor
  · intro none protocol digits specifier
    exact none (protocol, digits) (parts_eq_some_iff.mpr specifier)
  · rintro none ⟨protocol, digits⟩ found
    exact none protocol digits (parts_eq_some_iff.mp found)

theorem Specifier.unique {protocol' : Protocol} {digits' : List Char}
    (first : Specifier spec protocol digits) (second : Specifier spec protocol' digits') :
    protocol = protocol' ∧ digits = digits' := by
  have found := (specifier_iff.mp first).1.symm.trans (specifier_iff.mp second).1
  cases found
  exact ⟨rfl, rfl⟩

theorem Meaning.unique {o o' : Except PortError Port} (first : Meaning raw spec o)
    (second : Meaning raw spec o') : o = o' := by
  cases first with
  | @port p digits specifier value =>
    have positive := p.number_pos
    have bound := p.number_lt
    cases second with
    | @port p' _ specifier' value' =>
      obtain ⟨same, rfl⟩ := specifier.unique specifier'
      have number := value.symm.trans value'
      cases p
      cases p'
      cases same
      cases number
      rfl
    | range specifier' out =>
      obtain ⟨_, rfl⟩ := specifier.unique specifier'
      omega
    | format none => exact absurd specifier (none _ _)
  | range specifier out =>
    cases second with
    | @port p _ specifier' value =>
      have positive := p.number_pos
      have bound := p.number_lt
      obtain ⟨_, rfl⟩ := specifier.unique specifier'
      omega
    | range _ _ => rfl
    | format none => exact absurd specifier (none _ _)
  | format none =>
    cases second with
    | port specifier _ => exact absurd specifier (none _ _)
    | range specifier _ => exact absurd specifier (none _ _)
    | format _ => rfl

theorem meaning_parse (raw : String) : Meaning raw (Text.trim raw.toList) (parse raw) := by
  cases found : parts raw with
  | none =>
    rw [parse, found]
    exact .format (parts_eq_none_iff.mp found)
  | some part =>
    obtain ⟨protocol, digits⟩ := part
    have specifier := parts_eq_some_iff.mp found
    rw [parse, found]
    dsimp only
    split
    · exact .port specifier rfl
    · exact .range specifier (by omega)

theorem parse_eq_iff {outcome : Except PortError Port} :
    parse raw = outcome ↔ Meaning raw (Text.trim raw.toList) outcome := by
  constructor
  · rintro rfl
    exact meaning_parse raw
  · exact (meaning_parse raw).unique

theorem specifier_of_display {p : Port} (shown : cs.map Char.toLower = p.display.toList) :
    Specifier cs p.protocol (Nat.toDigits 10 p.number) := by
  have display : p.display.toList = p.protocol.name.toList ++ '/' :: Nat.toDigits 10 p.number := by
    rw [Port.display, String.toList_append, String.toList_append, Nat.toList_repr]
    simp
  refine specifier_iff.mpr ⟨?_, Text.isDigits_iff.mpr ⟨Nat.toDigits_ne_nil, fun _ =>
    Nat.isDigit_of_mem_toDigits (by decide) (by decide)⟩⟩
  exact protocolAndDigits_eq_some_iff.mpr (Or.inr (shown.trans display))

theorem not_isBlank_of_isAlphanum (plain : c.isAlphanum = true) : Text.isBlank c = false := by
  have printed : 48 ≤ c.toNat ∧ c.toNat ≤ 122 := by
    simp only [Char.isAlphanum, Char.isAlpha, Char.isUpper, Char.isLower, Char.isDigit] at plain
    grind [UInt32.le_iff_toNat_le, Char.toNat_val]
  simp only [Text.isBlank, Bool.or_eq_false_iff, Bool.and_eq_false_iff, beq_eq_false_iff_ne,
    decide_eq_false_iff_not]
  omega

theorem Specifier.not_isBlank (specifier : Specifier spec protocol digits) :
    ∀ c ∈ spec, Text.isBlank c = false := by
  have numeral {c : Char} (digit : c.isDigit = true) : Text.isBlank c = false :=
    not_isBlank_of_isAlphanum (by rw [Char.isAlphanum, digit, Bool.or_true])
  intro c member
  cases specifier with
  | bare _ number => exact numeral (number c member)
  | named spelled _ number =>
    rcases List.mem_append.mp member with named | rest
    · have lower : c.toLower ∈ protocol.name.toList := spelled ▸ List.mem_map_of_mem named
      have visible : protocol.name.toList.all (fun d => !Text.isBlank d) = true := by
        cases protocol <;> decide
      cases alpha : c.isAlpha with
      | true => exact not_isBlank_of_isAlphanum (by rw [Char.isAlphanum, alpha, Bool.true_or])
      | false =>
        rw [toLower_eq_self alpha] at lower
        simpa using List.all_eq_true.mp visible c lower
    · rcases List.mem_cons.mp rest with rfl | digit
      · decide
      · exact numeral (number c digit)

/-- Blanks around a specifier do not matter, nor does the case of its letters. What is left is a
    port with a number in range, a port with a number out of range, or no port at all; the error
    keeps the specifier as it was given. -/
theorem parse_exact (raw : String) :
    (∃ spec, (∀ inner, Text.TrimsTo Text.isBlank raw.toList inner ↔ inner = spec) ∧
      ∀ outcome, parse raw = outcome ↔ Meaning raw spec outcome) ∧
    ∀ (p : Port) (before shown after : List Char),
      (∀ c ∈ before, Text.isBlank c = true) → (∀ c ∈ after, Text.isBlank c = true) →
      shown.map Char.toLower = p.display.toList →
      parse (String.ofList (before ++ shown ++ after)) = .ok p := by
  refine ⟨⟨Text.trim raw.toList, fun inner => ?_, fun outcome => parse_eq_iff⟩, ?_⟩
  · rw [Text.trimsTo_iff, ← Text.trim]
    exact eq_comm
  · intro p before shown after first last display
    have specifier := specifier_of_display display
    have trims : Text.TrimsTo Text.isBlank (before ++ shown ++ after) shown :=
      ⟨⟨before, after, first, last, rfl⟩,
        fun c head => specifier.not_isBlank c (List.mem_of_head? head),
        fun c end' => specifier.not_isBlank c (List.mem_of_getLast? end')⟩
    refine parse_eq_iff.mpr ?_
    rw [String.toList_ofList, Text.trim, trims.trimEnds_eq]
    exact .port specifier Nat.ofDigitChars_ten_toDigits

end ReachAudit.Port
