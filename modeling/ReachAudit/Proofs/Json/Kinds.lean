import ReachAudit.Json.Shape

namespace ReachAudit.Json

variable {α : Type} {j : Json}

def IsBool (j : Json) : Prop := ∃ b, j = .bool b

def IsString (j : Json) : Prop := ∃ s, j = .string s

def IsWord (j : Json) : Prop := ∃ n : Int, 0 ≤ n ∧ n < 4294967296 ∧ j = .number (.int n)

def IsList (p : Json → Prop) (j : Json) : Prop := ∃ items, j = .array items ∧ ∀ item ∈ items, p item

theorem IsList.of_mem {p : Json → Prop} {items : List Json} {item : Json}
    (list : IsList p (.array items)) (member : item ∈ items) : p item := by
  obtain ⟨items', same, each⟩ := list
  cases same
  exact each item member

theorem toNat_ofInt {n : Int} (least : 0 ≤ n) (bound : n < UInt32.size) :
    ((UInt32.ofNat n.toNat).toNat : Int) = n := by
  have small : n.toNat < UInt32.size := (Int.toNat_lt least).mpr bound
  rw [UInt32.toNat_ofNat_of_lt' small, Int.toNat_of_nonneg least]

theorem isWord_iff : j.IsWord ↔ ∃ n : UInt32, j = ofNat n.toNat := by
  constructor
  · intro ⟨n, least, bound, same⟩
    apply Exists.intro (UInt32.ofNat n.toNat)
    rw [same, ofNat, toNat_ofInt least bound]
  · intro ⟨n, same⟩
    have bound := n.toNat_lt
    exact ⟨n.toNat, by omega, by omega, same⟩

theorem asWord32_eq_ok_iff {n : UInt32} : j.asWord32 = .ok n ↔ j = ofNat n.toNat := by
  constructor
  · intro read
    unfold asWord32 at read
    split at read
    · split at read
      · rename_i i range
        cases read
        rw [ofNat, toNat_ofInt range.1 range.2]
      · cases read
    · cases read
  · intro same
    have range : (0 : Int) ≤ n.toNat ∧ (n.toNat : Int) < UInt32.size :=
      ⟨Int.natCast_nonneg _, Int.ofNat_lt.mpr n.toNat_lt_size⟩
    rw [same, ofNat, asWord32, if_pos range, Int.toNat_natCast, UInt32.ofNat_toNat]

theorem asOptional_of_ne_null {element : Json → Shaped α} (other : j ≠ .null) :
    j.asOptional element = some <$> element j := by
  cases j with
  | null => contradiction
  | _ => rfl

/-- The values that stand for the terms of a type: how they are read, how they are written, and
    which they are. -/
structure Kind (α : Type) where
  read : Json → Shaped α
  write : α → Json
  Fits : Json → Prop
  read_iff : ∀ j a, read j = .ok a ↔ j = write a
  fits_iff : ∀ j, Fits j ↔ ∃ a, j = write a

namespace Kind

variable (k : Kind α)

theorem read_write (a : α) : k.read (k.write a) = .ok a := (k.read_iff _ a).mpr rfl

theorem write_eq_iff {a b : α} : k.write a = k.write b ↔ a = b := by
  constructor
  · intro same
    have read := k.read_write a
    rw [same, k.read_write] at read
    exact (Except.ok.inj read).symm
  · exact congrArg k.write

theorem eq_map_of_mapM_read {items : List Json} {as : List α}
    (read : items.mapM k.read = .ok as) : items = as.map k.write := by
  induction items generalizing as with
  | nil =>
    cases read
    rfl
  | cons item items ih =>
    rw [List.mapM_cons] at read
    cases first : k.read item with
    | error e =>
      rw [first] at read
      cases read
    | ok a =>
      cases rest : items.mapM k.read with
      | error e =>
        rw [first, rest] at read
        cases read
      | ok others =>
        rw [first, rest] at read
        cases read
        rw [(k.read_iff item a).mp first, ih rest, List.map_cons]

theorem mapM_read_map (as : List α) : (as.map k.write).mapM k.read = .ok as := by
  have each : k.read ∘ k.write = fun a => pure a := funext k.read_write
  rw [List.mapM_map, each, List.mapM_pure, List.map_id']
  rfl

theorem isList_iff : IsList k.Fits j ↔ ∃ as : List α, j = .array (as.map k.write) := by
  constructor
  · intro ⟨items, same, each⟩
    subst same
    induction items with
    | nil => exact ⟨[], rfl⟩
    | cons item items ih =>
      obtain ⟨a, rfl⟩ := (k.fits_iff item).mp (each item List.mem_cons_self)
      obtain ⟨as, same⟩ := ih fun other member => each other (List.mem_cons_of_mem _ member)
      exact ⟨a :: as, congrArg (fun items => array (k.write a :: items)) (array.inj same)⟩
  · intro ⟨as, same⟩
    apply Exists.intro (as.map k.write)
    apply And.intro same
    intro item member
    obtain ⟨a, _, rfl⟩ := List.mem_map.mp member
    exact (k.fits_iff _).mpr ⟨a, rfl⟩

def list : Kind (List α) where
  read := asList k.read
  write as := .array (as.map k.write)
  Fits := IsList k.Fits
  read_iff j as := by
    cases j with
    | array items =>
      rw [asList, array.injEq]
      constructor
      · exact k.eq_map_of_mapM_read
      · intro same
        rw [same, k.mapM_read_map]
    | _ => simp [asList, misfit]
  fits_iff _ := k.isList_iff

def optional (notNull : ∀ a, k.write a ≠ .null) : Kind (Option α) where
  read := asOptional k.read
  write a := (a.map k.write).getD .null
  Fits j := j = .null ∨ k.Fits j
  read_iff j a := by
    by_cases null : j = .null
    · subst null
      cases a with
      | none => simp [asOptional]
      | some a => simp [asOptional, (notNull a).symm]
    · rw [asOptional_of_ne_null null]
      cases a with
      | none => cases k.read j <;> simp [Functor.map, Except.map, null]
      | some a =>
        rw [Option.map_some, Option.getD_some, ← k.read_iff]
        cases k.read j <;> simp [Functor.map, Except.map]
  fits_iff j := by
    rw [k.fits_iff, Option.exists]
    rfl

def bool : Kind Bool where
  read := asBool
  write := .bool
  Fits := IsBool
  read_iff j b := by cases j <;> simp [asBool, misfit]
  fits_iff _ := .rfl

def string : Kind String where
  read := asString
  write := .string
  Fits := IsString
  read_iff j s := by cases j <;> simp [asString, misfit]
  fits_iff _ := .rfl

def word : Kind UInt32 where
  read := asWord32
  write n := ofNat n.toNat
  Fits := IsWord
  read_iff _ _ := asWord32_eq_ok_iff
  fits_iff _ := isWord_iff

def strings : Kind (List String) := string.list

def words : Kind (List UInt32) := word.list

def text? : Kind (Option String) := string.optional fun _ same => by cases same

end Kind

end ReachAudit.Json
