import Mathlib.Tactic.SplitIfs
import ReachAudit.Proofs.Json.Values

namespace ReachAudit

open ReachAudit.Text (Piece)

namespace Json

/-- A value in which at most `depth` brackets are open at once. The members of an object stand in
    the order of their keys, each key once. -/
inductive Fits : (depth : Nat) → Json → Prop
  | null {depth} : Fits depth .null
  | bool {depth} (b : Bool) : Fits depth (.bool b)
  | number {depth n} (range : n.InRange) : Fits depth (.number n)
  | string {depth} (s : String) : Fits depth (.string s)
  | array {depth items} (fit : ∀ item ∈ items, Fits depth item) : Fits (depth + 1) (.array items)
  | object {depth members} (ordered : members.Pairwise fun a b => a.1 < b.1)
    (fit : ∀ m ∈ members, Fits depth m.2) : Fits (depth + 1) (.object members)

/-- No number in the value is binary64. -/
inductive Whole : Json → Prop
  | null : Whole .null
  | bool (b : Bool) : Whole (.bool b)
  | number (n : Int) : Whole (.number (.int n))
  | string (s : String) : Whole (.string s)
  | array {items} (whole : ∀ item ∈ items, Whole item) : Whole (.array items)
  | object {members} (whole : ∀ m ∈ members, Whole m.2) : Whole (.object members)

theorem fits_ofStrings (depth : Nat) (ss : List String) : (ofStrings ss).Fits (depth + 1) := by
  refine .array fun item member => ?_
  obtain ⟨s, _, rfl⟩ := List.mem_map.mp member
  exact .string s

theorem whole_ofStrings (ss : List String) : (ofStrings ss).Whole := by
  refine .array fun item member => ?_
  obtain ⟨s, _, rfl⟩ := List.mem_map.mp member
  exact .string s

theorem addMember_greatest {key : String} {members : List (String × Json)}
    (greatest : ∀ m ∈ members, m.1 < key) (value : Json) :
    addMember key value members = members ++ [(key, value)] := by
  induction members with
  | nil => rfl
  | cons m members ih =>
    have first := greatest m List.mem_cons_self
    have distinct : key ≠ m.1 := fun same => String.lt_irrefl _ (same ▸ first)
    rw [addMember, if_neg (String.lt_asymm first), if_neg distinct,
      ih fun k member => greatest k (List.mem_cons_of_mem m member)]
    rfl

theorem foldl_addMember (before : List (String × Json)) {members : List (String × Json)}
    (ordered : (before ++ members).Pairwise fun a b => a.1 < b.1) :
    members.foldl (fun sorted m => addMember m.1 m.2 sorted) before = before ++ members := by
  induction members generalizing before with
  | nil => simp
  | cons m members ih =>
    have greatest : ∀ k ∈ before, k.1 < m.1 :=
      fun k member => (List.pairwise_append.mp ordered).2.2 k member m List.mem_cons_self
    rw [List.append_cons] at ordered
    rw [List.foldl_cons, addMember_greatest greatest, ih _ ordered, ← List.append_cons]

theorem quad_control {n : Nat} (control : n < 0x20) :
    Quad ['0', '0', hexDigit (n / 16), hexDigit n] n := by
  have high : Text.hexValue? (hexDigit (n / 16)) = some (n / 16) := by
    rw [hexDigit, Nat.mod_eq_of_lt (by omega)]
    exact Text.hexValue?_digitChar _ (by omega)
  have low : Text.hexValue? (hexDigit n) = some (n % 16) :=
    Text.hexValue?_digitChar _ (Nat.mod_lt _ (by omega))
  have zero : Text.hexValue? '0' = some 0 := rfl
  have quad := Quad.digits zero zero high low
  have sum : 0 * 0x1000 + 0 * 0x100 + n / 16 * 0x10 + n % 16 = n := by omega
  rwa [sum] at quad

theorem charSpelling_escaped (c : Char) : CharSpelling (escaped c) c := by
  unfold escaped
  split_ifs with quote backslash h3 h4 h5 h6 h7 control
  -- The characters that have an escape of their own.
  iterate 7
    · subst_vars
      exact .short (by decide)
  · exact .code (quad_control control)
  · exact .plain quote backslash (Nat.le_of_not_lt control)

theorem spelling_escaped (cs : List Char) : Spelling (cs.flatMap escaped) cs := by
  induction cs with
  | nil => exact .nil
  | cons c cs ih => exact .cons (charSpelling_escaped c) ih

theorem quoted_stringText (s : String) : QuotedSpelling (stringText s) s :=
  ⟨s.toList.flatMap escaped, rfl, spelling_escaped s.toList⟩

def bare {α : Type} (text : List Char) (content : α) : Laid α := ⟨[], text, [], content⟩

theorem tidy_bare {α : Type} (text : List Char) (content : α) : (bare text content).Tidy :=
  ⟨.nil, .nil⟩

def bareItem (j : Json) : Laid Json := bare j.text j

def bareMember (m : String × Json) : Member := ⟨bare (stringText m.1) m.1, bareItem m.2⟩

theorem tidy_bareMember (m : String × Json) : (bareMember m).Tidy :=
  ⟨tidy_bare _ _, tidy_bare _ _, quoted_stringText m.1⟩

theorem itemsText_cons (item : Json) (items : List Json) :
    itemsText (item :: items) = separated (bareItem item) (items.map bareItem) := by
  induction items generalizing item with
  | nil => simp [itemsText, separated, bareItem, bare, Laid.spelled]
  | cons next items ih => simp [itemsText, ih, separated, bareItem, bare, Laid.spelled]

theorem membersText_cons (m : String × Json) (members : List (String × Json)) :
    membersText (m :: members) =
      separated (bareMember m).laid ((members.map bareMember).map Member.laid) := by
  induction members generalizing m with
  | nil => simp [membersText, separated, Member.laid, bareMember, bareItem, bare, Laid.spelled]
  | cons next members ih =>
    simp only [membersText, ih]
    simp [separated, Member.laid, bareMember, bareItem, bare, Laid.spelled]

theorem spells_items {depth : Nat} {items : List Json}
    (spelled : ∀ j ∈ items, Spells depth j.text j) :
    Spells (depth + 1) (text (.array items)) (.array items) := by
  cases items with
  | nil => exact .noItems .nil
  | cons item items =>
    have tidy : ∀ e ∈ (item :: items).map bareItem, e.Tidy :=
      List.forall_mem_map.mpr fun j _ => tidy_bare j.text j
    have each : ∀ e ∈ (item :: items).map bareItem, Spells depth e.text e.content :=
      List.forall_mem_map.mpr spelled
    have list := Spells.array tidy each
    have contents : ((item :: items).map bareItem).map Laid.content = item :: items := by
      rw [List.map_map]
      exact List.map_id _
    rw [List.map_cons] at contents
    rw [contents, ← itemsText_cons] at list
    exact list

theorem spells_members {depth : Nat} {members : List (String × Json)}
    (ordered : members.Pairwise fun a b => a.1 < b.1)
    (spelled : ∀ m ∈ members, Spells depth m.2.text m.2) :
    Spells (depth + 1) (text (.object members)) (.object members) := by
  cases members with
  | nil => exact .noMembers .nil
  | cons m members =>
    have tidy : ∀ m' ∈ (m :: members).map bareMember, m'.Tidy :=
      List.forall_mem_map.mpr fun m' _ => tidy_bareMember m'
    have each : ∀ m' ∈ (m :: members).map bareMember,
        Spells depth m'.value.text m'.value.content := List.forall_mem_map.mpr spelled
    have object := Spells.object tidy each
    have contents : ((m :: members).map bareMember).map (fun m => m.laid.content) =
        m :: members := by
      rw [List.map_map]
      exact List.map_id _
    rw [List.map_cons] at contents
    rw [contents, ofMembers, foldl_addMember [] ordered, ← membersText_cons] at object
    exact object

theorem Fits.spells {depth : Nat} {j : Json} (fits : j.Fits depth) (whole : j.Whole) :
    Spells depth j.text j := by
  induction fits with
  | null => exact .scalar .null
  | bool b => cases b <;> exact .scalar (by constructor)
  | number range =>
    cases whole with
    | number n => exact .scalar (.number range)
  | string s => exact .scalar (.string (quoted_stringText s))
  | array fit ih =>
    cases whole with
    | array whole => exact spells_items fun j member => ih j member (whole j member)
  | object ordered fit ih =>
    cases whole with
    | object whole => exact spells_members ordered fun m member => ih m member (whole m member)

end Json

end ReachAudit
