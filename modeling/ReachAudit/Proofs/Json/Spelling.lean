import ReachAudit.Json.Value
import ReachAudit.Json.Printer
import ReachAudit.Text.Digits

namespace ReachAudit

def Number.InRange : Number → Prop
  | .int n => -(UInt64.size / 2 : Nat) ≤ n ∧ n < UInt64.size
  | .real _ => True

namespace Json

def Blanks (ws : List Char) : Prop := ∀ c ∈ ws, c ∈ [' ', '\t', '\n', '\r']

theorem Blanks.nil : Blanks [] := fun _ member => by cases member

inductive Quad : List Char → Nat → Prop where
  | digits {a b c d : Char} {i j k l : Nat} (first : Text.hexValue? a = some i)
      (second : Text.hexValue? b = some j) (third : Text.hexValue? c = some k)
      (fourth : Text.hexValue? d = some l) :
      Quad [a, b, c, d] (i * 0x1000 + j * 0x100 + k * 0x10 + l)

def shortEscapes : List (Char × Char) :=
  [('"', '"'), ('\\', '\\'), ('/', '/'), ('b', '\x08'), ('f', '\x0c'), ('n', '\n'), ('r', '\r'),
    ('t', '\t')]

/-- What may stand for a character in a string. A character above `U+FFFF` has no escape of its own
    but one of two halves. -/
inductive CharSpelling : List Char → Char → Prop where
  | plain {c : Char} (quote : c ≠ '"') (backslash : c ≠ '\\') (printed : 0x20 ≤ c.toNat) :
      CharSpelling [c] c
  | short {e c : Char} (pair : (e, c) ∈ shortEscapes) : CharSpelling ['\\', e] c
  | code {ds : List Char} {c : Char} (quad : Quad ds c.toNat) : CharSpelling ('\\' :: 'u' :: ds) c
  | halves {ds es : List Char} {high low : Nat} {c : Char} (first : Quad ds high)
      (second : Quad es low) (isHigh : 0xd800 ≤ high ∧ high ≤ 0xdbff)
      (isLow : 0xdc00 ≤ low ∧ low ≤ 0xdfff)
      (value : c.toNat = 0x10000 + (high - 0xd800) * 0x400 + (low - 0xdc00)) :
      CharSpelling ('\\' :: 'u' :: (ds ++ '\\' :: 'u' :: es)) c

inductive Spelling : List Char → List Char → Prop where
  | nil : Spelling [] []
  | cons {text rest cs : List Char} {c : Char} (first : CharSpelling text c)
      (others : Spelling rest cs) : Spelling (text ++ rest) (c :: cs)

def QuotedSpelling (text : List Char) (s : String) : Prop :=
  ∃ inner, text = '"' :: (inner ++ ['"']) ∧ Spelling inner s.toList

structure Laid (α : Type) where
  before : List Char
  text : List Char
  after : List Char
  content : α

namespace Laid

variable {α : Type}

def spelled (e : Laid α) : List Char := e.before ++ (e.text ++ e.after)

structure Tidy (e : Laid α) : Prop where
  before : Blanks e.before
  after : Blanks e.after

end Laid

structure Member where
  key : Laid String
  value : Laid Json

/-- The blanks before the key and after the value stand around the member. -/
def Member.laid (m : Member) : Laid (String × Json) where
  before := m.key.before
  text := m.key.text ++ (m.key.after ++ ':' :: (m.value.before ++ m.value.text))
  after := m.value.after
  content := (m.key.content, m.value.content)

structure Member.Tidy (m : Member) : Prop where
  key : m.key.Tidy
  value : m.value.Tidy
  quoted : QuotedSpelling m.key.text m.key.content

def separated {α : Type} (e : Laid α) (es : List (Laid α)) : List Char :=
  e.spelled ++ es.flatMap fun e => ',' :: e.spelled

inductive ScalarSpelling : List Char → Json → Prop where
  | null : ScalarSpelling ['n', 'u', 'l', 'l'] .null
  | true : ScalarSpelling ['t', 'r', 'u', 'e'] (.bool true)
  | false : ScalarSpelling ['f', 'a', 'l', 's', 'e'] (.bool false)
  | number {n : Int} (range : (Number.int n).InRange) :
      ScalarSpelling (Number.int n).text (.number (.int n))
  | string {text : List Char} {s : String} (quoted : QuotedSpelling text s) :
      ScalarSpelling text (.string s)

/-- The texts that stand for a value, with at most `depth` brackets open at once. The members of an
    object may stand in any order; of those with one key the last one counts. -/
inductive Spells : (depth : Nat) → List Char → Json → Prop where
  | scalar {depth : Nat} {text : List Char} {j : Json} (spelling : ScalarSpelling text j) :
      Spells depth text j
  | noItems {depth : Nat} {ws : List Char} (blank : Blanks ws) :
      Spells (depth + 1) ('[' :: (ws ++ [']'])) (.array [])
  | array {depth : Nat} {e : Laid Json} {es : List (Laid Json)} (tidy : ∀ e' ∈ e :: es, e'.Tidy)
      (spelled : ∀ e' ∈ e :: es, Spells depth e'.text e'.content) :
      Spells (depth + 1) ('[' :: (separated e es ++ [']'])) (.array ((e :: es).map Laid.content))
  | noMembers {depth : Nat} {ws : List Char} (blank : Blanks ws) :
      Spells (depth + 1) ('\x7b' :: (ws ++ ['\x7d'])) (.object [])
  | object {depth : Nat} {m : Member} {ms : List Member} (tidy : ∀ m' ∈ m :: ms, m'.Tidy)
      (spelled : ∀ m' ∈ m :: ms, Spells depth m'.value.text m'.value.content) :
      Spells (depth + 1) ('\x7b' :: (separated m.laid (ms.map Member.laid) ++ ['\x7d']))
        (.ofMembers ((m :: ms).map fun m => m.laid.content))

end Json

end ReachAudit
