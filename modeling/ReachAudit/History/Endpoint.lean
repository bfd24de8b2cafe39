import ReachAudit.History.Store
import ReachAudit.Text.Trim

namespace ReachAudit.History

inductive Selection where
  | all
  | rule (id : RuleId)
  deriving DecidableEq, Repr

inductive Answer (τ : Type) where
  | rows (rows : List (Key × Row τ))
  | badRequest
  | notFound
  | notAllowed

/-- `/history` selects all rows, `/history/<namespace>/<name>` those of a rule. Slashes at the end
    do not count. -/
def Selection.ofPath? (path : String) : Option Selection :=
  let cs := Text.trimEnd (· = '/') path.toList
  if cs = "/history".toList then some .all
  else
    match "/history/".toList.isPrefixOf? cs with
    | none => none
    | some rest =>
      match rest.span (· ≠ '/') with
      | (space, _ :: name) =>
        if space ≠ [] ∧ name ≠ [] ∧ '/' ∉ name then
          some (.rule (.ofResource (String.ofList space) (String.ofList name)))
        else none
      | _ => none

/-- The path of a request's target, which may be absolute, or a bare authority, which has none. A
    target with a blank in it is none. -/
def targetPath? (target : String) : Option String :=
  let cs := target.toList
  let path (cs : List Char) : List Char := cs.takeWhile fun c => c ≠ '?' ∧ c ≠ '#'
  let afterScheme? := (cs.span (· ≠ ':')).2
  if ' ' ∈ cs then none
  else if cs.head? = some '/' ∨ cs = ['*'] then some (String.ofList (path cs))
  else
    match "://".toList.isPrefixOf? afterScheme? with
    | none => some ""
    | some rest =>
      let path := path (rest.dropWhile fun c => c ≠ '/' ∧ c ≠ '?' ∧ c ≠ '#')
      some (if path = [] then "/" else String.ofList path)

def Answer.status {τ : Type} : Answer τ → Nat
  | .rows _ => 200
  | .badRequest => 400
  | .notFound => 404
  | .notAllowed => 405

namespace Store

variable {τ : Type}

def selected (s : Store τ) : Selection → List (Key × Row τ)
  | .all => s.all
  | .rule id => s.byRule id

/-- Answers a request for a path. The path is looked at before the method. -/
def answerPath (s : Store τ) (method path : String) : Answer τ :=
  match Selection.ofPath? path with
  | none => .notFound
  | some selection =>
    if method = "GET" ∨ method = "HEAD" then .rows (s.selected selection) else .notAllowed

def answer (s : Store τ) (method target : String) : Answer τ :=
  match targetPath? target with
  | none => .badRequest
  | some path => s.answerPath method path

end Store

end ReachAudit.History
