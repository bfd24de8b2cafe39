import Mathlib.Data.List.TakeDrop
import Mathlib.Data.List.TakeWhile
import ReachAudit.History.Endpoint
import ReachAudit.Proofs.History.Ledger

namespace ReachAudit.History

variable {τ : Type}

def withoutSlashes (path : String) : String := String.ofList (Text.trimEnd (· = '/') path.toList)

theorem withoutSlashes_append (path : String) :
    ∃ n, path = withoutSlashes path ++ String.ofList (List.replicate n '/') := by
  obtain ⟨tail, slashes, split⟩ := Text.trimEnd_append (· = '/') path.toList
  refine ⟨tail.length, String.toList_inj.mp ?_⟩
  have same : tail = List.replicate tail.length '/' :=
    List.eq_replicate_of_mem fun c member => by simpa using slashes c member
  rw [withoutSlashes, String.toList_append, String.toList_ofList, String.toList_ofList, ← same]
  exact split

theorem getLast?_withoutSlashes (path : String) :
    (withoutSlashes path).toList.getLast? ≠ some '/' := by
  intro slash
  rw [withoutSlashes, String.toList_ofList] at slash
  have passes := Text.getLast?_trimEnd slash
  simp at passes

theorem withoutSlashes_eq_self {path : String} (ends : path.toList.getLast? ≠ some '/') :
    withoutSlashes path = path := by
  obtain ⟨n, split⟩ := withoutSlashes_append path
  cases n with
  | zero => exact (split.trans String.append_empty).symm
  | succ n =>
    rw [split, String.toList_append, String.toList_ofList, List.replicate_succ',
      ← List.append_assoc, List.getLast?_concat] at ends
    exact absurd rfl ends

structure IsPart (s : String) : Prop where
  nonempty : s ≠ ""
  plain : '/' ∉ s.toList

/-- What the paths of the endpoint stand for, but for slashes at their end. -/
inductive Selection.Names : String → Selection → Prop where
  | all : Names "/history" .all
  | rule {space name : String} (first : IsPart space) (second : IsPart name) :
    Names ("/history/" ++ RuleId.ofResource space name) (.rule (.ofResource space name))

theorem toList_rulePath (space name : String) :
    ("/history/" ++ RuleId.ofResource space name).toList =
      "/history/".toList ++ (space.toList ++ '/' :: name.toList) := by
  simp only [RuleId.ofResource, String.toList_append]
  rw [List.append_assoc]
  rfl

theorem getLast?_rulePath {space name : String} (second : IsPart name) :
    ("/history/" ++ RuleId.ofResource space name).toList.getLast? ≠ some '/' := by
  intro slash
  have some_last : name.toList ≠ [] := by simpa using second.nonempty
  rw [toList_rulePath, List.getLast?_append_of_ne_nil _ (by simp),
    List.getLast?_append_of_ne_nil _ (by simp), List.getLast?_cons_of_ne_nil some_last] at slash
  exact second.plain (List.mem_of_getLast? slash)

theorem span_slash {space : List Char} (plain : '/' ∉ space) (name : List Char) :
    (space ++ '/' :: name).span (· ≠ '/') = (space, '/' :: name) := by
  have inside : ∀ c ∈ space, decide (c ≠ '/') = true := by
    intro c member
    simpa using ne_of_mem_of_not_mem member plain
  rw [List.span_eq_takeWhile_dropWhile, List.takeWhile_append_of_pos inside,
    List.dropWhile_append_of_pos inside, List.takeWhile_cons_of_neg (by decide),
    List.dropWhile_cons_of_neg (by decide), List.append_nil]

theorem eq_of_span_slash {rest space name : List Char} {c : Char}
    (split : rest.span (· ≠ '/') = (space, c :: name)) :
    rest = space ++ '/' :: name ∧ '/' ∉ space := by
  rw [List.span_eq_takeWhile_dropWhile, Prod.mk.injEq] at split
  obtain ⟨rfl, after⟩ := split
  have stops := List.head?_dropWhile_not (· ≠ '/') rest
  rw [after] at stops
  obtain rfl : c = '/' := by simpa using stops
  constructor
  · rw [← after, List.takeWhile_append_dropWhile]
  · intro member
    have passes := List.mem_takeWhile_imp member
    simp at passes

theorem withoutSlashes_eq_iff {path core : String} :
    withoutSlashes path = core ↔ Text.trimEnd (· = '/') path.toList = core.toList := by
  rw [withoutSlashes, ← String.toList_inj, String.toList_ofList]

theorem names_of_ofPath? {path : String} {selection : Selection}
    (found : Selection.ofPath? path = some selection) : selection.Names (withoutSlashes path) := by
  simp only [Selection.ofPath?] at found
  split at found
  · rename_i whole
    cases found
    rw [withoutSlashes_eq_iff.mpr whole]
    exact .all
  · split at found
    · cases found
    · rename_i rest begins
      split at found
      · rename_i space c name split
        obtain ⟨rfl, plain⟩ := eq_of_span_slash split
        split at found
        · rename_i parts
          cases found
          have first : (String.ofList space).toList = space := String.toList_ofList
          have second : (String.ofList name).toList = name := String.toList_ofList
          have same : withoutSlashes path =
              "/history/" ++ RuleId.ofResource (String.ofList space) (String.ofList name) := by
            rw [withoutSlashes_eq_iff, toList_rulePath, first, second]
            exact (List.isPrefixOf?_eq_some_iff_append_eq.mp begins).symm
          rw [same]
          refine .rule ⟨?_, ?_⟩ ⟨?_, ?_⟩
          · simpa using parts.1
          · simpa using plain
          · simpa using parts.2.1
          · simpa using parts.2.2
        · cases found
      · cases found

theorem ofPath?_of_names {path : String} {selection : Selection}
    (names : selection.Names (withoutSlashes path)) : Selection.ofPath? path = some selection := by
  generalize core : withoutSlashes path = text at names
  rw [withoutSlashes_eq_iff] at core
  cases names with
  | all => simp only [Selection.ofPath?, core, if_true]
  | @rule space name first second =>
    rw [toList_rulePath] at core
    have longer : "/history/".toList ++ (space.toList ++ '/' :: name.toList) ≠
        "/history".toList := by
      intro same
      have lengths := congrArg List.length same
      simp at lengths
    have begins : "/history/".toList.isPrefixOf?
        ("/history/".toList ++ (space.toList ++ '/' :: name.toList)) =
          some (space.toList ++ '/' :: name.toList) :=
      List.isPrefixOf?_eq_some_iff_append_eq.mpr rfl
    have parts : space.toList ≠ [] ∧ name.toList ≠ [] ∧ '/' ∉ name.toList := by
      refine ⟨?_, ?_, second.plain⟩
      · simpa using first.nonempty
      · simpa using second.nonempty
    simp only [Selection.ofPath?, core, if_neg longer, begins, span_slash first.plain, if_pos parts,
      String.ofList_toList]

theorem ofPath?_eq_some_iff {path : String} {selection : Selection} :
    Selection.ofPath? path = some selection ↔ selection.Names (withoutSlashes path) :=
  ⟨names_of_ofPath?, ofPath?_of_names⟩

def InOrder (rows : List (Key × Row τ)) : Prop :=
  rows.Pairwise fun a b => a.1.before b.1 = true ∧ a.1 ≠ b.1

theorem InOrder.eq_of_mem_iff {xs ys : List (Key × Row τ)} (hx : InOrder xs) (hy : InOrder ys)
    (same : ∀ e, e ∈ xs ↔ e ∈ ys) : xs = ys := by
  have distinct {rows : List (Key × Row τ)} (ordered : InOrder rows) : rows.Nodup :=
    ordered.imp fun both equal => both.2 (congrArg Prod.fst equal)
  have perm : xs.Perm ys := (List.perm_ext_iff_of_nodup (distinct hx) (distinct hy)).mpr same
  refine List.Perm.eq_of_pairwise ?_ hx hy perm
  intro a b _ _ forth back
  exact absurd (Key.before_antisymm forth.1 back.1) forth.2

namespace Store

variable {s : Store τ}

theorem Placed.inOrder_select (placed : s.Placed) (p : Key → Bool) : InOrder (s.select p) :=
  (sorted_mergeSort _).and (List.pairwise_map.mp (placed.nodup_keys p))

def ruleIds (s : Store τ) : List RuleId := (NameSet.ofList (s.all.map (·.1.rule))).toList

theorem mem_ruleIds {id : RuleId} :
    id ∈ s.ruleIds ↔ ∃ key row, s.Holds key row ∧ key.rule = id := by
  have listed : id ∈ s.ruleIds ↔ id ∈ s.all.map (·.1.rule) := NameSet.mem_ofList
  rw [listed, List.mem_map]
  constructor
  · rintro ⟨⟨key, row⟩, member, own⟩
    exact ⟨key, row, mem_all.mp member, own⟩
  · rintro ⟨key, row, stored, own⟩
    exact ⟨(key, row), mem_all.mpr stored, own⟩

theorem Placed.all_eq_flatMap (placed : s.Placed) : s.all = s.ruleIds.flatMap s.byRule := by
  have grouped : InOrder (s.ruleIds.flatMap s.byRule) := by
    rw [InOrder, List.pairwise_flatMap]
    refine ⟨fun id _ => placed.inOrder_select _, ?_⟩
    refine (NameSet.ofList (s.all.map (·.1.rule))).rising.imp ?_
    intro a b below x inFirst y inSecond
    have first : x.1.rule = a := (mem_byRule.mp inFirst).2
    have second : y.1.rule = b := (mem_byRule.mp inSecond).2
    rw [← first, ← second] at below
    constructor
    · rw [Key.before, Key.parts, Key.parts, Key.namesBefore_cons]
      exact Or.inl below
    · intro same
      rw [same] at below
      exact String.lt_irrefl _ below
  refine (placed.inOrder_select _).eq_of_mem_iff grouped fun e => ?_
  obtain ⟨key, row⟩ := e
  change (key, row) ∈ s.all ↔ _
  rw [mem_all, List.mem_flatMap]
  constructor
  · intro stored
    exact ⟨key.rule, mem_ruleIds.mpr ⟨key, row, stored, rfl⟩, mem_byRule.mpr ⟨stored, rfl⟩⟩
  · rintro ⟨id, _, member⟩
    exact (mem_byRule.mp member).1

end Store

def plainSign (c : Char) : Bool := c.isAlphanum || "-._~!$&\x27()*+,;=:@".toList.contains c

theorem not_mem_of_plainSign {c : Char} (plain : plainSign c = true) :
    c ∉ ['/', '?', '#', ' '] := by
  simp only [List.mem_cons, List.not_mem_nil, or_false]
  rintro (rfl | rfl | rfl | rfl) <;> exact absurd plain (by decide)

structure IsPlainPart (s : String) : Prop where
  nonempty : s ≠ ""
  plain : ∀ c ∈ s.toList, plainSign c = true

theorem IsPlainPart.isPart {s : String} (part : IsPlainPart s) : IsPart s where
  nonempty := part.nonempty
  plain slash := not_mem_of_plainSign (part.plain '/' slash) (by simp)

/-- The id of a resource whose namespace and name need no escaping in a path. -/
inductive IsPlainId : RuleId → Prop where
  | intro {space name : String} (first : IsPlainPart space) (second : IsPlainPart name) :
    IsPlainId (.ofResource space name)

theorem targetPath?_eq {target : String} (rooted : target.toList.head? = some '/')
    (plain : ∀ c ∈ target.toList, c ∉ ['?', '#', ' ']) : targetPath? target = some target := by
  have whole : target.toList.takeWhile (fun c => decide (c ≠ '?' ∧ c ≠ '#')) = target.toList := by
    refine List.takeWhile_eq_self_iff.mpr fun c member => ?_
    have := plain c member
    simp_all
  have unbroken : ' ' ∉ target.toList := fun blank => plain ' ' blank (by simp)
  simp only [targetPath?, if_neg unbroken, rooted, true_or, if_true, whole, String.ofList_toList]

theorem targetPath?_rulePath {space name : String} (first : IsPlainPart space)
    (second : IsPlainPart name) :
    targetPath? ("/history/" ++ RuleId.ofResource space name) =
      some ("/history/" ++ RuleId.ofResource space name) := by
  have letters := toList_rulePath space name
  have fixed : "/history/".toList.all (fun c => c ∉ ['?', '#', ' ']) = true := by decide
  have inner {s : String} (part : IsPlainPart s) : ∀ c ∈ s.toList, c ∉ ['?', '#', ' '] :=
    fun c member special =>
      not_mem_of_plainSign (part.plain c member) (List.mem_cons_of_mem _ special)
  refine targetPath?_eq ?_ ?_
  · rw [letters]
    rfl
  · intro c member
    rw [letters, List.mem_append, List.mem_append, List.mem_cons] at member
    rcases member with inPrefix | inSpace | rfl | inName
    · exact of_decide_eq_true (List.all_eq_true.mp fixed c inPrefix)
    · exact inner first c inSpace
    · decide
    · exact inner second c inName

def Answer.listed (answer : Answer τ) : List (Key × Row τ) :=
  match answer with
  | .rows listed => listed
  | _ => []

def Selection.Takes : Selection → Key → Prop
  | .all, _ => True
  | .rule id, key => key.rule = id

namespace Store

variable {s : Store τ}

theorem answerPath_of_names {selection : Selection} {method path : String}
    (names : selection.Names (withoutSlashes path)) :
    s.answerPath method path =
      if method = "GET" ∨ method = "HEAD" then .rows (s.selected selection) else .notAllowed := by
  rw [answerPath, ofPath?_eq_some_iff.mpr names]

theorem answerPath_of_unnamed {method path : String}
    (unnamed : ∀ selection : Selection, ¬ selection.Names (withoutSlashes path)) :
    s.answerPath method path = .notFound := by
  have none : Selection.ofPath? path = none :=
    Option.eq_none_iff_forall_ne_some.mpr fun selection found =>
      unnamed selection (ofPath?_eq_some_iff.mp found)
  rw [answerPath, none]

theorem Placed.lists_selected (placed : s.Placed) (selection : Selection) :
    (s.selected selection).Pairwise (fun a b => a.1.Precedes b.1) ∧
      ∀ key row, (key, row) ∈ s.selected selection ↔
        s.get? key = some row ∧ selection.Takes key := by
  constructor
  · have ordered : InOrder (s.selected selection) := by
      cases selection with
      | all => exact placed.inOrder_select fun _ => true
      | rule id => exact placed.inOrder_select fun key => key.rule = id
    exact ordered.imp fun both => Key.precedes_of_before both.1 both.2
  · intro key row
    cases selection with
    | all => simp only [selected, mem_all, placed.holds_iff, Selection.Takes, and_true]
    | rule id => simp only [selected, mem_byRule, placed.holds_iff, Selection.Takes]

theorem answer_all : s.answer "GET" "/history" = .rows s.all := rfl

theorem answer_rule {id : RuleId} (plain : IsPlainId id) :
    s.answer "GET" ("/history/" ++ id) = .rows (s.byRule id) := by
  obtain @⟨space, name, first, second⟩ := plain
  have names : (Selection.rule (.ofResource space name)).Names
      (withoutSlashes ("/history/" ++ RuleId.ofResource space name)) := by
    rw [withoutSlashes_eq_self (getLast?_rulePath second.isPart)]
    exact .rule first.isPart second.isPart
  rw [answer, targetPath?_rulePath first second]
  exact answerPath_of_names names

theorem existsUnique_target {e : Key × Row τ} (member : e ∈ s.all) (plain : IsPlainId e.1.rule) :
    ∃! id, IsPlainId id ∧ e ∈ (s.answer "GET" ("/history/" ++ id)).listed := by
  refine ⟨e.1.rule, ⟨plain, ?_⟩, ?_⟩
  · rw [answer_rule plain]
    exact mem_byRule.mpr ⟨mem_all.mp member, rfl⟩
  · intro id both
    rw [answer_rule both.1] at both
    exact (mem_byRule.mp both.2).2.symm

end Store

/-- A request for `/history` is answered with all rows and one for `/history/<namespace>/<name>`
    with those of the rule, in the order of their keys and whatever slashes follow. Every other path
    is not found. Where the names of the rules need no escaping, all rows are those of one rule after
    those of another, and every row has one path of a rule under which it is returned. -/
theorem endpoint_covers_once (hash : Key → Nat) (shards : Nat) (operations : List (Operation τ)) :
    let s := after Store.perform (Store.new hash shards) operations
    (∀ method path,
      let core := withoutSlashes path
      let answer := s.answerPath method path
      (∃ n, path = core ++ String.ofList (List.replicate n '/')) ∧
      core.toList.getLast? ≠ some '/' ∧
      (∀ selection : Selection, selection.Names core →
        if method = "GET" ∨ method = "HEAD" then
          answer.status = 200 ∧ answer = .rows (s.selected selection)
        else answer.status = 405) ∧
      ((∀ selection : Selection, ¬ selection.Names core) → answer.status = 404)) ∧
    (∀ selection, (s.selected selection).Pairwise (fun a b => a.1.Precedes b.1) ∧
      ∀ key row, (key, row) ∈ s.selected selection ↔
        s.get? key = some row ∧ selection.Takes key) ∧
    (s.ruleIds.Pairwise (· < ·) ∧
      ∀ id, id ∈ s.ruleIds ↔ ∃ key row, s.get? key = some row ∧ key.rule = id) ∧
    ((∀ key row, s.get? key = some row → IsPlainId key.rule) →
      s.answer "GET" "/history" = .rows s.all ∧
      (∀ id ∈ s.ruleIds, s.answer "GET" ("/history/" ++ id) = .rows (s.byRule id)) ∧
      s.all = s.ruleIds.flatMap (fun id => (s.answer "GET" ("/history/" ++ id)).listed) ∧
      ∀ e ∈ s.all, ∃! id, IsPlainId id ∧ e ∈ (s.answer "GET" ("/history/" ++ id)).listed) := by
  intro s
  have placed : s.Placed := ((Store.Mirrors.new hash shards).after operations).placed
  have present (id : RuleId) :
      id ∈ s.ruleIds ↔ ∃ key row, s.get? key = some row ∧ key.rule = id := by
    simp only [Store.mem_ruleIds, placed.holds_iff]
  refine ⟨fun method path => ⟨?_, ?_, ?_, ?_⟩, placed.lists_selected, ⟨?_, present⟩, ?_⟩
  · exact withoutSlashes_append path
  · exact getLast?_withoutSlashes path
  · intro selection names
    rw [Store.answerPath_of_names names]
    split <;> simp [Answer.status]
  · intro unnamed
    rw [Store.answerPath_of_unnamed unnamed]
    rfl
  · exact NameSet.rising _
  · intro plain
    have own (id : RuleId) (member : id ∈ s.ruleIds) : IsPlainId id := by
      obtain ⟨key, row, stored, rfl⟩ := (present id).mp member
      exact plain key row stored
    refine ⟨Store.answer_all, fun id member => Store.answer_rule (own id member), ?_, ?_⟩
    · rw [placed.all_eq_flatMap]
      refine List.flatMap_congr fun id member => ?_
      rw [Store.answer_rule (own id member)]
      rfl
    · rintro ⟨key, row⟩ member
      exact Store.existsUnique_target member
        (plain key row (placed.holds_iff.mp (Store.mem_all.mp member)))

def sampleOperations : List (Operation Nat) :=
  let row : Row Nat := {
    nodeName := "node-a", nodeAddress := {}, proxied := false, generation := 0, status := .success
    createdAt := 0, updatedAt := 0 }
  [("ns/r2", "10.0.0.1"), ("ns/r1", "10.0.0.2"), ("ns/r2", "10.0.0.0")].map fun (rule, address) =>
    .upsert { rule, node := "uid-1", address, port := some "443" } row

theorem endpoint_covers_once_sample :
    let s := after Store.perform (Store.new Key.checksum 3) sampleOperations
    let answer := s.answerPath "HEAD" "/history/ns/r2//"
    Selection.Names (withoutSlashes "/history/ns/r2//") (.rule "ns/r2") ∧
    (answer.status = 200 ∧ answer = .rows (s.byRule "ns/r2")) ∧
    (∀ selection : Selection, ¬ selection.Names (withoutSlashes "/history/ns")) ∧
    (s.answerPath "POST" "/history/ns").status = 404 ∧
    (∀ key row, s.get? key = some row → IsPlainId key.rule) ∧
    s.all = s.ruleIds.flatMap fun id => (s.answer "GET" ("/history/" ++ id)).listed := by
  intro s answer
  have placed : s.Placed := ((Store.Mirrors.new Key.checksum 3).after sampleOperations).placed
  obtain ⟨routes, -, -, covers⟩ := endpoint_covers_once Key.checksum 3 sampleOperations
  have named : Selection.Names (withoutSlashes "/history/ns/r2//") (.rule "ns/r2") :=
    ofPath?_eq_some_iff.mp (by decide)
  have unnamed (selection : Selection) : ¬ selection.Names (withoutSlashes "/history/ns") := by
    intro names
    have found := ofPath?_eq_some_iff.mpr names
    rw [show Selection.ofPath? "/history/ns" = none by decide] at found
    cases found
  have plain (key : Key) (row : Row Nat) (stored : s.get? key = some row) : IsPlainId key.rule := by
    have rules : ∀ shard ∈ s.shards, ∀ e ∈ shard.entries,
        e.1.rule = "ns/r1" ∨ e.1.rule = "ns/r2" := by decide +kernel
    have part {name : String} (nonempty : name ≠ "") (signs : name.toList.all plainSign = true) :
        IsPlainPart name := ⟨nonempty, List.all_eq_true.mp signs⟩
    have space : IsPlainPart "ns" := part (by decide) (by decide)
    obtain ⟨shard, member, found⟩ := placed.holds_iff.mpr stored
    rcases rules shard member _ ((Table.get?_eq_some _).mp found) with own | own
    · exact own ▸ .intro space (part (by decide) (by decide) : IsPlainPart "r1")
    · exact own ▸ .intro space (part (by decide) (by decide) : IsPlainPart "r2")
  exact ⟨named, (routes "HEAD" "/history/ns/r2//").2.2.1 _ named, unnamed,
    (routes "POST" "/history/ns").2.2.2 unnamed, plain, (covers plain).2.2.1⟩

end ReachAudit.History
