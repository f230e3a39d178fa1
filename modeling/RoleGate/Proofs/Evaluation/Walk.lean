import Mathlib.Data.List.Forall2
import RoleGate.Proofs.Evaluation.Leaves
import RoleGate.Proofs.Evaluation.Resolution

/-! The way of an evaluation through the leaves.

It goes from left to right. A leaf is skipped if it is in an operand that cannot matter any more, or
behind a leaf that failed; each of the others either makes one query or ends the evaluation with its
mistake. So the queries and the result depend on the source by its answers to these queries alone.
-/

set_option autoImplicit false

namespace RoleGate

inductive BinaryOp.SettledBy : BinaryOp → Except AccessError Bool → Prop where
  | and : SettledBy .and (.ok false)
  | or : SettledBy .or (.ok true)

theorem BinaryOp.settledBy_iff {op : BinaryOp} {result : Except AccessError Bool} :
    op.SettledBy result ↔ result = .ok op.settling := by
  constructor
  · rintro (_ | _) <;> rfl
  · rintro rfl
    cases op with
    | and => exact .and
    | or => exact .or

/-- How an evaluation ends: with a value, or with the mistake of the leaf at which it failed. -/
inductive EndsAt (models : Registry) (context : Context) :
    Option Leaf → Except AccessError Bool → Prop where
  | value (value : Bool) : EndsAt models context none (.ok value)
  | leaf {leaf : Leaf} {error : AccessError} (fails : leaf.atom.FailsWith models context error) :
    EndsAt models context (some leaf) (.error error)

namespace EndsAt

variable {models : Registry} {context : Context} {failed? : Option Leaf}
  {result : Except AccessError Bool}

theorem below (turn : Turn) (ends : EndsAt models context failed? result) :
    EndsAt models context (failed?.map (Leaf.below turn)) result := by
  cases ends with
  | value value => exact .value value
  | leaf fails => exact .leaf fails

theorem map (f : Bool → Bool) (ends : EndsAt models context failed? result) :
    EndsAt models context failed? (result.map f) := by
  cases ends with
  | value value => exact .value (f value)
  | leaf fails => exact .leaf fails

end EndsAt

namespace Expr

section
variable (source : RoleSource) (models : Registry) (context : Context)

/-- On the way along the path there is a turn into a right operand that cannot matter. -/
def Bypasses (tree : Expr) (path : List Turn) : Prop :=
  ∃ above left op right, above ++ [.right] <+: path ∧
    tree.at? above = some (.binary left op right) ∧
    op.SettledBy (left.evaluate source models context).result

def Skips (tree : Expr) (failed? : Option Leaf) (leaf : Leaf) : Prop :=
  tree.Bypasses source models context leaf.path ∨ ∃ failed ∈ failed?, failed.IsLeftOf leaf

/-- The leaves that an evaluation asks about, one after another, and the one at which it fails, if
there is one. -/
structure Walk (tree : Expr) (asked : List Leaf) (failed? : Option Leaf) : Prop where
  sublist : (asked ++ failed?.toList).Sublist tree.leaves
  skipped : ∀ leaf ∈ tree.leaves,
    leaf ∉ asked ++ failed?.toList ↔ tree.Skips source models context failed? leaf
  queries : List.Forall₂ (fun leaf query => leaf.atom.Asks source models context query) asked
    (tree.evaluate source models context).queries
  ends : EndsAt models context failed? (tree.evaluate source models context).result

end

variable {source other : RoleSource} {models : Registry} {context : Context}
  {tree left right : Expr} {op : BinaryOp} {asked more : List Leaf} {failed? : Option Leaf}

/-! ### Operands -/

theorem result_cases (op : BinaryOp) (result : Except AccessError Bool) :
    (∃ error, result = .error error) ∨ result = .ok op.settling ∨ result = .ok (!op.settling) := by
  cases result with
  | error error => exact .inl ⟨error, rfl⟩
  | ok value => exact .inr (by cases value <;> cases op <;> simp [BinaryOp.settling])

theorem evaluate_binary_of_error {error : AccessError}
    (failed : (left.evaluate source models context).result = .error error) :
    (binary left op right).evaluate source models context =
      left.evaluate source models context := by
  rw [evaluate]
  cases run : left.evaluate source models context with
  | mk result queries =>
    obtain rfl : result = .error error := by rw [← failed, run]
    rfl

theorem evaluate_binary_of_settling
    (settled : (left.evaluate source models context).result = .ok op.settling) :
    (binary left op right).evaluate source models context =
      left.evaluate source models context := by
  rw [evaluate]
  cases run : left.evaluate source models context with
  | mk result queries =>
    obtain rfl : result = .ok op.settling := by rw [← settled, run]
    simp [Run.bind, Run.pure]

theorem evaluate_binary_of_open
    (unsettled : (left.evaluate source models context).result = .ok (!op.settling)) :
    (binary left op right).evaluate source models context =
      ⟨(right.evaluate source models context).result,
        (left.evaluate source models context).queries ++
          (right.evaluate source models context).queries⟩ := by
  rw [evaluate]
  cases run : left.evaluate source models context with
  | mk result queries =>
    obtain rfl : result = .ok (!op.settling) := by rw [← unsettled, run]
    simp [Run.bind]

/-! ### Skipped leaves -/

theorem not_bypasses_nil (tree : Expr) : ¬tree.Bypasses source models context [] := by
  rintro ⟨above, _, _, _, front, -⟩
  simp at front

/-- What is bypassed below a node is bypassed by the node itself, or inside the operand. -/
theorem bypasses_cons {inner : Expr} {turn : Turn} {path : List Turn}
    (below : tree.operand? turn = some inner) :
    tree.Bypasses source models context (turn :: path) ↔
      (turn = .right ∧ ∃ left op, tree = .binary left op inner ∧
        (left.evaluate source models context).result = .ok op.settling) ∨
      inner.Bypasses source models context path := by
  constructor
  · rintro ⟨above, left, op, right, front, place, settled⟩
    cases above with
    | nil =>
      obtain rfl : Turn.right = turn := (List.cons_prefix_cons.mp front).1
      obtain rfl : tree = .binary left op right := Option.some.inj place
      obtain rfl : right = inner := Option.some.inj below
      exact .inl ⟨rfl, left, op, rfl, BinaryOp.settledBy_iff.mp settled⟩
    | cons step rest =>
      obtain ⟨rfl, behind⟩ := List.cons_prefix_cons.mp front
      rw [at?, below] at place
      exact .inr ⟨rest, left, op, right, behind, place, settled⟩
  · rintro (⟨rfl, left, op, rfl, settled⟩ | ⟨above, left, op, right, front, place, settled⟩)
    · exact ⟨[], left, op, inner, List.cons_prefix_cons.mpr ⟨rfl, List.nil_prefix⟩, rfl,
        BinaryOp.settledBy_iff.mpr settled⟩
    · refine ⟨turn :: above, left, op, right, List.cons_prefix_cons.mpr ⟨rfl, front⟩, ?_, settled⟩
      rw [at?, below]
      exact place

theorem bypasses_right {path : List Turn} :
    (binary left op right).Bypasses source models context (.right :: path) ↔
      (left.evaluate source models context).result = .ok op.settling ∨
        right.Bypasses source models context path := by
  refine (bypasses_cons rfl).trans (or_congr_left ⟨?_, fun settled => ⟨rfl, _, _, rfl, settled⟩⟩)
  rintro ⟨-, _, _, same, settled⟩
  cases same
  exact settled

theorem bypasses_of_ne_right {inner : Expr} {turn : Turn} {path : List Turn}
    (below : tree.operand? turn = some inner) (straight : turn ≠ .right) :
    tree.Bypasses source models context (turn :: path) ↔
      inner.Bypasses source models context path :=
  (bypasses_cons below).trans (or_iff_right fun bypassed => straight bypassed.1)

theorem exists_isLeftOf_below (turn : Turn) (leaf : Leaf) :
    (∃ failed ∈ failed?.map (Leaf.below turn), failed.IsLeftOf (leaf.below turn)) ↔
      ∃ failed ∈ failed?, failed.IsLeftOf leaf := by
  cases failed? with
  | none => simp
  | some failed => simp [Leaf.isLeftOf_below]

theorem skips_below {inner : Expr} {turn : Turn} {leaf : Leaf}
    (below : tree.operand? turn = some inner) (straight : turn ≠ .right) :
    tree.Skips source models context (failed?.map (Leaf.below turn)) (leaf.below turn) ↔
      inner.Skips source models context failed? leaf :=
  or_congr (bypasses_of_ne_right below straight) (exists_isLeftOf_below turn leaf)

theorem skips_left {leaf : Leaf} :
    (binary left op right).Skips source models context (failed?.map (.below .left))
        (leaf.below .left) ↔
      left.Skips source models context failed? leaf :=
  skips_below rfl nofun

theorem skips_left_of_right {leaf : Leaf} :
    (binary left op right).Skips source models context (failed?.map (.below .right))
        (leaf.below .left) ↔
      left.Skips source models context none leaf := by
  refine or_congr (bypasses_of_ne_right rfl nofun) ?_
  cases failed? with
  | none => simp
  | some failed => simp [Leaf.not_isLeftOf_right_left]

theorem skips_right {leaf : Leaf}
    (unsettled : (left.evaluate source models context).result = .ok (!op.settling)) :
    (binary left op right).Skips source models context (failed?.map (.below .right))
        (leaf.below .right) ↔
      right.Skips source models context failed? leaf := by
  refine or_congr (bypasses_right.trans (or_iff_right ?_)) (exists_isLeftOf_below .right leaf)
  rw [unsettled]
  simp

/-! ### The walk through each kind of node -/

theorem visited_below (turn : Turn) (asked : List Leaf) (failed? : Option Leaf) :
    asked.map (Leaf.below turn) ++ (failed?.map (Leaf.below turn)).toList =
      (asked ++ failed?.toList).map (Leaf.below turn) := by
  cases failed? <;> simp

theorem forall₂_below {turn : Turn} {queries : List Query}
    (asking : List.Forall₂ (fun leaf query => leaf.atom.Asks source models context query) asked
      queries) :
    List.Forall₂ (fun leaf query => leaf.atom.Asks source models context query)
      (asked.map (Leaf.below turn)) queries :=
  List.forall₂_map_left_iff.mpr asking

theorem walk_atom (source : RoleSource) (models : Registry) (context : Context) (leaf : Atom) :
    ∃ asked failed?, (atom leaf).Walk source models context asked failed? := by
  have unskipped (failed? : Option Leaf) (only : ∀ failed ∈ failed?, failed = ⟨[], leaf⟩) :
      ¬(atom leaf).Skips source models context failed? ⟨[], leaf⟩ := by
    rintro (bypassed | ⟨failed, member, ordered⟩)
    · exact not_bypasses_nil _ bypassed
    · cases only failed member
      exact Leaf.not_isLeftOf_self _ ordered
  rcases leaf.resolves_or_fails models context with ⟨scope, asks⟩ | ⟨error, fails⟩
  · refine ⟨[⟨[], leaf⟩], none, ?_, ?_, ?_, ?_⟩
    · exact List.Sublist.refl _
    · simpa [leaves] using unskipped none (by simp)
    · rw [evaluate, leaf.evaluate_of_asksOn source asks]
      exact .cons ⟨asks, rfl, rfl, rfl⟩ .nil
    · rw [evaluate, leaf.evaluate_of_asksOn source asks]
      exact .value _
  · refine ⟨[], some ⟨[], leaf⟩, ?_, ?_, ?_, ?_⟩
    · exact List.Sublist.refl _
    · simpa [leaves] using unskipped (some ⟨[], leaf⟩) (by simp)
    · rw [evaluate, leaf.evaluate_of_failsWith source fails]
      exact .nil
    · rw [evaluate, leaf.evaluate_of_failsWith source fails]
      exact .leaf fails

theorem Walk.inward {node operand : Expr}
    (walk : operand.Walk source models context asked failed?)
    (below : node.operand? .inward = some operand)
    (leaves : node.leaves = operand.leaves.map (Leaf.below .inward))
    (queries : (node.evaluate source models context).queries =
      (operand.evaluate source models context).queries)
    (ends : EndsAt models context failed? (node.evaluate source models context).result) :
    node.Walk source models context (asked.map (Leaf.below .inward))
      (failed?.map (Leaf.below .inward)) where
  sublist := by
    rw [visited_below, leaves]
    exact walk.sublist.map _
  skipped := by
    rw [visited_below, leaves]
    intro leaf member
    obtain ⟨leaf, inner, rfl⟩ := List.mem_map.mp member
    have straight : Turn.inward ≠ .right := nofun
    rw [skips_below below straight, ← walk.skipped leaf inner, Leaf.below_mem_map]
    simp
  queries := by
    rw [queries]
    exact forall₂_below walk.queries
  ends := ends.below .inward

/-- Where the left operand fails or settles the operation, nothing on the right is visited. -/
theorem Walk.binary_left (walk : left.Walk source models context asked failed?)
    (same : (binary left op right).evaluate source models context =
      left.evaluate source models context)
    (past : ∀ leaf : Leaf, (binary left op right).Skips source models context
      (failed?.map (Leaf.below .left)) (leaf.below .right)) :
    (binary left op right).Walk source models context (asked.map (Leaf.below .left))
      (failed?.map (Leaf.below .left)) where
  sublist := by
    rw [visited_below]
    exact (walk.sublist.map _).trans (List.sublist_append_left _ _)
  skipped := by
    rw [visited_below]
    intro leaf member
    rcases List.mem_append.mp member with member | member
    · obtain ⟨leaf, inner, rfl⟩ := List.mem_map.mp member
      rw [skips_left, ← walk.skipped leaf inner, Leaf.below_mem_map]
      simp
    · obtain ⟨leaf, -, rfl⟩ := List.mem_map.mp member
      simp [Leaf.below_mem_map, past leaf]
  queries := by
    rw [same]
    exact forall₂_below walk.queries
  ends := by
    rw [same]
    exact walk.ends.below .left

/-- Where the left operand leaves the operation open, the walk goes on to the right. -/
theorem Walk.binary_both (walk : left.Walk source models context asked none)
    (unsettled : (left.evaluate source models context).result = .ok (!op.settling))
    (next : right.Walk source models context more failed?) :
    (binary left op right).Walk source models context
      (asked.map (Leaf.below .left) ++ more.map (Leaf.below .right))
      (failed?.map (Leaf.below .right)) where
  sublist := by
    have first := walk.sublist
    rw [Option.toList_none, List.append_nil] at first
    rw [List.append_assoc, visited_below]
    exact (first.map _).append (next.sublist.map _)
  skipped := by
    rw [List.append_assoc, visited_below]
    intro leaf member
    rcases List.mem_append.mp member with member | member
    · obtain ⟨leaf, inner, rfl⟩ := List.mem_map.mp member
      rw [skips_left_of_right, ← walk.skipped leaf inner, List.mem_append, Leaf.below_mem_map,
        Leaf.below_mem_map]
      simp
    · obtain ⟨leaf, inner, rfl⟩ := List.mem_map.mp member
      rw [skips_right unsettled, ← next.skipped leaf inner, List.mem_append, Leaf.below_mem_map,
        Leaf.below_mem_map]
      simp
  queries := by
    rw [evaluate_binary_of_open unsettled]
    exact List.rel_append (forall₂_below walk.queries) (forall₂_below next.queries)
  ends := by
    rw [evaluate_binary_of_open unsettled]
    exact next.ends.below .right

theorem exists_walk (source : RoleSource) (models : Registry) (context : Context) (tree : Expr) :
    ∃ asked failed?, tree.Walk source models context asked failed? := by
  induction tree with
  | atom leaf => exact walk_atom source models context leaf
  | binary left op right leftIh rightIh =>
    obtain ⟨asked, failed?, walk⟩ := leftIh
    rcases result_cases op (left.evaluate source models context).result with
      ⟨error, failed⟩ | settled | unsettled
    · refine ⟨_, _, walk.binary_left (evaluate_binary_of_error failed) fun leaf => .inr ?_⟩
      cases failed ▸ walk.ends with
      | leaf fails => exact ⟨_, rfl, Leaf.isLeftOf_left_right _ leaf⟩
    · exact ⟨_, _, walk.binary_left (evaluate_binary_of_settling settled) fun leaf =>
        .inl (bypasses_right.mpr (.inl settled))⟩
    · obtain ⟨more, next?, next⟩ := rightIh
      cases unsettled ▸ walk.ends
      exact ⟨_, _, walk.binary_both unsettled next⟩
  | not operand ih =>
    obtain ⟨asked, failed?, walk⟩ := ih
    exact ⟨_, _, walk.inward rfl rfl rfl (walk.ends.map _)⟩
  | group inner ih =>
    obtain ⟨asked, failed?, walk⟩ := ih
    exact ⟨_, _, walk.inward rfl rfl rfl walk.ends⟩

theorem Walk.resolves_iff (walk : tree.Walk source models context asked failed?) :
    (∃ value, (tree.evaluate source models context).result = .ok value) ↔
      ∀ leaf ∈ asked ++ failed?.toList, leaf.atom.Resolves models context := by
  have resolving : List.Forall₂ (fun leaf query => leaf.atom.Resolves models context ∧
      leaf.atom.Asks source models context query) asked
      (tree.evaluate source models context).queries :=
    walk.queries.imp fun leaf query asks => ⟨⟨query.scope, asks.scope⟩, asks⟩
  have resolved := ((List.forall₂_and_left _ _).mp resolving).1
  have ends := walk.ends
  generalize (tree.evaluate source models context).result = result at ends ⊢
  cases ends with
  | value value =>
    refine iff_of_true ⟨value, rfl⟩ fun leaf member => resolved leaf ?_
    simpa using member
  | leaf fails =>
    refine iff_of_false nofun fun all => ?_
    exact (all _ (by simp)).not_fails ⟨_, fails⟩

theorem evaluate_eq_of_answers
    (same : ∀ query ∈ (tree.evaluate source models context).queries,
      other.hasRole query.principal? query.role query.scope = query.granted) :
    tree.evaluate other models context = tree.evaluate source models context := by
  induction tree with
  | atom leaf =>
    rcases leaf.resolves_or_fails models context with ⟨scope, asks⟩ | ⟨error, fails⟩
    · simp only [evaluate, leaf.evaluate_of_asksOn _ asks, Run.ask, List.mem_singleton,
        forall_eq] at same ⊢
      rw [same]
    · simp only [evaluate, leaf.evaluate_of_failsWith _ fails]
  | binary left op right leftIh rightIh =>
    rcases result_cases op (left.evaluate source models context).result with
      ⟨error, failed⟩ | settled | unsettled
    · rw [evaluate_binary_of_error failed] at same ⊢
      rw [evaluate_binary_of_error (by rw [leftIh same]; exact failed), leftIh same]
    · rw [evaluate_binary_of_settling settled] at same ⊢
      rw [evaluate_binary_of_settling (by rw [leftIh same]; exact settled), leftIh same]
    · rw [evaluate_binary_of_open unsettled] at same ⊢
      have first := leftIh fun query member => same query (List.mem_append_left _ member)
      have second := rightIh fun query member => same query (List.mem_append_right _ member)
      rw [evaluate_binary_of_open (by rw [first]; exact unsettled), first, second]
  | not operand ih => rw [evaluate, ih same, evaluate]
  | group inner ih => exact ih same

/-- An evaluation walks through the leaves from left to right. It asks about each leaf that is not
skipped until one fails, and comes to a value exactly if none does; and all that it learns of the
source is the answers. -/
theorem evaluate_exact (source : RoleSource) (models : Registry) (context : Context)
    (tree : Expr) :
    let run := tree.evaluate source models context
    (∃ asked failed?, tree.Walk source models context asked failed? ∧
      (asked ++ failed?.toList).Pairwise Leaf.IsLeftOf ∧ (asked ++ failed?.toList).Nodup ∧
      ((∃ value, run.result = .ok value) ↔
        ∀ leaf ∈ asked ++ failed?.toList, leaf.atom.Resolves models context)) ∧
    ∀ other : RoleSource,
      (∀ query ∈ run.queries,
        other.hasRole query.principal? query.role query.scope = query.granted) →
      tree.evaluate other models context = run := by
  intro run
  obtain ⟨asked, failed?, walk⟩ := exists_walk source models context tree
  refine ⟨⟨asked, failed?, walk, ?_, ?_, walk.resolves_iff⟩, fun other => evaluate_eq_of_answers⟩
  · exact tree.pairwise_leaves.sublist walk.sublist
  · exact tree.nodup_leaves.sublist walk.sublist

/-- The owner is not asked about on the left, where nobody is banned, nor on the right, where the
document is bound to nothing; the administrator behind it is never reached. -/
theorem evaluate_exact_unbound :
    let editor : Expr := .atom (.role "editor" false)
    let owner : Expr := .atom (.scoped "owner" (.object "doc"))
    let tree : Expr := .binary (.group (.binary (.atom (.role "banned" true)) .and owner)) .or
      (.not (.group (.binary editor .and (.binary owner .or (.atom (.role "admin" false))))))
    let context : Context := { principal? := some (.user ⟨"2", "bob"⟩) }
    let run : Run Bool := ⟨.error (.unboundModel "doc"),
      [⟨context.principal?, "banned", .global, false⟩,
        ⟨context.principal?, "editor", .global, true⟩]⟩
    (∃ asked failed, tree.Walk (.exactly [("editor", .global)]) {} context asked (some failed) ∧
      asked.map (·.atom.roleName) = ["banned", "editor"] ∧
      failed.atom.FailsWith {} context (.unboundModel "doc")) ∧
    ∀ other : RoleSource, other.hasRole context.principal? "banned" .global = false →
      other.hasRole context.principal? "editor" .global = true →
      tree.evaluate other {} context = run := by
  intro editor owner tree context run
  let source : RoleSource := .exactly [("editor", .global)]
  have ran : tree.evaluate source {} context = run := rfl
  obtain ⟨⟨asked, failed?, walk, -⟩, same⟩ := evaluate_exact source {} context tree
  refine ⟨?_, fun other banned editor => ?_⟩
  · have queries := walk.queries
    have ends := walk.ends
    rw [ran] at queries ends
    cases ends with
    | @leaf failed _ fails =>
      refine ⟨asked, failed, walk, ?_, fails⟩
      cases queries with
      | cons first rest =>
        cases rest with
        | cons second rest =>
          cases rest
          simp [← first.role, ← second.role]
  · refine same other ?_
    rw [ran]
    simp [run, banned, editor]

end Expr

end RoleGate
