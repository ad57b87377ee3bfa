import AlphaTrade.StrategyBrain.SetupAst

/-!
# Units of compiled setups

The compiler is sound about units up to what it does not look at. It takes an annotation on a
composite node for the unit of the node, it infers no unit for a crossing and then compares it
with anything, and it asks for no unit of the operands of a crossing, of AND, OR and NOT, or of
what hangs below a literal or a field. A pattern is unit-correct exactly when these places are.
-/
namespace AlphaTrade.StrategyBrain

variable {expr : AstExpr} {pyRepr : String → String} {path : String}

/-! ## Units from the leaves -/

mutual

/-- The unit that the leaves of an expression give it. Annotations of other nodes are not read,
and a crossing is a condition. -/
def leafUnit : AstExpr → Option AstUnit
  | ⟨kind, _, _, astUnit, path, op, args, _, _, _⟩ =>
    match kind with
    | .literal => astUnit
    | .field => (path.bind fieldSpec).map (·.2)
    | .unary | .windowAggregate => (leafUnits args).head?.join
    | .arithmetic => arithmeticUnit op (leafUnits args)
    | .compare | .boolean | .isMissing | .crosses => some .boolean
  termination_by structural expr => expr

def leafUnits : List AstExpr → List (Option AstUnit)
  | [] => []
  | arg :: args => leafUnit arg :: leafUnits args
  termination_by structural args => args

end

theorem leafUnits_eq_map (args : List AstExpr) : leafUnits args = args.map leafUnit := by
  induction args with
  | nil => rfl
  | cons arg args ih => rw [leafUnits, ih, List.map_cons]

namespace AstExpr

def IsLeaf (expr : AstExpr) : Prop := expr.kind = .literal ∨ expr.kind = .field

def Connects (expr : AstExpr) : Prop :=
  expr.kind = .boolean ∨ expr.kind = .unary ∧ expr.op = some "not"

/-- The rule of units at one node. -/
structure NodeCorrect (expr : AstExpr) : Prop where
  arithmetic : expr.kind = .arithmetic → leafUnit expr ≠ none
  compared : expr.kind = .compare ∨ expr.kind = .crosses →
    ∃ shared, ∀ arg ∈ expr.args, leafUnit arg = some shared
  connected : expr.Connects → ∀ arg ∈ expr.args, leafUnit arg = some .boolean
  annotated : ¬expr.IsLeaf → ∀ declared ∈ expr.astUnit, leafUnit expr = some declared

/-- The rule of units at every node. -/
inductive UnitCorrect : AstExpr → Prop
  | node {expr : AstExpr} (here : expr.NodeCorrect)
      (below : ∀ arg ∈ expr.args, UnitCorrect arg) : UnitCorrect expr

def operandUnit (expr : AstExpr) : AstUnit := (nodeUnit expr).getD .boolean

def inferredUnit (expr : AstExpr) : AstUnit := operandUnit { expr with astUnit := none }

/-- What the compiler does not check at a node. -/
structure Agrees (expr : AstExpr) : Prop where
  compared : expr.kind = .compare →
    ∀ left ∈ expr.args, ∀ right ∈ expr.args, nodeUnit left = none →
      right.operandUnit = .boolean
  crossed : expr.kind = .crosses →
    ∀ left ∈ expr.args, ∀ right ∈ expr.args, left.operandUnit = right.operandUnit
  connected : expr.Connects → ∀ arg ∈ expr.args, arg.operandUnit = .boolean
  annotated : ∀ declared ∈ expr.astUnit, expr.inferredUnit = declared

/-- The unchecked places are right: the arguments of a leaf, which no check reaches, keep the
rule themselves, and the other nodes agree with what is inferred below them. -/
inductive Disciplined : AstExpr → Prop
  | leaf {expr : AstExpr} (leaf : expr.IsLeaf)
      (below : ∀ arg ∈ expr.args, UnitCorrect arg) : Disciplined expr
  | composite {expr : AstExpr} (composite : ¬expr.IsLeaf) (here : expr.Agrees)
      (below : ∀ arg ∈ expr.args, Disciplined arg) : Disciplined expr

end AstExpr

/-! ## What an accepted node has -/

/-- What the checks at one node establish. -/
structure Accepted (expr : AstExpr) : Prop where
  literal : expr.kind = .literal → expr.astUnit ≠ none
  field : expr.kind = .field → ∃ spec, expr.path.bind fieldSpec = some spec ∧
    expr.astUnit ∈ [none, some spec.2]
  single : expr.kind = .unary ∨ expr.kind = .windowAggregate → ∃ arg, expr.args = [arg]
  operands : expr.kind = .arithmetic → (∀ arg ∈ expr.args, nodeUnit arg ≠ none) ∧
    arithmeticUnit expr.op (expr.args.map nodeUnit) ≠ none
  pair : expr.kind = .compare ∨ expr.kind = .crosses → ∃ left right, expr.args = [left, right]
  compatible : expr.kind = .compare → ∀ left ∈ expr.args, ∀ right ∈ expr.args,
    nodeUnit left ≠ none → nodeUnit right ≠ none → nodeUnit left = nodeUnit right

variable {args : List AstExpr}

theorem validateArgs_eq_nil {here : AstExpr → List CompileFailure} {index : Nat}
    (clean : validateArgs pyRepr path here index args = []) :
    ∀ arg ∈ args, (∃ inner, validateExpr pyRepr inner arg = []) ∧ here arg = [] := by
  induction args generalizing index with
  | nil => simp
  | cons arg args ih =>
    simp only [validateArgs, List.append_eq_nil_iff] at clean
    exact List.forall_mem_cons.mpr ⟨⟨⟨_, clean.1.1⟩, clean.1.2⟩, ih clean.2⟩

theorem mapM_id_of_all_some {α : Type} {xs : List (Option α)} (all : ∀ x ∈ xs, x ≠ none) :
    xs.mapM id = some (xs.filterMap id) ∧ (xs.filterMap id).length = xs.length := by
  induction xs with
  | nil => simp
  | cons x xs ih =>
    obtain ⟨first, rest⟩ := List.forall_mem_cons.mp all
    obtain ⟨a, rfl⟩ := Option.ne_none_iff_exists'.mp first
    obtain ⟨mapped, length⟩ := ih rest
    rw [List.mapM_cons, mapped]
    exact ⟨rfl, congrArg (· + 1) length⟩

/-- Operands with units whose fold succeeds have a unit together. -/
theorem arithmeticUnit_of_compatible {op : Option String} {arithmeticOp : ArithmeticOp}
    {units : List (Option AstUnit)} (known : op.bind ArithmeticOp.ofValue = some arithmeticOp)
    (several : 2 ≤ units.length) (all : ∀ u ∈ units, u ≠ none)
    (clean : incompatibleOperands arithmeticOp (units.filterMap id) path = []) :
    arithmeticUnit op units ≠ none := by
  obtain ⟨mapped, length⟩ := mapM_id_of_all_some all
  have folds : foldUnits arithmeticOp (units.filterMap id) ≠ none := fun fails => by
    rw [incompatibleOperands, if_pos ⟨length ▸ several, fails⟩] at clean
    cases clean
  simpa [arithmeticUnit, known, mapped, Nat.not_lt.mpr several] using folds

theorem accepted_of_validate (clean : validateExpr pyRepr path expr = []) :
    Accepted expr ∧
      (¬expr.IsLeaf → ∀ arg ∈ expr.args, ∃ inner, validateExpr pyRepr inner arg = []) := by
  obtain ⟨kind, value, valueType, astUnit, fieldPath, op, args, strict, alignment, windowBars⟩ :=
    expr
  cases kind with
  | literal =>
    simp only [validateExpr, ite_eq_right_iff, List.cons_ne_nil, imp_false, not_or] at clean
    exact ⟨⟨fun _ => clean.2.2, nofun, nofun, nofun, nofun, nofun⟩,
      fun composite => absurd (.inl rfl) composite⟩
  | field =>
    refine ⟨⟨nofun, fun _ => ?_, nofun, nofun, nofun, nofun⟩,
      fun composite => absurd (.inr rfl) composite⟩
    unfold validateExpr at clean
    dsimp only at clean
    split at clean
    · cases clean
    · rename_i expectedType expectedUnit found
      simp only [ite_eq_right_iff, List.cons_ne_nil, imp_false, not_or, not_not] at clean
      exact ⟨_, found, clean.2⟩
  | unary =>
    unfold validateExpr at clean
    simp only [List.append_eq_nil_iff] at clean
    obtain ⟨-, clean⟩ := clean
    split at clean
    · rename_i arg
      exact ⟨⟨nofun, nofun, fun _ => ⟨arg, rfl⟩, nofun, nofun, nofun⟩,
        fun _ => List.forall_mem_singleton.mpr ⟨_, clean⟩⟩
    · cases clean
  | arithmetic =>
    unfold validateExpr at clean
    dsimp only at clean
    split at clean
    · cases clean
    rename_i arithmeticOp known
    split at clean
    · cases clean
    rename_i several
    obtain ⟨operands, compatible⟩ := List.append_eq_nil_iff.mp clean
    have checked := validateArgs_eq_nil operands
    have units : ∀ arg ∈ args, nodeUnit arg ≠ none := fun arg listed missing => by
      have clean := (checked arg listed).2
      rw [if_pos missing] at clean
      cases clean
    rw [nodeUnits_eq_map] at compatible
    have several : 2 ≤ (args.map nodeUnit).length := by
      rw [List.length_map]
      exact Nat.not_lt.mp several
    refine ⟨⟨nofun, nofun, nofun, fun _ => ⟨units, arithmeticUnit_of_compatible known
      several (by simpa using units) compatible⟩, nofun, nofun⟩,
      fun _ arg listed => (checked arg listed).1⟩
  | compare =>
    unfold validateExpr at clean
    dsimp only at clean
    split at clean
    · cases clean
    split at clean
    · rename_i left right
      simp only [List.append_eq_nil_iff] at clean
      obtain ⟨⟨first, second⟩, compatible⟩ := clean
      have same : nodeUnit left ≠ none → nodeUnit right ≠ none →
          nodeUnit left = nodeUnit right := fun leftHas rightHas => by
        by_contra differ
        rw [if_pos ⟨leftHas, rightHas, differ⟩] at compatible
        cases compatible
      refine ⟨⟨nofun, nofun, nofun, nofun, fun _ => ⟨left, right, rfl⟩, fun _ => ?_⟩,
        fun _ => ?_⟩
      · simp only [List.mem_cons, List.not_mem_nil, or_false]
        rintro _ (rfl | rfl) _ (rfl | rfl) first second
        exacts [rfl, same first second, (same second first).symm, rfl]
      · simp only [List.forall_mem_cons, List.not_mem_nil, false_imp_iff, implies_true, and_true]
        exact ⟨⟨_, first⟩, _, second⟩
    · cases clean
  | boolean =>
    unfold validateExpr at clean
    simp only [List.append_eq_nil_iff] at clean
    obtain ⟨-, clean⟩ := clean
    split at clean
    · cases clean
    · exact ⟨⟨nofun, nofun, nofun, nofun, nofun, nofun⟩,
        fun _ arg listed => (validateArgs_eq_nil clean arg listed).1⟩
  | windowAggregate =>
    unfold validateExpr at clean
    simp only [List.append_eq_nil_iff] at clean
    obtain ⟨-, clean⟩ := clean
    split at clean
    · rename_i arg
      exact ⟨⟨nofun, nofun, fun _ => ⟨arg, rfl⟩, nofun, nofun, nofun⟩,
        fun _ => List.forall_mem_singleton.mpr ⟨_, clean⟩⟩
    · cases clean
  | crosses =>
    unfold validateExpr at clean
    simp only [List.append_eq_nil_iff] at clean
    obtain ⟨-, clean⟩ := clean
    split at clean
    · rename_i left right
      obtain ⟨first, second⟩ := List.append_eq_nil_iff.mp clean
      refine ⟨⟨nofun, nofun, nofun, nofun, fun _ => ⟨left, right, rfl⟩, nofun⟩, fun _ => ?_⟩
      simp only [List.forall_mem_cons, List.not_mem_nil, false_imp_iff, implies_true, and_true]
      exact ⟨⟨_, first⟩, _, second⟩
    · cases clean
  | isMissing =>
    unfold validateExpr at clean
    dsimp only at clean
    split at clean
    · exact ⟨⟨nofun, nofun, nofun, nofun, nofun, nofun⟩,
        fun _ => List.forall_mem_singleton.mpr ⟨_, clean⟩⟩
    · cases clean

/-! ## One node -/

theorem operandUnit_of_annotated {declared : AstUnit}
    (annotated : expr.astUnit = some declared) :
    expr.operandUnit = declared := by
  obtain ⟨kind, value, valueType, astUnit, fieldPath, op, args, strict, alignment, windowBars⟩ :=
    expr
  obtain rfl : astUnit = some declared := annotated
  simp [AstExpr.operandUnit, nodeUnit]

theorem operandUnit_of_bare (bare : expr.astUnit = none) :
    expr.operandUnit = expr.inferredUnit := by
  obtain ⟨kind, value, valueType, astUnit, fieldPath, op, args, strict, alignment, windowBars⟩ :=
    expr
  obtain rfl : astUnit = none := bare
  rfl

theorem nodeUnit_of_ne_none (known : nodeUnit expr ≠ none) :
    nodeUnit expr = some expr.operandUnit := by
  obtain ⟨inferred, same⟩ := Option.ne_none_iff_exists'.mp known
  simp [AstExpr.operandUnit, same]

/-- What the compiler infers is what the leaves give, where the operands are understood. -/
theorem leafUnit_eq_inferredUnit (accepted : Accepted expr) (composite : ¬expr.IsLeaf)
    (units : ∀ arg ∈ expr.args, leafUnit arg = some arg.operandUnit) :
    leafUnit expr = some expr.inferredUnit := by
  obtain ⟨kind, value, valueType, astUnit, fieldPath, op, args, strict, alignment, windowBars⟩ :=
    expr
  cases kind with
  | literal => exact absurd (.inl rfl) composite
  | field => exact absurd (.inr rfl) composite
  | unary =>
    obtain ⟨arg, only⟩ := accepted.single (.inl rfl)
    obtain rfl : args = [arg] := only
    have leaf := units arg (List.mem_singleton_self arg)
    simp [leafUnit, leafUnits, leaf, AstExpr.inferredUnit, AstExpr.operandUnit, nodeUnit, nodeUnits]
  | windowAggregate =>
    obtain ⟨arg, only⟩ := accepted.single (.inr rfl)
    obtain rfl : args = [arg] := only
    have leaf := units arg (List.mem_singleton_self arg)
    simp [leafUnit, leafUnits, leaf, AstExpr.inferredUnit, AstExpr.operandUnit, nodeUnit, nodeUnits]
  | arithmetic =>
    obtain ⟨known, derived⟩ := accepted.operands rfl
    have same : args.map leafUnit = args.map nodeUnit := List.map_congr_left fun arg listed => by
      rw [units arg listed, nodeUnit_of_ne_none (known arg listed)]
    obtain ⟨result, derives⟩ := Option.ne_none_iff_exists'.mp derived
    simp only at derives
    simp [leafUnit, leafUnits_eq_map, same, AstExpr.inferredUnit, AstExpr.operandUnit, nodeUnit,
      nodeUnits_eq_map, derives]
  | compare => simp [leafUnit, AstExpr.inferredUnit, AstExpr.operandUnit, nodeUnit]
  | boolean => simp [leafUnit, AstExpr.inferredUnit, AstExpr.operandUnit, nodeUnit]
  | crosses => simp [leafUnit, AstExpr.inferredUnit, AstExpr.operandUnit, nodeUnit]
  | isMissing => simp [leafUnit, AstExpr.inferredUnit, AstExpr.operandUnit, nodeUnit]

/-- Two operands share a unit from the leaves when they share what is inferred for them. -/
theorem shared_iff {left right : AstExpr} (pair : args = [left, right])
    (units : ∀ arg ∈ args, leafUnit arg = some arg.operandUnit) :
    (∃ shared, ∀ arg ∈ args, leafUnit arg = some shared) ↔
      left.operandUnit = right.operandUnit := by
  subst pair
  have first := units left (by simp)
  have second := units right (by simp)
  constructor
  · rintro ⟨shared, same⟩
    have ofLeft := first.symm.trans (same left (by simp))
    have ofRight := second.symm.trans (same right (by simp))
    exact Option.some.inj (ofLeft.trans ofRight.symm)
  · intro same
    refine ⟨left.operandUnit, fun arg listed => ?_⟩
    rcases List.mem_pair.mp listed with rfl | rfl
    · exact first
    · rw [second, same]

/-- At a composite node the rule is kept when the unchecked places agree. -/
theorem nodeCorrect_iff (accepted : Accepted expr) (composite : ¬expr.IsLeaf)
    (units : ∀ arg ∈ expr.args, leafUnit arg = some arg.operandUnit) :
    expr.NodeCorrect ↔ expr.Agrees := by
  have leaf := leafUnit_eq_inferredUnit accepted composite units
  constructor
  · rintro ⟨-, compared, connected, annotated⟩
    refine ⟨fun kind left first right second missing => ?_, fun kind left first right second => ?_,
      fun connects arg listed => ?_, fun declared given => ?_⟩
    · obtain ⟨shared, same⟩ := compared (.inl kind)
      have ofLeft := Option.some.inj ((units left first).symm.trans (same left first))
      have ofRight := Option.some.inj ((units right second).symm.trans (same right second))
      rw [ofRight, ← ofLeft, AstExpr.operandUnit, missing, Option.getD_none]
    · obtain ⟨shared, same⟩ := compared (.inr kind)
      have ofLeft := Option.some.inj ((units left first).symm.trans (same left first))
      exact ofLeft.trans (Option.some.inj
        ((units right second).symm.trans (same right second))).symm
    · exact Option.some.inj ((units arg listed).symm.trans (connected connects arg listed))
    · exact Option.some.inj (leaf.symm.trans (annotated composite declared given))
  · rintro ⟨compared, crossed, connected, annotated⟩
    refine ⟨fun _ => by simp [leaf], fun kind => ?_,
      fun connects arg listed => by rw [units arg listed, connected connects arg listed],
      fun _ declared given => by rw [leaf, annotated declared given]⟩
    obtain ⟨left, right, pair⟩ := accepted.pair kind
    have first : left ∈ expr.args := by simp [pair]
    have second : right ∈ expr.args := by simp [pair]
    rw [shared_iff pair units]
    rcases kind with kind | kind
    · -- The check compares two inferred units; where one is missing, both operands are boolean.
      by_cases leftKnown : nodeUnit left = none
      · rw [compared kind left first right second leftKnown,
          compared kind left first left first leftKnown]
      by_cases rightKnown : nodeUnit right = none
      · rw [compared kind right second left first rightKnown,
          compared kind right second right second rightKnown]
      · have same := accepted.compatible kind left first right second leftKnown rightKnown
        rw [AstExpr.operandUnit, same, AstExpr.operandUnit]
    · exact crossed kind left first right second

theorem leafUnit_eq_operandUnit (accepted : Accepted expr) (composite : ¬expr.IsLeaf)
    (units : ∀ arg ∈ expr.args, leafUnit arg = some arg.operandUnit)
    (correct : expr.NodeCorrect) : leafUnit expr = some expr.operandUnit := by
  cases given : expr.astUnit with
  | none =>
    rw [operandUnit_of_bare given]
    exact leafUnit_eq_inferredUnit accepted composite units
  | some declared =>
    rw [operandUnit_of_annotated given]
    exact correct.annotated composite declared given

/-- A leaf has the unit that the compiler infers. -/
theorem leafUnit_of_leaf (accepted : Accepted expr) (leaf : expr.IsLeaf) :
    leafUnit expr = some expr.operandUnit := by
  obtain ⟨kind, value, valueType, astUnit, fieldPath, op, args, strict, alignment, windowBars⟩ :=
    expr
  rcases leaf with leaf | leaf
  · obtain rfl : kind = .literal := leaf
    obtain ⟨declared, given⟩ := Option.ne_none_iff_exists'.mp (accepted.literal rfl)
    obtain rfl : astUnit = some declared := given
    simp [leafUnit, AstExpr.operandUnit, nodeUnit]
  · obtain rfl : kind = .field := leaf
    obtain ⟨spec, found, given⟩ := accepted.field rfl
    dsimp only at found given
    rcases List.mem_pair.mp given with rfl | rfl <;>
      simp [leafUnit, AstExpr.operandUnit, nodeUnit, found]

theorem nodeCorrect_of_leaf (accepted : Accepted expr) (leaf : expr.IsLeaf) :
    expr.NodeCorrect := by
  refine ⟨fun kind => ?_, fun kind => ?_, fun connects => ?_,
    fun composite => absurd leaf composite⟩
  · rw [leafUnit_of_leaf accepted leaf]
    exact Option.some_ne_none _
  · rcases leaf with leaf | leaf <;> rw [leaf] at kind <;> simp at kind
  · unfold AstExpr.Connects at connects
    rcases leaf with leaf | leaf <;> rw [leaf] at connects <;> simp at connects

/-! ## Expressions and patterns -/

/-- An accepted expression is unit-correct exactly when its unchecked places are right. -/
theorem unitCorrect_iff :
    validateExpr pyRepr path expr = [] →
      (expr.UnitCorrect ↔ expr.Disciplined) ∧
        (expr.UnitCorrect → leafUnit expr = some expr.operandUnit) := by
  induction expr using AstExpr.node_induction generalizing path with
  | node expr ih =>
    intro clean
    obtain ⟨accepted, below⟩ := accepted_of_validate clean
    by_cases leaf : expr.IsLeaf
    · refine ⟨⟨fun ⟨_, inner⟩ => .leaf leaf inner, ?_⟩, fun _ => leafUnit_of_leaf accepted leaf⟩
      rintro (⟨_, inner⟩ | ⟨composite, _, _⟩)
      · exact .node (nodeCorrect_of_leaf accepted leaf) inner
      · exact absurd leaf composite
    · have args : ∀ arg ∈ expr.args, (arg.UnitCorrect ↔ arg.Disciplined) ∧
          (arg.UnitCorrect → leafUnit arg = some arg.operandUnit) := fun arg listed => by
        obtain ⟨inner, clean⟩ := below leaf arg listed
        exact ih arg listed clean
      have units : (∀ arg ∈ expr.args, arg.UnitCorrect) →
          ∀ arg ∈ expr.args, leafUnit arg = some arg.operandUnit :=
        fun correct arg listed => (args arg listed).2 (correct arg listed)
      refine ⟨⟨fun ⟨here, inner⟩ => ?_, ?_⟩, fun ⟨here, inner⟩ =>
        leafUnit_eq_operandUnit accepted leaf (units inner) here⟩
      · exact .composite leaf ((nodeCorrect_iff accepted leaf (units inner)).mp here)
          fun arg listed => (args arg listed).1.mp (inner arg listed)
      · rintro (⟨isLeaf, _⟩ | ⟨_, here, inner⟩)
        · exact absurd isLeaf leaf
        · have correct : ∀ arg ∈ expr.args, arg.UnitCorrect := fun arg listed =>
            (args arg listed).1.mpr (inner arg listed)
          exact .node ((nodeCorrect_iff accepted leaf (units correct)).mpr here) correct

def PatternAst.Each (P : AstExpr → Prop) (pattern : PatternAst) : Prop :=
  ∀ walked ∈ walkPatternExprs pattern, P walked.2

/-- An executable pattern is unit-correct exactly when its unchecked places are right. -/
theorem executable_unitCorrect_iff {runtime : CompilerRuntime PatternAst} {pattern : PatternAst}
    (executable : (compilePattern runtime pattern).status = .executable) :
    pattern.Each AstExpr.UnitCorrect ↔ pattern.Each AstExpr.Disciplined := by
  unfold compilePattern at executable
  dsimp only at executable
  split at executable
  · rename_i clean
    obtain ⟨clean, -⟩ := List.append_eq_nil_iff.mp clean
    have each : ∀ walked ∈ walkPatternExprs pattern,
        validateExpr runtime.pyRepr walked.1 walked.2 = [] := List.flatMap_eq_nil_iff.mp clean
    exact forall₂_congr fun walked listed => (unitCorrect_iff (each walked listed)).1
  · cases executable

/-! ## Samples -/

def sampleNode (kind : AstNodeKind) (path op : Option String) (args : List AstExpr) : AstExpr :=
  ⟨kind, none, none, none, path, op, args, none, none, none⟩

def sampleField (path : String) : AstExpr := sampleNode .field (some path) none []

def samplePattern (trigger : AstExpr) : PatternAst where
  compilerVersion := "setup-ast/v1"
  grammarVersion := "setup-ast-grammar/v1"
  features := []
  preconditions := sampleField "predicate.finality"
  sequence := [⟨"step", sampleField "predicate.freshness", none, none⟩]
  trigger := trigger
  invalidation := [trigger]
  attributes := ""

def sampleCompiler : CompilerRuntime PatternAst := ⟨id, fun _ => ""⟩

def sampleCrossing : AstExpr :=
  sampleNode .crosses none (some "above") [sampleField "ohlcv.close", sampleField "ohlcv.volume"]

def sampleComparison : AstExpr :=
  sampleNode .compare none (some "gt") [sampleField "ohlcv.high", sampleField "ohlcv.low"]

/-- A price that crosses a volume is executable. -/
theorem executable_crossing_of_units :
    ∃ runtime pattern, (compilePattern runtime pattern).status = .executable ∧
      ¬pattern.Each AstExpr.UnitCorrect := by
  refine ⟨sampleCompiler, samplePattern sampleCrossing, by decide +kernel, fun correct => ?_⟩
  have trigger : sampleCrossing.UnitCorrect := correct ("trigger", sampleCrossing)
    (by simp [walkPatternExprs, samplePattern])
  obtain ⟨here, -⟩ := trigger
  obtain ⟨shared, same⟩ := here.compared (.inr rfl)
  have price : shared = .price :=
    (Option.some.inj (same (sampleField "ohlcv.close") (by simp [sampleCrossing, sampleNode]))).symm
  have volume : shared = .volume :=
    (Option.some.inj (same (sampleField "ohlcv.volume")
      (by simp [sampleCrossing, sampleNode]))).symm
  exact absurd (price.symm.trans volume) (by decide)

/-- A comparison of two prices. -/
theorem executable_comparison_unitCorrect :
    (samplePattern sampleComparison).Each AstExpr.UnitCorrect := by
  have field : ∀ path, (sampleField path).Disciplined := fun path => .leaf (.inr rfl) nofun
  have comparison : sampleComparison.Disciplined := by
    refine .composite (by simp [AstExpr.IsLeaf, sampleComparison, sampleNode])
      ⟨fun _ left first right second missing => ?_, nofun, ?_, nofun⟩ fun arg listed => ?_
    · rcases List.mem_pair.mp first with rfl | rfl <;> exact absurd missing (by decide)
    · rintro (kind | ⟨kind, -⟩) <;> cases kind
    · rcases List.mem_pair.mp listed with rfl | rfl <;> exact field _
  have executable : (compilePattern sampleCompiler (samplePattern sampleComparison)).status =
      .executable := by decide +kernel
  refine (executable_unitCorrect_iff executable).mpr ?_
  intro walked listed
  simp only [walkPatternExprs, samplePattern, List.mapIdx_cons, List.mapIdx_nil, Option.toList,
    List.map_nil, List.append_nil, List.flatten_cons, List.flatten_nil, List.cons_append,
    List.nil_append, List.mem_cons, List.not_mem_nil, or_false] at listed
  rcases listed with rfl | rfl | rfl | rfl
  · exact field _
  · exact comparison
  · exact comparison
  · exact field _

end AlphaTrade.StrategyBrain
