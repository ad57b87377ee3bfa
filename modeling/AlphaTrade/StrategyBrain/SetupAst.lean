import Mathlib.Data.List.Basic
import Mathlib.Data.Option.Basic

/-!
# The setup compiler

A pattern is authored as expressions over a list of allowed fields. The compiler checks each
expression and answers what it found wrong; a pattern without failures becomes an executable
document. Checking and the inference of units are two recursions: `validateExpr` asks `nodeUnit`
for the units of the operands, and `nodeUnit` believes an annotation.
-/
namespace AlphaTrade.StrategyBrain

/-! ## Grammar -/

inductive AstNodeKind where
  | literal | field | unary | arithmetic | compare | boolean | windowAggregate | crosses
  | isMissing
  deriving DecidableEq, Repr

inductive AstValueType where
  | decimal | boolean | duration | timestamp | enum | missing
  deriving DecidableEq, Repr

inductive AstUnit where
  | price | volume | priceVolume | ratio | count | duration | boolean | dimensionless
  deriving DecidableEq, Repr

inductive ArithmeticOp where
  | add | subtract | multiply | divide | min | max
  deriving DecidableEq, Repr

/-- `ArithmeticOp(value)`. -/
def ArithmeticOp.ofValue : String → Option ArithmeticOp
  | "add" => some .add
  | "subtract" => some .subtract
  | "multiply" => some .multiply
  | "divide" => some .divide
  | "min" => some .min
  | "max" => some .max
  | _ => none

inductive AlignmentPolicy where
  | exact | previousFinal | boundedAsOf
  deriving DecidableEq, Repr

inductive FeatureRole where
  | trigger | context
  deriving DecidableEq, Repr

/-- `ALLOWED_FIELD_SPECS`. -/
def allowedFieldSpecs : List (String × AstValueType × AstUnit) :=
  [("ohlcv.open", .decimal, .price),
    ("ohlcv.high", .decimal, .price),
    ("ohlcv.low", .decimal, .price),
    ("ohlcv.close", .decimal, .price),
    ("ohlcv.volume", .decimal, .volume),
    ("trigger.ohlcv.high", .decimal, .price),
    ("feature.wilder_atr_v1.value", .decimal, .price),
    ("feature.wilder_atr_v1.context.value", .decimal, .price),
    ("swing.S", .decimal, .price),
    ("manual_level.R", .decimal, .price),
    ("cvd.at_bar_close", .decimal, .priceVolume),
    ("cvd.at_swing_close", .decimal, .priceVolume),
    ("flow.signed_quote_delta_T", .decimal, .priceVolume),
    ("flow.total_quote_volume_T", .decimal, .priceVolume),
    ("evidence.tick_size", .decimal, .price),
    ("predicate.finality", .boolean, .boolean),
    ("predicate.freshness", .boolean, .boolean),
    ("predicate.gap", .boolean, .boolean)]

/-- `ALLOWED_FIELD_SPECS.get(path)`. -/
def fieldSpec (path : String) : Option (AstValueType × AstUnit) := allowedFieldSpecs.lookup path

def allowedCompareOps : List String := ["eq", "ne", "lt", "lte", "gt", "gte"]

def allowedUnaryOps : List String := ["negate", "not"]

def allowedWindowOps : List String := ["min", "max", "sum", "mean", "count", "first", "last"]

def allowedBooleanOps : List String := ["and", "or"]

def allowedCrossesOps : List String := ["above", "below"]

/-- The units that may be added: `_COMPATIBLE_UNITS`, which is one unit with itself. -/
def compatibleUnits (left right : AstUnit) : Option AstUnit :=
  if left = right ∧ left ∈ [AstUnit.price, .volume, .priceVolume, .ratio, .count, .duration] then
    some left
  else none

def resultUnit (left : AstUnit) (op : ArithmeticOp) (right : AstUnit) : Option AstUnit :=
  match op with
  | .add | .subtract | .min | .max => compatibleUnits left right
  | .multiply =>
    if left = .price ∧ right = .volume then some .priceVolume
    else if left = .volume ∧ right = .price then some .priceVolume
    else if left = .ratio ∨ right = .ratio then some (if left = .ratio then right else left)
    else if left = right then some left
    else none
  | .divide =>
    if left = right then some .ratio
    else if right = .ratio then some left
    else none

/-- A node; what its kind does not use may be given and is ignored. `astUnit` is the source's
`unit`. -/
structure AstExpr where
  kind : AstNodeKind
  value : Option String
  valueType : Option AstValueType
  astUnit : Option AstUnit
  path : Option String
  op : Option String
  args : List AstExpr
  strict : Option Bool
  alignment : Option AlignmentPolicy
  windowBars : Option Nat

/-- Induction over the arguments of a node. -/
theorem AstExpr.node_induction {P : AstExpr → Prop}
    (node : ∀ expr : AstExpr, (∀ arg ∈ expr.args, P arg) → P expr) : ∀ expr : AstExpr, P expr :=
  @AstExpr.rec P (fun args => ∀ arg ∈ args, P arg) (fun _ _ _ _ _ _ _ _ _ _ ih => node _ ih)
    (List.forall_mem_nil P) fun _ _ first rest => List.forall_mem_cons.mpr ⟨first, rest⟩

/-! ## Units -/

def foldUnits (op : ArithmeticOp) : List AstUnit → Option AstUnit
  | first :: rest => rest.foldlM (resultUnit · op ·) first
  | [] => none

/-- What `_node_unit` makes of the units of arithmetic operands. -/
def arithmeticUnit (op : Option String) (units : List (Option AstUnit)) : Option AstUnit := do
  if units.length < 2 then none
  let op ← op.bind ArithmeticOp.ofValue
  let units ← units.mapM id
  foldUnits op units

mutual

/-- `_node_unit`. -/
def nodeUnit : AstExpr → Option AstUnit
  | ⟨kind, _, _, astUnit, path, op, args, _, _, _⟩ =>
    match astUnit with
    | some annotated => some annotated
    | none =>
      match kind with
      | .field => (path.bind fieldSpec).map (·.2)
      | .unary | .windowAggregate => (nodeUnits args).head?.join
      | .arithmetic => arithmeticUnit op (nodeUnits args)
      | .compare | .boolean | .isMissing => some .boolean
      | .literal | .crosses => none
  termination_by structural expr => expr

def nodeUnits : List AstExpr → List (Option AstUnit)
  | [] => []
  | arg :: args => nodeUnit arg :: nodeUnits args
  termination_by structural args => args

end

theorem nodeUnits_eq_map (args : List AstExpr) : nodeUnits args = args.map nodeUnit := by
  induction args with
  | nil => rfl
  | cons arg args ih => rw [nodeUnits, ih, List.map_cons]

/-! ## Checks -/

structure CompileFailure where
  code : String
  message : String
  path : Option String
  deriving DecidableEq, Repr

/-- `repr` of a text, and the digest of a pattern's dump. -/
structure CompilerRuntime (Pattern : Type) where
  pyRepr : String → String
  canonicalSha256 : Pattern → String

/-- `repr` of an optional text. -/
def reprOption (pyRepr : String → String) : Option String → String
  | none => "None"
  | some text => pyRepr text

def incompatibleOperands (op : ArithmeticOp) (units : List AstUnit) (path : String) :
    List CompileFailure :=
  if 2 ≤ units.length ∧ foldUnits op units = none then
    [⟨"incompatible_units", "Arithmetic units are incompatible.", some path⟩]
  else []

variable (pyRepr : String → String)

mutual

def validateExpr (path : String) : AstExpr → List CompileFailure
  | ⟨kind, value, valueType, astUnit, fieldPath, op, args, _, _, windowBars⟩ =>
    let fail (code message : String) : List CompileFailure := [⟨code, message, some path⟩]
    match kind with
    | .literal =>
      if value = none ∨ valueType = none ∨ astUnit = none then
        fail "invalid_literal" "Literal requires value, type, and unit."
      else []
    | .field =>
      match fieldPath.bind fieldSpec with
      | none =>
        fail "unsupported_field"
          ("Field " ++ reprOption pyRepr fieldPath ++ " is not in the V1 allowlist.")
      | some (expectedType, expectedUnit) =>
        if valueType ∉ [none, some expectedType] ∨ astUnit ∉ [none, some expectedUnit] then
          fail "field_type_mismatch" "Field type/unit does not match allowlist."
        else []
    | .unary =>
      (if op.any (· ∈ allowedUnaryOps) then []
        else fail "unsupported_operator"
          ("Unary operator " ++ reprOption pyRepr op ++ " rejected.")) ++
      match args with
      | [arg] => validateExpr (path ++ ".args[0]") arg
      | _ => fail "invalid_arity" "Unary requires one argument."
    | .arithmetic =>
      match op.bind ArithmeticOp.ofValue with
      | none =>
        fail "unsupported_operator"
          ("Arithmetic operator " ++ reprOption pyRepr op ++ " rejected.")
      | some arithmeticOp =>
        if args.length < 2 then
          fail "invalid_arity" "Arithmetic requires at least two arguments."
        else
          validateArgs path
            (fun arg => if nodeUnit arg = none then
              fail "missing_unit" "Arithmetic operand missing unit." else []) 0 args ++
          incompatibleOperands arithmeticOp ((nodeUnits args).filterMap id) path
    | .compare =>
      if !op.any (· ∈ allowedCompareOps) then
        fail "unsupported_operator" ("Compare operator " ++ reprOption pyRepr op ++ " rejected.")
      else
        match args with
        | [left, right] =>
          validateExpr (path ++ ".left") left ++ validateExpr (path ++ ".right") right ++
            if nodeUnit left ≠ none ∧ nodeUnit right ≠ none ∧ nodeUnit left ≠ nodeUnit right then
              fail "incompatible_units" "Compare operands require compatible units."
            else []
        | _ => fail "invalid_arity" "Compare requires two arguments."
    | .boolean =>
      (if op.any (· ∈ allowedBooleanOps) then []
        else fail "unsupported_operator"
          ("Boolean operator " ++ reprOption pyRepr op ++ " rejected.")) ++
      if args.length < 2 then fail "invalid_arity" "Boolean requires at least two arguments."
      else validateArgs path (fun _ => []) 0 args
    | .windowAggregate =>
      (if op.any (· ∈ allowedWindowOps) then []
        else fail "unsupported_operator"
          ("Window operator " ++ reprOption pyRepr op ++ " rejected.")) ++
      (if windowBars = none then
        fail "invalid_window" "WindowAggregate requires window_bars." else []) ++
      match args with
      | [arg] => validateExpr (path ++ ".series") arg
      | _ => fail "invalid_arity" "WindowAggregate requires one series."
    | .crosses =>
      (if op.any (· ∈ allowedCrossesOps) then []
        else fail "unsupported_operator"
          ("Crosses operator " ++ reprOption pyRepr op ++ " rejected.")) ++
      match args with
      | [left, right] =>
        validateExpr (path ++ ".left") left ++ validateExpr (path ++ ".right") right
      | _ => fail "invalid_arity" "Crosses requires left and right."
    | .isMissing =>
      match args with
      | [arg] => validateExpr (path ++ ".args[0]") arg
      | _ => fail "invalid_arity" "IsMissing requires one argument."
  termination_by structural expr => expr

def validateArgs (path : String) (here : AstExpr → List CompileFailure) (index : Nat) :
    List AstExpr → List CompileFailure
  | [] => []
  | arg :: args =>
    validateExpr (path ++ ".args[" ++ toString index ++ "]") arg ++ here arg ++
      validateArgs path here (index + 1) args
  termination_by structural args => args

end

/-! ## Patterns -/

structure FeatureRef where
  featureType : String
  featureVersion : String
  role : FeatureRole
  period : Nat
  timeframe : String
  deriving DecidableEq, Repr

structure PatternStep where
  stepId : String
  predicate : AstExpr
  resetOn : Option AstExpr
  invalidateOn : Option AstExpr

/-- `attributes` stands for the fields that only the digest reads. -/
structure PatternAst where
  compilerVersion : String
  grammarVersion : String
  features : List FeatureRef
  preconditions : AstExpr
  sequence : List PatternStep
  trigger : AstExpr
  invalidation : List AstExpr
  attributes : String

inductive SetupCompileStatus where
  | executable | nonExecutable
  deriving DecidableEq, Repr

structure CompiledAstDocument where
  compilerVersion : String
  grammarVersion : String
  pattern : PatternAst
  contentHash : String

structure CompileResult where
  status : SetupCompileStatus
  document : Option CompiledAstDocument
  failures : List CompileFailure

mutual

/-- `_required_feature_paths`. -/
def requiredFeaturePaths : AstExpr → List String
  | ⟨kind, _, _, _, path, _, args, _, _, _⟩ =>
    (path.toList.filter fun path => kind = .field && path.startsWith "feature.") ++
      requiredFeaturePathsOf args
  termination_by structural expr => expr

def requiredFeaturePathsOf : List AstExpr → List String
  | [] => []
  | arg :: args => requiredFeaturePaths arg ++ requiredFeaturePathsOf args
  termination_by structural args => args

end

/-- `_walk_pattern_exprs`: the expressions of a pattern under their paths. -/
def walkPatternExprs (pattern : PatternAst) : List (String × AstExpr) :=
  [("preconditions", pattern.preconditions), ("trigger", pattern.trigger)] ++
    pattern.invalidation.mapIdx (fun index item =>
      ("invalidation[" ++ toString index ++ "]", item)) ++
    (pattern.sequence.mapIdx fun index step =>
      let path := "sequence[" ++ toString index ++ "]"
      (path ++ ".predicate", step.predicate) ::
        (step.resetOn.toList.map (path ++ ".reset_on", ·) ++
          step.invalidateOn.toList.map (path ++ ".invalidate_on", ·))).flatten

def featureFailures (pattern : PatternAst) : List CompileFailure :=
  let fail (message : String) : CompileFailure := ⟨"missing_feature", message, some "features"⟩
  let paths := (walkPatternExprs pattern).flatMap fun walked => requiredFeaturePaths walked.2
  let roles := pattern.features.map (·.role)
  (pattern.features.flatMap fun feature =>
    (if feature.featureType = "WILDER_ATR" then []
      else [fail ("Feature type " ++ pyRepr feature.featureType ++ " is not supported in V1.")]) ++
    (if feature.featureVersion = "wilder-atr/v1" then []
      else [fail ("Feature version " ++ pyRepr feature.featureVersion ++ " is not supported.")])) ++
  (if "feature.wilder_atr_v1.value" ∈ paths ∧ .trigger ∉ roles then
    [fail "WilderAtrFeatureV1 trigger feature is required."] else []) ++
  (if "feature.wilder_atr_v1.context.value" ∈ paths ∧ .context ∉ roles then
    [fail "WilderAtrFeatureV1 context feature is required."] else [])

def compilePattern (runtime : CompilerRuntime PatternAst) (pattern : PatternAst) :
    CompileResult :=
  let failures := ((walkPatternExprs pattern).flatMap fun walked =>
    validateExpr runtime.pyRepr walked.1 walked.2) ++ featureFailures runtime.pyRepr pattern
  if failures = [] then
    { status := .executable
      document := some {
        compilerVersion := pattern.compilerVersion
        grammarVersion := pattern.grammarVersion
        pattern
        contentHash := runtime.canonicalSha256 pattern }
      failures := [] }
  else { status := .nonExecutable, document := none, failures }

end AlphaTrade.StrategyBrain
