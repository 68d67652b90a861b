import SheetQuery.Sql.Catalog

/-!
# Terms

An expression becomes a term when its columns are found in the tables at hand: a term refers to columns
by place, and its value on a row always exists.

* `Scope.resolve` finds the columns of an expression; it fails at the leftmost reference that is missing
  or that several tables have.
* `Term.eval` is the value of a term on a row.
-/

namespace SheetQuery.Sql

inductive Comparison where
  | equal
  | notEqual
  | less
  | lessEqual
  | greater
  | greaterEqual
deriving DecidableEq, Repr

def Comparison.holds (c : Comparison) (o : Ordering) : Bool :=
  match c with
  | .equal => o == .eq
  | .notEqual => o != .eq
  | .less => o == .lt
  | .lessEqual => o != .gt
  | .greater => o == .gt
  | .greaterEqual => o != .lt

inductive Arithmetic where
  | add
  | subtract
  | multiply
  | divide
  | remainder
deriving DecidableEq, Repr

/-- An expression whose columns are known by their places in a row. -/
inductive Term where
  | constant (v : Value)
  | column (place : Nat)
  | parameter (number : Nat)
  | not (operand : Term)
  | and (left right : Term)
  | or (left right : Term)
  /-- A comparison of operands that are converted first; null if one of them is. -/
  | compare (c : Comparison) (conversion : Option Affinity) (left right : Term)
  /-- Equality in which null equals null. -/
  | is (negated : Bool) (conversion : Option Affinity) (left right : Term)
  | like (negated : Bool) (left right : Term)
  | arithmetic (op : Arithmetic) (left right : Term)
  | concat (left right : Term)
  | isNull (operand : Term) (negated : Bool)
  | cast (operand : Term) (affinity : Affinity)
  | countRows
  | count (operand : Term)
deriving DecidableEq

structure Surroundings where
  row : List Value
  parameters : List Value
  group : List (List Value)

/-- A text matches a pattern in which `%` stands for any text and `_` for any character; ASCII letters
match in either case. -/
def likeMatches : Text → Text → Bool
  | [], s => s.isEmpty
  | '%' :: p, [] => likeMatches p []
  | '%' :: p, c :: s => likeMatches p (c :: s) || likeMatches ('%' :: p) s
  | _ :: _, [] => false
  | d :: p, c :: s => (d == '_' || c.toLower == d.toLower) && likeMatches p s
termination_by p s => p.length + s.length

namespace Value

def converted (conversion : Option Affinity) (v : Value) : Value :=
  match conversion with
  | some .text => store .text v
  | some .numeric | some .integer | some .real => v.toNumeric
  | _ => v

/-- A comparison of two values; unknown if one is null. -/
def compareTruth (c : Comparison) (conversion : Option Affinity) (v w : Value) : Option Bool :=
  match v, w with
  | .null, _ | _, .null => none
  | v, w => some (c.holds (order (v.converted conversion) (w.converted conversion)))

/-- An operation on two integers, or none if they have to be taken as floating point numbers. -/
def integerArithmetic (op : Arithmetic) (i j : Int) : Value :=
  let exact : Int :=
    match op with
    | .add => i + j
    | .subtract => i - j
    | .multiply => i * j
    | .divide => Int.tdiv i j
    | .remainder => Int.tmod i j
  if (op = .divide ∨ op = .remainder) ∧ j = 0 then .null
  else if minInteger ≤ exact ∧ exact ≤ maxInteger then .integer exact
  else
    let x := Binary64.ofInt i
    let y := Binary64.ofInt j
    .ofReal (match op with
      | .add => x.add y
      | .subtract => x.sub y
      | .multiply => x.mul y
      | _ => x.div y)

def realArithmetic (op : Arithmetic) (x y : Binary64) : Value :=
  match op with
  | .add => .ofReal (x.add y)
  | .subtract => .ofReal (x.sub y)
  | .multiply => .ofReal (x.mul y)
  | .divide => if y.isZero then .null else .ofReal (x.div y)
  | .remainder =>
    match integerArithmetic .remainder x.truncate y.truncate with
    | .integer i => .real (Binary64.ofInt i)
    | v => v

/-- An operation on two values: texts count as the numbers that they begin with, and null makes null. -/
def arithmetic (op : Arithmetic) (v w : Value) : Value :=
  match v.asNumber, w.asNumber with
  | .integer i, .integer j => integerArithmetic op i j
  | .integer i, .real y => realArithmetic op (Binary64.ofInt i) y
  | .real x, .integer j => realArithmetic op x (Binary64.ofInt j)
  | .real x, .real y => realArithmetic op x y
  | _, _ => .null

def concat (v w : Value) : Value :=
  match v, w with
  | .null, _ | _, .null => .null
  | v, w => .text (v.asText ++ w.asText)

def likeTruth (v pattern : Value) : Option Bool :=
  match v, pattern with
  | .null, _ | _, .null => none
  | v, pattern => some (likeMatches pattern.asText v.asText)

end Value

/-- Both hold, unless one is known to fail. -/
def truthAnd : Option Bool → Option Bool → Option Bool
  | some false, _ | _, some false => some false
  | some true, some true => some true
  | _, _ => none

def truthOr : Option Bool → Option Bool → Option Bool
  | some true, _ | _, some true => some true
  | some false, some false => some false
  | _, _ => none

namespace Term

def eval (env : Surroundings) : Term → Value
  | constant v => v
  | column place => env.row.getD place .null
  | parameter number => env.parameters.getD (number - 1) .null
  | not t => .ofTruth ((eval env t).truth.map (!·))
  | and s t => .ofTruth (truthAnd (eval env s).truth (eval env t).truth)
  | or s t => .ofTruth (truthOr (eval env s).truth (eval env t).truth)
  | compare c conversion s t => .ofTruth (Value.compareTruth c conversion (eval env s) (eval env t))
  | is negated conversion s t =>
    let v := (eval env s).converted conversion
    let w := (eval env t).converted conversion
    .ofTruth (some ((Value.order v w == .eq) != negated))
  | like negated s t => .ofTruth ((Value.likeTruth (eval env s) (eval env t)).map (· != negated))
  | arithmetic op s t => Value.arithmetic op (eval env s) (eval env t)
  | concat s t => Value.concat (eval env s) (eval env t)
  | isNull t negated => .ofTruth (some ((eval env t == .null) != negated))
  | cast t affinity => Value.cast affinity (eval env t)
  | countRows => .integer env.group.length
  | count t => .integer (env.group.countP fun row => eval { env with row := row, group := [] } t != .null)

def holds (env : Surroundings) (t : Term) : Bool := (t.eval env).truth == some true

def counts : Term → Bool
  | countRows | count _ => true
  | not t | isNull t _ | cast t _ => counts t
  | and s t | or s t | compare _ _ s t | is _ _ s t | like _ s t | arithmetic _ s t | concat s t =>
    counts s || counts t
  | constant _ | column _ | parameter _ => false

end Term

/-- A term, and the affinity of the column that it stands for, if any. -/
structure Typed where
  term : Term
  affinity : Option Affinity
deriving DecidableEq

/-- A table as an expression sees it. Its row number stands in front of its columns in a row. -/
structure ScopeTable where
  name : Text
  columns : List (Text × Affinity)
  /-- The name that the row number has in results, if it can be asked for. -/
  number : Option Text
deriving DecidableEq

def ScopeTable.width (t : ScopeTable) : Nat := t.columns.length + 1

structure Scope where
  tables : List ScopeTable
  aliases : List (Text × Typed)

namespace Scope

def nothing : Scope := ⟨[], []⟩

def placed (start : Nat) : List ScopeTable → List (Nat × ScopeTable)
  | [] => []
  | t :: rest => (start, t) :: placed (start + t.width) rest

def isNumberName (name : Text) : Bool :=
  Text.sameName name "rowid".toList || Text.sameName name "oid".toList ||
    Text.sameName name "_rowid_".toList

/-- The columns that a reference may mean, one for each table that has it. -/
def candidates (scope : Scope) (table : Option Text) (name : Text) : List Typed :=
  (placed 0 scope.tables).filterMap fun (start, t) =>
    if table.any fun given => !Text.sameName given t.name then none
    else
      match t.columns.findIdx? fun c => Text.sameName c.1 name with
      | some k => some ⟨.column (start + 1 + k), (t.columns[k]?).map (·.2)⟩
      | none => none

def numberCandidates (scope : Scope) (table : Option Text) (name : Text) : List Typed :=
  if isNumberName name then
    (placed 0 scope.tables).filterMap fun (start, t) =>
      if (table.any fun given => !Text.sameName given t.name) || t.number.isNone then none
      else some ⟨.column start, some .integer⟩
  else []

/-- The column that a reference means. A name in double quotes that means none is a text. -/
def resolveColumn (scope : Scope) (table : Option Text) (name : Text) (quoted : Bool) (offset : Nat) :
    Except Located Typed :=
  let shown : Text :=
    match table with
    | some t => t ++ '.' :: name
    | none => name
  match scope.candidates table name with
  | [found] => .ok found
  | _ :: _ :: _ => .error ((Fault.ambiguousColumn shown).at offset)
  | [] =>
    match scope.numberCandidates table name with
    | [found] => .ok found
    | _ =>
      match table, scope.aliases.find? fun a => Text.sameName a.1 name with
      | none, some a => .ok a.2
      | _, _ =>
        if quoted then .ok ⟨.constant (.text name), none⟩
        else .error ((Fault.noSuchColumn shown).at offset)

/-- How the operands of a comparison are converted: to numbers if one is a column of numbers, to texts
if a column of texts meets something that is no column. -/
def conversion (left right : Option Affinity) : Option Affinity :=
  let isNumber (a : Affinity) : Bool := a = .numeric || a = .integer || a = .real
  match left, right with
  | some a, some b => if isNumber a || isNumber b then some .numeric else none
  | some a, none | none, some a =>
    if isNumber a then some .numeric else if a = .text then some .text else none
  | none, none => none

def binaryTerm (op : BinaryOp) (left right : Typed) : Term :=
  let conv := conversion left.affinity right.affinity
  let s := left.term
  let t := right.term
  match op with
  | .or => .or s t
  | .and => .and s t
  | .equal => .compare .equal conv s t
  | .notEqual => .compare .notEqual conv s t
  | .is => .is false conv s t
  | .isNot => .is true conv s t
  | .like => .like false s t
  | .notLike => .like true s t
  | .less => .compare .less conv s t
  | .lessEqual => .compare .lessEqual conv s t
  | .greater => .compare .greater conv s t
  | .greaterEqual => .compare .greaterEqual conv s t
  | .add => .arithmetic .add s t
  | .subtract => .arithmetic .subtract s t
  | .multiply => .arithmetic .multiply s t
  | .divide => .arithmetic .divide s t
  | .remainder => .arithmetic .remainder s t
  | .concat => .concat s t

/-- The value of a hexadecimal integer of at most sixteen digits, taken as 64 bits with a sign. The one
whose sign cannot be changed has no negative. -/
def hexadecimalValue (negative : Bool) (written : Text) (offset : Nat) : Except Located Value :=
  let digits := (written.drop 2).dropWhile (· = '0')
  let n : Int := Text.hexDigitsValue digits
  let i := if n ≤ maxInteger then n else n - 2 * (maxInteger + 1)
  if digits.length > 16 ∨ (negative ∧ i = minInteger) then
    .error ((Fault.hexTooBig (if negative then '-' :: written else written)).at offset)
  else .ok (.integer (if negative then -i else i))

/-- A literal with the other sign; any other term is subtracted from zero. -/
def negated : Term → Term
  | .constant (.real x) => .constant (.real x.negate)
  | t => .arithmetic .subtract (.constant (.integer 0)) t

def resolve (scope : Scope) : Expr → Except Located Typed
  | .literal v => .ok ⟨.constant v, none⟩
  | .natural n _ => .ok ⟨.constant (.ofInt n), none⟩
  | .hexadecimal written offset => do
    return ⟨.constant (← hexadecimalValue false written offset), none⟩
  | .column table name quoted offset => scope.resolveColumn table name quoted offset
  | .parameter number => .ok ⟨.parameter number, none⟩
  | .unary .negate (.natural n _) => .ok ⟨.constant (.ofInt (-n)), none⟩
  | .unary .negate (.hexadecimal written offset) => do
    return ⟨.constant (← hexadecimalValue true written offset), none⟩
  | .unary op e => do
    let t ← resolve scope e
    return match op with
      | .not => ⟨.not t.term, none⟩
      | .negate => ⟨negated t.term, none⟩
      | .plus => ⟨t.term, none⟩
  | .binary op left right => do
    let s ← resolve scope left
    let t ← resolve scope right
    return ⟨binaryTerm op s t, none⟩
  | .isNull e negated => do
    let t ← resolve scope e
    return ⟨.isNull t.term negated, none⟩
  | .cast e affinity => do
    let t ← resolve scope e
    return ⟨.cast t.term affinity, some affinity⟩
  | .countRows => .ok ⟨.countRows, none⟩
  | .count e => do
    let t ← resolve scope e
    return ⟨.count t.term, none⟩
  | .unknownCall name offset => .error ((Fault.noSuchFunction name).at offset)
  | .raise .. => .error Fault.raiseOutside.anywhere

def resolveAll (scope : Scope) : List Expr → Except Located (List Typed)
  | [] => .ok []
  | e :: rest => do
    let t ← scope.resolve e
    return t :: (← resolveAll scope rest)

def resolveOptional (scope : Scope) : Option Expr → Except Located (Option Term)
  | none => .ok none
  | some e => do
    let t ← scope.resolve e
    return some t.term

end Scope

def Table.scope (t : Table) (name : Text) : ScopeTable :=
  ⟨name, t.columns.map fun c => (c.name, c.affinity), some t.numberName⟩

def Row.members (r : Row) : List Value := .integer r.number :: r.values

end SheetQuery.Sql
