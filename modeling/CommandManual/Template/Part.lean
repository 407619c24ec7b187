import CommandManual.Template.Datum
import CommandManual.Template.Token

/-!
# Templates

A template is a list of parts: text, expressions whose value is written, parts that depend on a
condition, and parts that are repeated for the items of a list.

## Main definitions

* `Expr`, `Part`: expressions and parts.
* `parse`: the parts of a template, or the line of the first fault.

## Implementation notes

The readers below take a number of steps that is computed from the tokens and is never used up: a
step that reads no token leads within a few steps to one that does.
-/

namespace CommandManual

namespace Template

/-- An expression. -/
inductive Expr where
  | name (n : Text)
  | literal (d : Datum)
  | attribute (e : Expr) (n : Text)
  | filter (line : Nat) (n : Text) (e : Expr) (args : List Expr)
  | negation (e : Expr)
  | conjunction (a b : Expr)
  | disjunction (a b : Expr)
  | compare (op : Text) (a b : Expr)
  deriving Inhabited

/-- A part of a template. -/
inductive Part where
  | text (t : Text)
  | print (e : Expr)
  | choice (e : Expr) (yes no : List Part)
  /-- The variable of a loop stands on a line. -/
  | loop (line : Nat) (item : Text) (e : Expr) (body otherwise : List Part)
  deriving Inhabited

/-- What a reader returns: something read and the tokens behind it, or the line of a fault. -/
abbrev Reader (α : Type) := List Located → Except Nat (α × List Located)

/-- The line of the first token. -/
def lineOf : List Located → Nat
  | [] => 0
  | t :: _ => t.line

/-- Fail at the first token. -/
def refuse {α : Type} : Reader α := fun ts => .error (lineOf ts)

/-- Read one token. -/
def expect (tok : Token) : Reader Unit
  | t :: ts => if t.token = tok then .ok ((), ts) else .error t.line
  | [] => .error 0

/-- Read a name. -/
def readName : Reader Text
  | ⟨_, .name n⟩ :: ts => .ok (n, ts)
  | ts => .error (lineOf ts)

/-- The signs that compare. -/
def comparisons : List Text := ["==", "!=", "<", ">", "<=", ">="].map String.toList

/-- Words that are values. -/
def constant? (n : Text) : Option Datum :=
  if n = "true".toList || n = "True".toList then some (.bool true)
  else if n = "false".toList || n = "False".toList then some (.bool false)
  else if n = "none".toList || n = "None".toList then some .nothing
  else none

mutual

/-- Alternatives. -/
def readExpr : Nat → Reader Expr
  | 0, ts => refuse ts
  | fuel + 1, ts => do
    let (e, ts) ← readConjunction fuel ts
    readMoreOr fuel e ts

/-- Further alternatives. -/
def readMoreOr : Nat → Expr → Reader Expr
  | 0, _, ts => refuse ts
  | fuel + 1, e, ts =>
    match ts with
    | ⟨l, .name n⟩ :: rest =>
      if n = "or".toList then do
        let (e', ts) ← readConjunction fuel rest
        readMoreOr fuel (.disjunction e e') ts
      else .ok (e, ⟨l, .name n⟩ :: rest)
    | ts => .ok (e, ts)

/-- Conditions that hold together. -/
def readConjunction : Nat → Reader Expr
  | 0, ts => refuse ts
  | fuel + 1, ts => do
    let (e, ts) ← readNegation fuel ts
    readMoreAnd fuel e ts

/-- Further conditions that hold together. -/
def readMoreAnd : Nat → Expr → Reader Expr
  | 0, _, ts => refuse ts
  | fuel + 1, e, ts =>
    match ts with
    | ⟨l, .name n⟩ :: rest =>
      if n = "and".toList then do
        let (e', ts) ← readNegation fuel rest
        readMoreAnd fuel (.conjunction e e') ts
      else .ok (e, ⟨l, .name n⟩ :: rest)
    | ts => .ok (e, ts)

/-- A condition, negated or not. -/
def readNegation : Nat → Reader Expr
  | 0, ts => refuse ts
  | fuel + 1, ts =>
    match ts with
    | ⟨l, .name n⟩ :: rest =>
      if n = "not".toList then do
        let (e, ts) ← readNegation fuel rest
        return (.negation e, ts)
      else readComparison fuel (⟨l, .name n⟩ :: rest)
    | ts => readComparison fuel ts

/-- A value, or two values that are compared. -/
def readComparison : Nat → Reader Expr
  | 0, ts => refuse ts
  | fuel + 1, ts => do
    let (e, ts) ← readOperand fuel ts
    match ts with
    | ⟨l, .sign s⟩ :: rest =>
      if s ∈ comparisons then do
        let (e', ts) ← readOperand fuel rest
        return (.compare s e e', ts)
      else return (e, ⟨l, .sign s⟩ :: rest)
    | ts => return (e, ts)

/-- A value with its attributes and filters. -/
def readOperand : Nat → Reader Expr
  | 0, ts => refuse ts
  | fuel + 1, ts =>
    match ts with
    | ⟨_, .name n⟩ :: rest => do
      let (e, ts) ← readAttributes fuel ((constant? n).elim (.name n) .literal) rest
      readFilters fuel e ts
    | ⟨_, .string t⟩ :: rest => do
      let (e, ts) ← readAttributes fuel (.literal (.text t)) rest
      readFilters fuel e ts
    | ⟨_, .int n⟩ :: rest => do
      let (e, ts) ← readAttributes fuel (.literal (.int n)) rest
      readFilters fuel e ts
    | ⟨l, .sign s⟩ :: rest =>
      if s = ['('] then do
        let (e, ts) ← readExpr fuel rest
        let (_, ts) ← expect (.sign [')']) ts
        let (e, ts) ← readAttributes fuel e ts
        readFilters fuel e ts
      else .error l
    | ts => refuse ts

/-- The attributes of a value. -/
def readAttributes : Nat → Expr → Reader Expr
  | 0, _, ts => refuse ts
  | fuel + 1, e, ts =>
    match ts with
    | ⟨l, .sign s⟩ :: rest =>
      if s = ['.'] then do
        let (n, ts) ← readName rest
        readAttributes fuel (.attribute e n) ts
      else .ok (e, ⟨l, .sign s⟩ :: rest)
    | ts => .ok (e, ts)

/-- The filters of a value. -/
def readFilters : Nat → Expr → Reader Expr
  | 0, _, ts => refuse ts
  | fuel + 1, e, ts =>
    match ts with
    | ⟨l, .sign s⟩ :: rest =>
      if s = ['|'] then do
        let line := lineOf rest
        let (n, ts) ← readName rest
        let (n, ts) ← readDottedName fuel n ts
        match ts with
        | ⟨l, .sign s⟩ :: rest =>
          if s = ['('] then do
            let (args, ts) ← readArguments fuel rest
            readFilters fuel (.filter line n e args) ts
          else readFilters fuel (.filter line n e []) (⟨l, .sign s⟩ :: rest)
        | ts => readFilters fuel (.filter line n e []) ts
      else .ok (e, ⟨l, .sign s⟩ :: rest)
    | ts => .ok (e, ts)

/-- The name of a filter, which may go on behind a point. -/
def readDottedName : Nat → Text → Reader Text
  | 0, _, ts => refuse ts
  | fuel + 1, n, ts =>
    match ts with
    | ⟨l, .sign s⟩ :: rest =>
      if s = ['.'] then do
        let (m, ts) ← readName rest
        readDottedName fuel (n ++ '.' :: m) ts
      else .ok (n, ⟨l, .sign s⟩ :: rest)
    | ts => .ok (n, ts)

/-- The arguments of a filter, up to the closing parenthesis. -/
def readArguments : Nat → Reader (List Expr)
  | 0, ts => refuse ts
  | fuel + 1, ts =>
    match ts with
    | ⟨l, .sign s⟩ :: rest =>
      if s = [')'] then .ok ([], rest)
      else do
        let (e, ts) ← readExpr fuel (⟨l, .sign s⟩ :: rest)
        readMoreArguments fuel [e] ts
    | ts => do
      let (e, ts) ← readExpr fuel ts
      readMoreArguments fuel [e] ts

/-- Further arguments of a filter, each behind a comma. -/
def readMoreArguments : Nat → List Expr → Reader (List Expr)
  | 0, _, ts => refuse ts
  | fuel + 1, es, ts =>
    match ts with
    | ⟨l, .sign s⟩ :: rest =>
      if s = [')'] then .ok (es, rest)
      else if s = [','] then do
        let (e, ts) ← readExpr fuel rest
        readMoreArguments fuel (es ++ [e]) ts
      else .error l
    | ts => refuse ts

end

/-- What ends a statement in front of its parts: a colon or not, and the mark that closes the tag.
-/
def expectBody (ts : List Located) : Except Nat (Unit × List Located) :=
  match ts with
  | ⟨_, .sign [':']⟩ :: rest => expect .closeBlock rest
  | ts => expect .closeBlock ts

mutual

/-- The parts up to a statement whose word is in `ends`; that word is the first token behind
them. Without a list the parts go up to the end of the template. -/
def readParts : Nat → (ends : List Text) → Reader (List Part)
  | 0, _, ts => refuse ts
  | fuel + 1, ends, ts =>
    match ts with
    | ⟨_, .data t⟩ :: rest => do
      let (ps, ts) ← readParts fuel ends rest
      return (.text t :: ps, ts)
    | ⟨_, .openPrint⟩ :: rest => do
      let (e, ts) ← readExpr fuel rest
      let (_, ts) ← expect .closePrint ts
      let (ps, ts) ← readParts fuel ends ts
      return (.print e :: ps, ts)
    | ⟨_, .openBlock⟩ :: ⟨l, .name n⟩ :: rest =>
      if n ∈ ends then .ok ([], ⟨l, .name n⟩ :: rest)
      else if n = "if".toList then do
        let (p, ts) ← readChoice fuel rest
        let (ps, ts) ← readParts fuel ends ts
        return (p :: ps, ts)
      else if n = "for".toList then do
        let (p, ts) ← readLoop fuel rest
        let (ps, ts) ← readParts fuel ends ts
        return (p :: ps, ts)
      else .error l
    | ⟨_, .openBlock⟩ :: rest => .error (lineOf rest)
    | ⟨l, .stop⟩ :: rest => if ends.isEmpty then .ok ([], ⟨l, .stop⟩ :: rest) else .error l
    | ts => refuse ts

/-- What follows the word `if`: a condition, parts, and what closes or continues the choice. -/
def readChoice : Nat → Reader Part
  | 0, ts => refuse ts
  | fuel + 1, ts => do
    let (e, ts) ← readExpr fuel ts
    let (_, ts) ← expectBody ts
    let (yes, ts) ← readParts fuel (["elif", "else", "endif"].map String.toList) ts
    let (word, ts) ← readName ts
    if word = "elif".toList then
      let (p, ts) ← readChoice fuel ts
      return (.choice e yes [p], ts)
    else if word = "else".toList then
      let (_, ts) ← expectBody ts
      let (no, ts) ← readParts fuel ["endif".toList] ts
      let (_, ts) ← readName ts
      let (_, ts) ← expect .closeBlock ts
      return (.choice e yes no, ts)
    else
      let (_, ts) ← expect .closeBlock ts
      return (.choice e yes [], ts)

/-- What follows the word `for`: a variable, a list, parts, and what closes the loop. -/
def readLoop : Nat → Reader Part
  | 0, ts => refuse ts
  | fuel + 1, ts => do
    let line := lineOf ts
    let (x, ts) ← readName ts
    if x = "in".toList || (constant? x).isSome then throw line
    let (_, ts) ← expect (.name "in".toList) ts
    let (e, ts) ← readExpr fuel ts
    let (_, ts) ← expectBody ts
    let (body, ts) ← readParts fuel (["endfor", "else"].map String.toList) ts
    let (word, ts) ← readName ts
    if word = "else".toList then
      let (_, ts) ← expectBody ts
      let (otherwise, ts) ← readParts fuel ["endfor".toList] ts
      let (_, ts) ← readName ts
      let (_, ts) ← expect .closeBlock ts
      return (.loop line x e body otherwise, ts)
    else
      let (_, ts) ← expect .closeBlock ts
      return (.loop line x e body [], ts)

end

/-- The filters of expressions. -/
def filterNames : List Text := ["oneline", "join", "length", "count"].map String.toList

/-- The line of the first filter of an expression that does not exist. -/
def Expr.unknownFilter : Expr → Option Nat
  | .name _ | .literal _ => none
  | .attribute e _ | .negation e => e.unknownFilter
  | .filter line n e _ => if n ∈ filterNames then e.unknownFilter else some line
  | .conjunction a b | .disjunction a b | .compare _ a b => a.unknownFilter.or b.unknownFilter

/-- The name that loops use for themselves. -/
def loopName : Text := "loop".toList

mutual

/-- The line of the first loop of a part whose variable has the name that loops use. -/
def Part.misnamedLoop : Part → Option Nat
  | .text _ | .print _ => none
  | .choice _ yes no => (misnamedLoops yes).or (misnamedLoops no)
  | .loop line x _ body otherwise =>
    if x = loopName then some line else (misnamedLoops body).or (misnamedLoops otherwise)

/-- The line of the first loop of some parts whose variable has the name that loops use. -/
def misnamedLoops : List Part → Option Nat
  | [] => none
  | p :: ps => p.misnamedLoop.or (misnamedLoops ps)

end

mutual

/-- The line of the first fault of a part that can be read: a filter that does not exist, or a loop
whose variable has the name that loops use. Inside a choice such a filter is no fault before it is
used, unless a loop stands between. -/
def Part.fault? (lenient : Bool) : Part → Option Nat
  | .text _ => none
  | .print e => if lenient then none else e.unknownFilter
  | .choice _ yes no => (faults? true yes).or (faults? true no)
  | .loop line x e body otherwise =>
    ((Part.loop line x e body otherwise).misnamedLoop.or
      (if lenient then none else e.unknownFilter)).or
        ((faults? false body).or (faults? false otherwise))

/-- The line of the first fault of some parts. -/
def faults? (lenient : Bool) : List Part → Option Nat
  | [] => none
  | p :: ps => (p.fault? lenient).or (faults? lenient ps)

end

/-- The parts of a template, or the line of the first fault. -/
def parse (template : Text) : Except Nat (List Part) := do
  let ts := tokens template
  let (ps, _) ← readParts (12 * (ts.length + 1)) [] ts
  match faults? false ps with
  | some line => .error line
  | none => .ok ps

end Template

end CommandManual
