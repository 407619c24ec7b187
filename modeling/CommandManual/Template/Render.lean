import CommandManual.Template.Part

/-!
# Rendering a template

Evaluation is strict: a name or an attribute that does not exist is a fault as soon as anything but
its name is asked for.

## Main definitions

* `Fault`: why a template does not render.
* `render`: the text of a template for a view.
-/

namespace CommandManual

namespace Template

/-- Why a template does not render. -/
inductive Fault where
  /-- The template breaks off or goes wrong on a line. -/
  | malformed (line : Nat)
  /-- No value has this name. -/
  | unknownName (n : Text)
  /-- A value of a kind has no such attribute. -/
  | unknownAttribute (kind n : Text)
  /-- A loop has no round in front of its first one. -/
  | noRoundBefore
  /-- A loop has no round behind its last one. -/
  | noRoundBehind
  /-- No filter has this name. -/
  | unknownFilter (n : Text)
  /-- A filter for texts met another value. -/
  | notText
  /-- A value cannot be gone through, counted or compared. -/
  | wrongKind
  deriving DecidableEq, Repr

/-- The name that templates go by in messages. -/
def templateName : Text := "cli".toList

/-- The wording of a fault; what is wrong with the wording of a malformed template is left out. -/
def Fault.message : Fault → Text
  | .malformed line => "template: ".toList ++ templateName ++ ':' :: Text.ofNat line
  | .unknownName n =>
    "template: ".toList ++ templateName ++ ": ".toList ++ n.quoted ++ " is undefined".toList
  | .unknownAttribute kind n =>
    "template: ".toList ++ templateName ++ ": ".toList ++ kind.quoted ++ " has no attribute ".toList
      ++ n.quoted
  | .noRoundBefore =>
    "template: ".toList ++ templateName ++ ": there is no previous item".toList
  | .noRoundBehind =>
    "template: ".toList ++ templateName ++ ": there is no next item".toList
  | .unknownFilter n =>
    "template: ".toList ++ templateName ++ ": No filter named ".toList ++ n.quoted
      ++ " found.".toList
  | .notText => "a filter for texts met another value".toList
  | .wrongKind => "a value is of the wrong kind".toList

/-- What an expression stands for: a value, or nothing and the fault of asking for it. -/
inductive Result where
  | value (d : Datum)
  | missing (f : Fault)

/-- The value of a result. -/
def Result.get : Result → Except Fault Datum
  | .value d => .ok d
  | .missing f => .error f

/-- The names that an expression can use. -/
abbrev Scope := List (Text × Datum)

/-- The items that a loop goes through. -/
def Datum.items : Datum → Except Fault (List Datum)
  | .list ds => .ok ds
  | .text t => .ok (t.map fun c => .text [c])
  | _ => .error .wrongKind

/-- The fault of asking a value for an attribute that it does not have. -/
def Datum.noAttribute (n : Text) : Datum → Fault
  | .record .loop fs =>
    if n = "previtem".toList then .noRoundBefore
    else if n = "nextitem".toList then .noRoundBehind
    else .unknownAttribute (Datum.record .loop fs).kindName n
  | d => .unknownAttribute d.kindName n

/-- The parts of a whole number as a complex number and as a quotient. -/
def partsOfInt (m : Int) : Scope :=
  [field "real" (.int m), field "imag" (.int 0), field "numerator" (.int m),
    field "denominator" (.int 1)]

/-- The attributes of a value. -/
def Datum.attributes : Datum → Scope
  | .record _ fs => fs
  | .int m => partsOfInt m
  | .bool b => partsOfInt (if b then 1 else 0)
  | _ => []

/-- The attribute of a value. -/
def Datum.attribute (n : Text) (d : Datum) : Result :=
  match d.attributes.lookup n with
  | some a => .value a
  | none => .missing (d.noAttribute n)

/-- The order of two values of one kind. -/
def Datum.compare : Datum → Datum → Option Ordering
  | .int m, .int n => some (Ord.compare m n)
  | .text s, .text t =>
    some (if s == t then .eq else if Text.precedes s t then .lt else .gt)
  | _, _ => none

/-- Does a comparison hold? -/
def holds (op : Text) (a b : Datum) : Except Fault Bool :=
  if op = "==".toList then .ok (a.quoted == b.quoted)
  else if op = "!=".toList then .ok (a.quoted != b.quoted)
  else match a.compare b with
    | none => .error .wrongKind
    | some o =>
      if op = "<".toList then .ok (o == .lt)
      else if op = ">".toList then .ok (o == .gt)
      else if op = "<=".toList then .ok (o != .gt)
      else .ok (o != .lt)

/-- The value of a filter. -/
def applyFilter (n : Text) (arg : Datum) (args : List Datum) : Except Fault Datum :=
  if n = "oneline".toList then
    match arg with
    | .text t => .ok (.text (Prose.cell t))
    | _ => .error .notText
  else if n = "join".toList then do
    let items ← arg.items
    let sep := (args.head?.map Datum.shown).getD []
    return .text (sep.intercalate (items.map Datum.shown))
  else if n = "length".toList || n = "count".toList then do
    let items ← arg.items
    return .int items.length
  else .error (.unknownFilter n)

mutual

/-- What an expression stands for. -/
def Expr.eval (scope : Scope) : Expr → Except Fault Result
  | .name n =>
    match scope.lookup n with
    | some d => .ok (.value d)
    | none => .ok (.missing (.unknownName n))
  | .literal d => .ok (.value d)
  | .attribute e n => do
    let d ← (← e.eval scope).get
    return d.attribute n
  | .filter _ n e args => do
    let arg ← e.eval scope
    let args ← evalAll scope args
    if n ∉ filterNames then throw (.unknownFilter n)
    let args ← args.mapM Result.get
    return .value (← applyFilter n (← arg.get) args)
  | .negation e => do
    let d ← (← e.eval scope).get
    return .value (.bool !d.isTruthy)
  | .conjunction a b => do
    let d ← (← a.eval scope).get
    if d.isTruthy then b.eval scope else return .value d
  | .disjunction a b => do
    let d ← (← a.eval scope).get
    if d.isTruthy then return .value d else b.eval scope
  | .compare op a b => do
    let d ← (← a.eval scope).get
    let d' ← (← b.eval scope).get
    return .value (.bool (← holds op d d'))

/-- What expressions stand for. -/
def evalAll (scope : Scope) : List Expr → Except Fault (List Result)
  | [] => .ok []
  | e :: es => do
    let r ← e.eval scope
    return r :: (← evalAll scope es)

end

/-- What the body of a loop can ask about a round: its number, the number of all rounds, and the
items of the rounds beside it. -/
def loopRecord (index total : Nat) (before behind : Option Datum) : Datum :=
  let neighbour (name : String) (d : Option Datum) : Scope := (d.map (field name)).toList
  .record .loop ([
    field "first" (.bool (index == 0)), field "last" (.bool (index + 1 == total)),
    field "index" (.int (index + 1)), field "index0" (.int index),
    field "revindex" (.int (total - index)), field "revindex0" (.int (total - index - 1)),
    field "length" (.int total), field "depth" (.int 1), field "depth0" (.int 0)]
    ++ neighbour "previtem" before ++ neighbour "nextitem" behind)

/-- The texts of a loop's rounds, the first of which has an index and comes after an item. -/
def repeatFor (round : Nat → Option Datum → Datum → Option Datum → Except Fault Text) (index : Nat)
    (before : Option Datum) : List Datum → Except Fault Text
  | [] => .ok []
  | d :: ds => do
    let t ← round index before d ds.head?
    return t ++ (← repeatFor round (index + 1) (some d) ds)

mutual

/-- The text of a part. -/
def Part.render (scope : Scope) : Part → Except Fault Text
  | .text t => .ok t
  | .print e => do
    let d ← (← e.eval scope).get
    return d.shown
  | .choice e yes no => do
    let d ← (← e.eval scope).get
    if d.isTruthy then renderAll scope yes else renderAll scope no
  | .loop _ x e body otherwise => do
    let d ← (← e.eval scope).get
    let items ← d.items
    if items.isEmpty then renderAll scope otherwise
    else
      repeatFor (fun i before d behind =>
        renderAll ((x, d) :: (loopName, loopRecord i items.length before behind) :: scope) body)
        0 none items

/-- The text of some parts. -/
def renderAll (scope : Scope) : List Part → Except Fault Text
  | [] => .ok []
  | p :: ps => do
    let t ← p.render scope
    return t ++ (← renderAll scope ps)

end

/-- The text of a template for a view. -/
def render (template : Text) (v : DocumentView) : Except Fault Text :=
  match parse template with
  | .error line => .error (.malformed line)
  | .ok ps => renderAll (fieldsOfView v ++ standing) ps

end Template

end CommandManual
