import CommandManual.Number.Shortest
import CommandManual.Number.Whole
import CommandManual.Text.Quoted
import CommandManual.Value.Basic

/-!
# The text of a value

A default is shown as its plain text. Inside a list, a tuple or a mapping every item appears in
its quoted form, so that its kind can be told.

## Main definitions

* `Value.quoted`: the text of a value inside a container or a message.
* `Value.shown`: the text of a value on its own.
* `Value.isWritable`: have all numbers in a value few enough digits to be written?

## Implementation notes

Functions on values are made to work on collections that stand inside themselves by `Value.inRing`:
they take what they are to give for the members of the table as an argument.

A value may be nested to any depth and still has a text. A system that writes one level inside the
other gives up at some depth, near a thousand levels, with an error of its own (`RecursionError`).
That depth is no part of the program and depends on where the writing begins, so it is left out:
values are taken to be nested less deeply than that wherever they are shown or quoted.
-/

namespace CommandManual

namespace Value

/-! ### Collections that stand inside themselves -/

/-- The result for a place of a table, where `forms` gives the result for every collection from the
results for its members. A place that is entered again while it is being looked at has the result
`again`; so no more places are entered than there are. -/
def inRing {α : Type} (forms : List ((Nat → α) → α)) (again : Nat → α) :
    (fuel : Nat) → (entered : List Nat) → Nat → α
  | 0, _, p => again p
  | fuel + 1, entered, p =>
    match forms[p]? with
    | some form =>
      if entered.contains p then again p
      else form (inRing forms again fuel (p :: entered))
    | none => again p

/-- What stands for a collection inside its own text. -/
def ellipsis : Option Value → Text
  | some (.list _) => "[...]".toList
  | some (.tuple _) => "(...)".toList
  | _ => "\x7b...\x7d".toList

/-! ### Texts -/

mutual

/-- The text of a value inside a container, where `member` gives the texts of members. -/
def quotedWith (member : Nat → Text) : Value → Text
  | .null => "None".toList
  | .bool b => if b then "True".toList else "False".toList
  | .int n => Text.ofInt n
  | .float x => x.toText
  | .text t => t.quoted
  | .list vs => '[' :: Text.commaList (quotedAll member vs) ++ [']']
  | .tuple [v] => '(' :: quotedWith member v ++ [',', ')']
  | .tuple vs => '(' :: Text.commaList (quotedAll member vs) ++ [')']
  | .map es => '{' :: Text.commaList (quotedEntries member es) ++ ['}']
  | .set [] => "set()".toList
  | .set vs => '{' :: Text.commaList (quotedAll member vs) ++ ['}']
  | .moment m => m.quoted
  | .bytes bs => quotedBytes bs
  | .function => "<function>".toList
  | .ring table p =>
    inRing (quotedForms table) (fun q => ellipsis table[q]?) (table.length + 1) [] p
  | .member p => member p

/-- The texts of the values of a list. -/
def quotedAll (member : Nat → Text) : List Value → List Text
  | [] => []
  | v :: vs => quotedWith member v :: quotedAll member vs

/-- The texts of the entries of a mapping. -/
def quotedEntries (member : Nat → Text) : List (Value × Value) → List Text
  | [] => []
  | (k, v) :: es =>
    (quotedWith member k ++ ':' :: ' ' :: quotedWith member v) :: quotedEntries member es

/-- The texts of the collections of a table. -/
def quotedForms : List Value → List ((Nat → Text) → Text)
  | [] => []
  | v :: vs => (fun member => quotedWith member v) :: quotedForms vs

end

/-- The text of a value inside a container. -/
def quoted (v : Value) : Text := quotedWith (fun _ => []) v

/-- The text of a value on its own. -/
def shown : Value → Text
  | .text t => t
  | .moment m => m.shown
  | v => v.quoted

/-! ### Numbers -/

mutual

/-- Have all numbers in the value few enough digits, where `member` tells it of members? -/
def isWritableWith (member : Nat → Bool) : Value → Bool
  | .int n => CommandManual.isWritable n
  | .list vs | .tuple vs | .set vs => areWritable member vs
  | .map es => areEntriesWritable member es
  | .ring table p => inRing (writableForms table) (fun _ => true) (table.length + 1) [] p
  | .member p => member p
  | _ => true

/-- Can all of the values be written? -/
def areWritable (member : Nat → Bool) : List Value → Bool
  | [] => true
  | v :: vs => isWritableWith member v && areWritable member vs

/-- Can all keys and values of a mapping be written? -/
def areEntriesWritable (member : Nat → Bool) : List (Value × Value) → Bool
  | [] => true
  | (k, v) :: es =>
    isWritableWith member k && isWritableWith member v && areEntriesWritable member es

/-- Can the collections of a table be written? -/
def writableForms : List Value → List ((Nat → Bool) → Bool)
  | [] => []
  | v :: vs => (fun member => isWritableWith member v) :: writableForms vs

end

/-- Have all numbers in the value few enough digits to be written? Its depth does not matter. -/
def isWritable (v : Value) : Bool := isWritableWith (fun _ => true) v

@[simp] theorem shown_text (t : Text) : shown (.text t) = t := rfl

@[simp] theorem quotedAll_eq_map (member : Nat → Text) (vs : List Value) :
    quotedAll member vs = vs.map (quotedWith member) := by
  induction vs with
  | nil => simp [quotedAll]
  | cons v vs ih => simp [quotedAll, ih]

end Value

end CommandManual
