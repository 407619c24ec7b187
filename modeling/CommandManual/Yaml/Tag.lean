import CommandManual.Number.Binary64
import CommandManual.Yaml.Timestamp

/-!
# Tags of YAML nodes

The tag of a node says what kind of value it stands for. A node without one has the tag of its
form: a sequence, a mapping, a text if it is a scalar in quotes, and whatever its characters look
like if it is a plain scalar.

## Main definitions

* `Tag`: the tags that have a meaning.
* `Tag.ofUri`: the tag with a full name.
* `Tag.ofPlain`: the tag of a plain scalar.

## Implementation notes

The forms of plain scalars are those of version 1.1 of the format: `yes` and `off` are truth
values, numbers may have underscores and base-sixty digits, and a leading zero means octal.
-/

namespace CommandManual

namespace Yaml

/-- The tags that have a meaning, and one for all others. -/
inductive Tag where
  | null
  | bool
  | int
  | float
  | binary
  | timestamp
  /-- A sequence of mappings with one entry each, which together are an ordered mapping. -/
  | omap
  /-- The same with repeated keys. -/
  | pairs
  | set
  | str
  | seq
  | map
  /-- The key whose value is merged into the mapping. -/
  | merge
  /-- The key whose value stands for the mapping. -/
  | value
  | other
  deriving DecidableEq, Repr

namespace Tag

/-- The names of the tags, to be put after `tag:yaml.org,2002:`. -/
def names : List (Tag × String) :=
  [(.null, "null"), (.bool, "bool"), (.int, "int"), (.float, "float"), (.binary, "binary"),
    (.timestamp, "timestamp"), (.omap, "omap"), (.pairs, "pairs"), (.set, "set"), (.str, "str"),
    (.seq, "seq"), (.map, "map"), (.merge, "merge"), (.value, "value")]

/-- What the full names of the tags begin with. -/
def namespaceUri : Text := "tag:yaml.org,2002:".toList

/-- The tag with a full name. -/
def ofUri (uri : Text) : Tag :=
  ((names.find? fun n => namespaceUri ++ n.2.toList = uri).map Prod.fst).getD .other

/-! ### Plain scalars -/

/-- One of the words for truth values, in small letters, capitals, or with one capital. -/
def isTruthWord (t : Text) : Bool :=
  ["yes", "no", "true", "false", "on", "off"].any fun w =>
    let w := w.toList
    let capital := match w with
      | c :: r => c.toUpper :: r
      | [] => []
    t = w || t = w.map Char.toUpper || t = capital

/-- One of the words for null, or nothing. -/
def isNullWord (t : Text) : Bool :=
  t.isEmpty || ["~", "null", "Null", "NULL"].any fun w => t = w.toList

/-- A digit or an underscore. -/
def isDigitOrLow (c : Char) : Bool := c.isDigit || c = '_'

/-- A digit, then digits and underscores. -/
def isGroup : Text → Bool
  | c :: t => c.isDigit && t.all isDigitOrLow
  | [] => false

/-- A digit of base sixty. -/
def isSixty : Text → Bool
  | [a] => a.isDigit
  | [a, b] => '0' ≤ a && a ≤ '5' && b.isDigit
  | _ => false

/-- One character of a class or more. -/
def isRun (p : Char → Bool) (t : Text) : Bool := !t.isEmpty && t.all p

/-- Digits of base sixty behind a first number, separated by colons. -/
def isSixties (first : Text → Bool) (t : Text) : Bool :=
  match Text.splitOn ':' t with
  | a :: b :: ps => first a && isSixty b && ps.all isSixty
  | _ => false

/-- A number that does not begin with a zero. -/
def isCounting (t : Text) : Bool := isGroup t && t.head? ≠ some '0'

/-- The form of a whole number. -/
def isInt (t : Text) : Bool :=
  let u := (Binary64.splitSign t).2
  match u with
  | ['0'] => true
  | '0' :: 'b' :: ds => isRun (fun c => c = '0' || c = '1' || c = '_') ds
  | '0' :: 'x' :: ds =>
    isRun (fun c => isDigitOrLow c || ('a' ≤ c && c ≤ 'f') || ('A' ≤ c && c ≤ 'F')) ds
  | '0' :: ds => isRun (fun c => ('0' ≤ c && c ≤ '7') || c = '_') ds
  | _ => isCounting u || isSixties isCounting u

/-- An exponent with a sign, or nothing. -/
def isExponent : Text → Bool
  | [] => true
  | e :: s :: ds => (e = 'e' || e = 'E') && (s = '+' || s = '-') && isRun Char.isDigit ds
  | _ => false

/-- Digits and underscores, then perhaps an exponent. -/
def isFraction (t : Text) : Bool := isExponent (t.dropWhile isDigitOrLow)

/-- The form of a floating-point number: it has a point. -/
def isFloat (t : Text) : Bool :=
  let u := (Binary64.splitSign t).2
  match Text.cutAt '.' u with
  | (_, none) => false
  | ([], some f) =>
    ["inf", "Inf", "INF"].any (fun w => f = w.toList)
      || (u = t && (["nan", "NaN", "NAN"].any (fun w => f = w.toList)
        || (f.head?.any Char.isDigit && isFraction f)))
  | (w, some f) => (isGroup w && isFraction f) || (isSixties isGroup w && f.all isDigitOrLow)

/-- The tag of a plain scalar. A newline at its end is not looked at unless it stands alone. -/
def ofPlain (t : Text) : Tag :=
  let t := if t.getLast? = some '\n' && t ≠ ['\n'] then t.dropLast else t
  if isTruthWord t then .bool
  else if isFloat t then .float
  else if isInt t then .int
  else if t = "<<".toList then .merge
  else if isNullWord t then .null
  else if (Timestamp.ofText? t).any Timestamp.isTagless then .timestamp
  else if t = ['='] then .value
  else if t = ['!'] || t = ['&'] || t = ['*'] then .other
  else .str

end Tag

end Yaml

end CommandManual
