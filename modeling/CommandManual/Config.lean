import CommandManual.Region
import CommandManual.Text.Blank
import CommandManual.Value.Printed

/-!
# Configuration

A configuration gives the options of the command line their usual values. It is a mapping with a
few known keys, all of them optional; a key that is not known and a value that does not fit are
refused.

## Main definitions

* `Config`: the settings. `Config.Valid`: what holds of every configuration that is read.
* `Config.ofValue`: the configuration in a value, or the `Config.Fault`.
-/

namespace CommandManual

/-- The settings of a configuration. -/
structure Config where
  /-- The name that the application is called by; empty for its own. -/
  calledAs : Text := []
  /-- The section of manual pages. -/
  manualSection : Int := 1
  opening : Text := Tags.defaultOpening
  closing : Text := Tags.defaultClosing
  /-- Does a comment stand in front of injected documents? -/
  annotate : Bool := true
  deriving DecidableEq

namespace Config

/-- Sections count from one, and the delimiters are two different texts that can be seen. -/
structure Valid (c : Config) : Prop where
  one_le_manualSection : 1 ≤ c.manualSection
  hasInk_opening : c.opening.hasInk = true
  hasInk_closing : c.closing.hasInk = true
  opening_ne_closing : c.opening ≠ c.closing

/-- The settings without a configuration are valid. -/
theorem valid_default : Valid {} := ⟨by decide, by decide, by decide, by decide⟩

/-- Why a value is no configuration. -/
inductive Fault where
  | unknownKeys (keys : List Text)
  /-- The value has no keys at all, or one that is not a text. -/
  | noKeys
  /-- The value has keys, but no values for them. -/
  | notMapping
  | calledAs
  | manualSection (got : Value)
  /-- What should be the section has a number with too many digits to be written. -/
  | digits
  /-- A delimiter is not a text, or has nothing to be seen. -/
  | tag (key : Text)
  | sameTags
  | annotate

/-- The wording of a fault; a value that is no mapping has none. -/
def Fault.message : Fault → Text
  | .unknownKeys ks => "Unknown configuration key(s): ".toList ++ Text.commaList ks
  | .noKeys | .notMapping => []
  | .digits => unwritableMessage
  | .calledAs => "app_path must be a string".toList
  | .manualSection v => "section must be an integer >= 1, got ".toList ++ v.quoted
  | .tag key => key ++ " must be a non-empty string".toList
  | .sameTags => "start_tag and end_tag must differ".toList
  | .annotate => "annotate must be true or false".toList

/-- The keys of a configuration. -/
def knownKeys : List Text :=
  ["app_path".toList, "section".toList, "start_tag".toList, "end_tag".toList, "annotate".toList]

/-- The keys that a value has: those of a mapping, the characters of a text, or the items of a
collection, as far as they can be keys. -/
def keys : Value → Except Fault (List Value)
  | .map es => .ok (es.map (·.1))
  | .text t => .ok (t.map fun c => .text [c])
  | .list vs | .tuple vs | .set vs => if Value.areKeys vs then .ok vs else .error .noKeys
  | .bytes bs => .ok (bs.map fun b => .int b.toNat)
  | _ => .error .noKeys

/-- Is the value a known key? -/
def isKnown (v : Value) : Bool := (v.text?.map knownKeys.contains).getD false

/-- Refuse unknown keys, in their order. -/
def checkKeys (ks : List Value) : Except Fault Unit :=
  match (ks.filter (!isKnown ·)).mapM Value.text? with
  | none => .error .noKeys
  | some [] => .ok ()
  | some unknown => .error (.unknownKeys (Text.sorted unknown.eraseDups))

/-- Refuse what should be the section of manual pages. The message quotes it: it is taken to be
nested less deeply than what the system gives up to write. -/
def refuseSection (got : Value) : Except Fault Int :=
  .error (if got.isWritable then .manualSection got else .digits)

/-- The name that entries call the application by. -/
def readCalledAs (es : List (Value × Value)) : Except Fault Text :=
  match Value.lookup (.text "app_path".toList) es with
  | none => .ok []
  | some (.text t) => .ok t
  | some _ => .error .calledAs

/-- The section of manual pages that entries set. -/
def readSection (es : List (Value × Value)) : Except Fault Int :=
  match Value.lookup (.text "section".toList) es with
  | none => .ok 1
  | some (.int n) => if 1 ≤ n then .ok n else refuseSection (.int n)
  | some v => refuseSection v

/-- A delimiter that entries set under a key. -/
def readTag (key : String) (usual : Text) (es : List (Value × Value)) : Except Fault Text :=
  match Value.lookup (.text key.toList) es with
  | none => .ok usual
  | some (.text t) => if t.hasInk then .ok t else .error (.tag key.toList)
  | some _ => .error (.tag key.toList)

/-- Do entries ask for a comment in front of injected documents? -/
def readAnnotate (es : List (Value × Value)) : Except Fault Bool :=
  match Value.lookup (.text "annotate".toList) es with
  | none => .ok true
  | some (.bool b) => .ok b
  | some _ => .error .annotate

/-- The configuration in the entries of a mapping whose keys are known. -/
def ofEntries (es : List (Value × Value)) : Except Fault Config := do
  let calledAs ← readCalledAs es
  let manualSection ← readSection es
  let opening ← readTag "start_tag" Tags.defaultOpening es
  let closing ← readTag "end_tag" Tags.defaultClosing es
  if opening = closing then throw .sameTags
  let annotate ← readAnnotate es
  return { calledAs, manualSection, opening, closing, annotate }

/-- The configuration in a value. -/
def ofValue (v : Value) : Except Fault Config := do
  checkKeys (← keys v)
  match v with
  | .map es => ofEntries es
  | _ => throw .notMapping

end Config

end CommandManual
