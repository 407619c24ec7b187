import CommandManual.Text.Quoted

/-!
# UTF-8

Files hold bytes, and the library reads them as UTF-8. The reader takes one byte at a time; it
stops at the first byte that rules the text out and reports where the broken character begins, how
many bytes of it were acceptable, and why it stopped.

## Main definitions

* `encode`: the bytes of a text.
* `decode`: the text of some bytes, or the first `Fault`.
* `decodePieces`: the same for bytes that are read in pieces.
* `Fault.message`: the wording of a fault.
-/

namespace CommandManual

namespace Utf8

/-- Why a sequence of bytes is not UTF-8. -/
inductive Reason where
  /-- No character begins with this byte. -/
  | startByte
  /-- The byte after these cannot continue the character. -/
  | continuationByte
  /-- The bytes end inside a character. -/
  | endOfData
  deriving DecidableEq, Repr

/-- The wording of a reason. -/
def Reason.message : Reason → Text
  | .startByte => "invalid start byte".toList
  | .continuationByte => "invalid continuation byte".toList
  | .endOfData => "unexpected end of data".toList

/-- The first place where bytes are not UTF-8. -/
structure Fault where
  /-- The offset of the broken character's first byte. -/
  position : Nat
  /-- The bytes of the broken character that were read; there is at least one. -/
  taken : List UInt8
  reason : Reason
  deriving DecidableEq, Repr

/-- The wording of a fault. -/
def Fault.message (f : Fault) : Text :=
  let place : Text := match f.taken with
    | [b] => "byte 0x".toList ++ hexDigits 2 b.toNat ++ " in position ".toList
        ++ Text.ofNat f.position
    | bs => "bytes in position ".toList ++ Text.ofNat f.position ++ "-".toList
        ++ Text.ofNat (f.position + bs.length - 1)
  "'utf-8' codec can't decode ".toList ++ place ++ ": ".toList ++ f.reason.message

/-- A character whose first byte has been read. -/
structure Pending where
  /-- The bytes read so far, last one first. -/
  taken : List UInt8
  /-- The number that they spell. -/
  value : Nat
  /-- How many bytes are still owed; at least one. -/
  owed : Nat
  /-- The least byte that may come next. -/
  low : UInt8
  /-- The greatest byte that may come next. -/
  high : UInt8
  deriving DecidableEq, Repr

/-- What a first byte says: a whole character, or one with bytes still owed. -/
inductive Lead where
  | whole (c : Char)
  | begins (p : Pending)
  | invalid

/-- The class of a first byte. The bounds on the second byte keep out long forms, surrogates and
numbers above the last code point. -/
def lead (b : UInt8) : Lead :=
  if b < 0x80 then .whole (Char.ofNat b.toNat)
  else if b < 0xC2 then .invalid
  else if b < 0xE0 then .begins ⟨[b], b.toNat % 32, 1, 0x80, 0xBF⟩
  else if b < 0xF0 then
    .begins ⟨[b], b.toNat % 16, 2, if b = 0xE0 then 0xA0 else 0x80, if b = 0xED then 0x9F else 0xBF⟩
  else if b < 0xF5 then
    .begins ⟨[b], b.toNat % 8, 3, if b = 0xF0 then 0x90 else 0x80, if b = 0xF4 then 0x8F else 0xBF⟩
  else .invalid

/-- Read bytes after some that are already read: `position` is the offset of the next byte, `held`
the character in progress, and `done` the characters read so far, last one first. -/
def decodeFrom (position : Nat) (held : Option Pending) (done : Text) :
    List UInt8 → Except Fault Text
  | [] =>
    match held with
    | none => .ok done.reverse
    | some p => .error ⟨position - p.taken.length, p.taken.reverse, .endOfData⟩
  | b :: bs =>
    match held with
    | none =>
      match lead b with
      | .whole c => decodeFrom (position + 1) none (c :: done) bs
      | .begins p => decodeFrom (position + 1) (some p) done bs
      | .invalid => .error ⟨position, [b], .startByte⟩
    | some p =>
      if p.low ≤ b && b ≤ p.high then
        let value := p.value * 64 + b.toNat % 64
        if p.owed ≤ 1 then decodeFrom (position + 1) none (Char.ofNat value :: done) bs
        else decodeFrom (position + 1) (some ⟨b :: p.taken, value, p.owed - 1, 0x80, 0xBF⟩) done bs
      else .error ⟨position - p.taken.length, p.taken.reverse, .continuationByte⟩

/-- The text that bytes spell. -/
def decode (bs : List UInt8) : Except Fault Text := decodeFrom 0 none [] bs

/-! ### Reading in pieces -/

/-- The least number of bytes that are read at once. -/
def pieceSize : Nat := 8192

/-- The number of characters that are asked for at once. -/
def requestLength : Nat := 4096

/-- How far the bytes of a file are read. -/
structure Progress where
  /-- The number of characters so far. -/
  length : Nat := 0
  /-- The bytes of the last piece, and the characters in it. -/
  lastBytes : Nat := 0
  lastLength : Nat := 0
  /-- Did the last piece end in a carriage return, which waits for what follows it? -/
  held : Bool := false
  /-- The bytes of a character that the last piece ended in. -/
  kept : List UInt8 := []

/-- The number of bytes that are read next: as many as the characters that are still asked for have
had in the last piece, but not too few. -/
def Progress.nextSize (p : Progress) : Nat :=
  max pieceSize (p.lastBytes * (requestLength - p.length % requestLength) / p.lastLength)

/-- The text of a piece with its line ends unified, and how far the file is read behind it. -/
def Progress.after (p : Progress) (size : Nat) (kept : List UInt8) (t : Text) : Text × Progress :=
  let whole := if p.held then '\r' :: t else t
  let lines := Text.unifyLineEnds (Text.withoutReturn whole)
  (lines, {
    length := p.length + lines.length, lastBytes := size, lastLength := lines.length
    held := whole.getLast? = some '\r', kept })

/-- Read bytes in pieces, at most `fuel` of them. What is left of a character at the end of a piece
is read again with the next one, and offsets count from there. -/
def decodePiecesFrom : (fuel : Nat) → Progress → List UInt8 → Text × Option Fault
  | 0, _, _ => ([], none)
  | fuel + 1, p, bs =>
    let piece := bs.take p.nextSize
    let goOn (kept : List UInt8) (t : Text) : Text × Option Fault :=
      let (lines, p) := p.after piece.length kept t
      let (rest, fault) := decodePiecesFrom fuel p (bs.drop piece.length)
      (lines ++ rest, fault)
    match decode (p.kept ++ piece) with
    | .ok t => if bs.isEmpty then (if p.held then ['\n'] else [], none) else goOn [] t
    | .error f =>
      if bs.isEmpty || f.reason ≠ .endOfData then ([], some f)
      else match decode ((p.kept ++ piece).take f.position) with
        | .ok t => goOn f.taken t
        | .error f => ([], some f)

/-- The text that bytes spell, with unified line ends. If a piece of them spells none, the text in
front of it and the fault, whose offset counts from that piece. -/
def decodePieces (bs : List UInt8) : Text × Option Fault :=
  decodePiecesFrom (bs.length / pieceSize + 2) {} bs

/-- The bytes of a text. -/
def encode (t : Text) : List UInt8 := t.flatMap String.utf8EncodeChar

@[simp] theorem encode_nil : encode [] = [] := rfl

theorem encode_append (s t : Text) : encode (s ++ t) = encode s ++ encode t := by
  simp [encode]

end Utf8

end CommandManual
