import LiveMarkup.Text.Case

/-!
# UTF-8 text in bytes

Bytes are cut into pieces: characters, and broken sequences as long as they could still have become
a character. Strict reading gives the text when no piece is broken, and else says where the first
broken piece stands; lenient reading puts one replacement character in the place of each.
-/

set_option autoImplicit false

namespace LiveMarkup.Utf8

/-- What a first byte announces: its own bits, how many bytes follow, and the range of the next. -/
structure Lead where
  bits : Nat
  following : Nat
  low : UInt8
  high : UInt8

/-- The announcement of a byte that may begin a character. -/
def lead? (byte : UInt8) : Option Lead :=
  if byte < 0x80 then some ⟨byte.toNat, 0, 0x80, 0xBF⟩
  else if byte < 0xC2 then none
  else if byte < 0xE0 then some ⟨byte.toNat - 0xC0, 1, 0x80, 0xBF⟩
  else if byte < 0xF0 then
    some ⟨byte.toNat - 0xE0, 2, if byte = 0xE0 then 0xA0 else 0x80,
      if byte = 0xED then 0x9F else 0xBF⟩
  else if byte < 0xF5 then
    some ⟨byte.toNat - 0xF0, 3, if byte = 0xF0 then 0x90 else 0x80,
      if byte = 0xF4 then 0x8F else 0xBF⟩
  else none

/-- A character, or a broken sequence of some length; `atEnd` when more bytes could mend it. -/
inductive Piece where
  | char (c : Char) (length : Nat)
  | broken (length : Nat) (atEnd : Bool)
deriving DecidableEq

/-- The number of bytes of a piece. -/
def Piece.length : Piece → Nat
  | .char _ n => n
  | .broken n _ => n

/-- Reads the bytes that follow a first byte, `taken` bytes and their bits being known. -/
def following (low high : UInt8) (bits taken : Nat) : Nat → List UInt8 → Piece × List UInt8
  | 0, bytes => (.char (Text.charOfCode bits) taken, bytes)
  | _ + 1, [] => (.broken taken true, [])
  | left + 1, byte :: bytes =>
    if low ≤ byte ∧ byte ≤ high then
      following 0x80 0xBF (bits * 0x40 + (byte.toNat - 0x80)) (taken + 1) left bytes
    else (.broken taken false, byte :: bytes)

theorem following_length (low high : UInt8) (bits taken left : Nat) (bytes : List UInt8) :
    (following low high bits taken left bytes).2.length ≤ bytes.length := by
  induction left generalizing low high bits taken bytes with
  | zero => simp [following]
  | succ left ih =>
    cases bytes with
    | nil => simp [following]
    | cons byte bytes =>
      simp only [following]
      split
      · exact Nat.le_trans (ih ..) (by simp)
      · simp

/-- The piece at the front of some bytes, and the bytes behind it. -/
def next (byte : UInt8) (bytes : List UInt8) : Piece × List UInt8 :=
  match lead? byte with
  | none => (.broken 1 false, bytes)
  | some lead => following lead.low lead.high lead.bits 1 lead.following bytes

theorem next_length (byte : UInt8) (bytes : List UInt8) :
    (next byte bytes).2.length ≤ bytes.length := by
  unfold next
  split
  · simp
  · exact following_length ..

/-- The pieces of some bytes, in order. -/
def pieces : List UInt8 → List Piece
  | [] => []
  | byte :: bytes => (next byte bytes).1 :: pieces (next byte bytes).2
termination_by bytes => bytes.length
decreasing_by exact Nat.lt_succ_of_le (next_length byte bytes)

/-- A broken sequence among bytes. -/
structure Fault where
  /-- The number of bytes before it. -/
  offset : Nat
  length : Nat
  /-- Whether it is the end of the bytes, and more of them could mend it. -/
  atEnd : Bool
deriving DecidableEq

/-- What is said about a broken sequence. -/
def Fault.message (fault : Fault) : String :=
  if fault.atEnd then s!"incomplete utf-8 byte sequence from index {fault.offset}"
  else s!"invalid utf-8 sequence of {fault.length} bytes from index {fault.offset}"

/-- The characters of pieces, or the first broken one; `offset` bytes stand before them. -/
def strictChars (offset : Nat) : List Piece → Except Fault (List Char)
  | [] => .ok []
  | .char c n :: rest => (strictChars (offset + n) rest).map (c :: ·)
  | .broken n atEnd :: _ => .error ⟨offset, n, atEnd⟩

/-- The character that stands for a broken sequence. -/
def replacement : Char := '\uFFFD'

/-- The character of a piece. -/
def Piece.lenient : Piece → Char
  | .char c _ => c
  | .broken _ _ => replacement

/-- The text in some bytes, unless they are broken. -/
def read (bytes : ByteArray) : Except Fault String :=
  (strictChars 0 (pieces bytes.toList)).map String.ofList

/-- The text in some bytes, broken sequences replaced. -/
def readLeniently (bytes : ByteArray) : String :=
  String.ofList ((pieces bytes.toList).map Piece.lenient)

theorem strictChars_eq_ok {offset : Nat} {pieces : List Piece} {cs : List Char}
    (h : strictChars offset pieces = .ok cs) : pieces.map Piece.lenient = cs := by
  induction pieces generalizing offset cs with
  | nil => simpa [strictChars] using h
  | cons piece rest ih =>
    cases piece with
    | broken n atEnd => simp [strictChars] at h
    | char c n =>
      simp only [strictChars] at h
      cases hr : strictChars (offset + n) rest with
      | error fault => rw [hr] at h; simp [Except.map] at h
      | ok ds =>
        rw [hr] at h
        simp only [Except.map, Except.ok.injEq] at h
        simp [← h, ih hr, Piece.lenient]

/-- Where bytes are text, both ways of reading agree. -/
theorem readLeniently_eq_of_read {bytes : ByteArray} {text : String} (h : read bytes = .ok text) :
    readLeniently bytes = text := by
  unfold read at h
  unfold readLeniently
  cases hs : strictChars 0 (pieces bytes.toList) with
  | error fault => rw [hs] at h; simp [Except.map] at h
  | ok cs =>
    rw [hs] at h
    simp only [Except.map, Except.ok.injEq] at h
    rw [strictChars_eq_ok hs, h]

end LiveMarkup.Utf8
