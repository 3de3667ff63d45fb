/-!
# UTF-8

Bytes as text. A byte sequence is cut into pieces, each a character, a run of bytes that begins no
character, or a character cut off by the end of the input. Strict decoding stops at the first
piece that is no character and says where it stands; lossy decoding puts U+FFFD in its place.
-/

namespace DspBridge.Text

/-- The bytes of a text. -/
def bytesOf (text : String) : List UInt8 :=
  text.toList.flatMap String.utf8EncodeChar

namespace Utf8

/-- What a byte sequence begins with. -/
inductive Piece where
  /-- A well-formed character, written with `width` bytes. -/
  | character (value : Char) (width : Nat)
  /-- `width` bytes that are not the beginning of any character. -/
  | invalid (width : Nat)
  /-- The beginning of a character, `width` bytes of it, at the end of the input. -/
  | truncated (width : Nat)
  deriving DecidableEq, Repr

/-- Number of bytes that a piece takes. -/
def Piece.width : Piece → Nat
  | .character _ width | .invalid width | .truncated width => width

/-- The character a piece stands for when the bytes have to be read as text all the same. -/
def Piece.lossy : Piece → Char
  | .character value _ => value
  | .invalid _ | .truncated _ => Char.ofNat 0xFFFD

/-- A byte that continues a character. -/
def isTail (byte : UInt8) : Bool :=
  0x80 ≤ byte && byte ≤ 0xBF

/-- The bytes that may come second after a first byte: continuation bytes, fewer after the first
bytes of overlong forms, of surrogates and of values above U+10FFFF. -/
def isSecond (first second : UInt8) : Bool :=
  if first == 0xE0 then 0xA0 ≤ second && second ≤ 0xBF
  else if first == 0xED then 0x80 ≤ second && second ≤ 0x9F
  else if first == 0xF0 then 0x90 ≤ second && second ≤ 0xBF
  else if first == 0xF4 then 0x80 ≤ second && second ≤ 0x8F
  else isTail second

/-- The six bits that a continuation byte carries. -/
def tailBits (byte : UInt8) : Nat := byte.toNat % 64

/-- The piece at the front of `first :: rest`. -/
def piece (first : UInt8) (rest : List UInt8) : Piece :=
  if first < 0x80 then .character (Char.ofNat first.toNat) 1
  else if first < 0xC2 || 0xF4 < first then .invalid 1
  else
    match rest with
    | [] => .truncated 1
    | second :: rest =>
        if !isSecond first second then .invalid 1
        else if first < 0xE0 then
          .character (Char.ofNat (first.toNat % 32 * 64 + tailBits second)) 2
        else
          match rest with
          | [] => .truncated 2
          | third :: rest =>
              if !isTail third then .invalid 2
              else if first < 0xF0 then
                .character
                  (Char.ofNat (first.toNat % 16 * 4096 + tailBits second * 64 + tailBits third)) 3
              else
                match rest with
                | [] => .truncated 3
                | fourth :: _ =>
                    if !isTail fourth then .invalid 3
                    else
                      .character
                        (Char.ofNat (first.toNat % 8 * 262144 + tailBits second * 4096 +
                          tailBits third * 64 + tailBits fourth)) 4

/-- The pieces of a byte sequence after `taken` bytes that belong to an earlier piece. -/
def piecesFrom : (taken : Nat) → List UInt8 → List Piece
  | _, [] => []
  | 0, byte :: rest => piece byte rest :: piecesFrom ((piece byte rest).width - 1) rest
  | taken + 1, _ :: rest => piecesFrom taken rest

/-- The pieces of a byte sequence, in order. -/
def pieces (bytes : List UInt8) : List Piece := piecesFrom 0 bytes

/-- Why bytes are not text. -/
inductive Fault where
  /-- `width` bytes that begin no character, after `index` bytes of text. -/
  | invalid (width index : Nat)
  /-- The input ends inside a character, after `index` bytes of text. -/
  | incomplete (index : Nat)
  deriving DecidableEq, Repr

/-- The wording of a fault. -/
def Fault.message : Fault → String
  | .invalid width index => s!"invalid utf-8 sequence of {width} bytes from index {index}"
  | .incomplete index => s!"incomplete utf-8 byte sequence from index {index}"

/-- The characters of pieces that begin `index` bytes into the input, up to the first fault. -/
def charsFrom (index : Nat) : List Piece → Except Fault (List Char)
  | [] => .ok []
  | .character value width :: rest => (charsFrom (index + width) rest).map (value :: ·)
  | .invalid width :: _ => .error (.invalid width index)
  | .truncated _ :: _ => .error (.incomplete index)

/-- Bytes as text, or the first fault in them. -/
def decode (bytes : List UInt8) : Except Fault String :=
  (charsFrom 0 (pieces bytes)).map String.ofList

/-- Bytes as text, with U+FFFD for each piece that is no character. -/
def decodeLossy (bytes : List UInt8) : String :=
  String.ofList ((pieces bytes).map Piece.lossy)

end Utf8
end DspBridge.Text
