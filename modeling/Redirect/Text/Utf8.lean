/-
# UTF-8

Octets are read as a sequence of pieces: characters, and stretches that are no
character. A stretch is as long as possible while it still begins some character, so
the three readings below agree on where a text breaks: `decode` refuses the octets at
the first stretch and tells where and how, `decodeLossy` puts one replacement character
in place of each stretch, and `encode` writes a text so that `decode` gives it back.
-/

namespace Redirect

/-- A sequence of octets: what a file holds, or the spelling of a name. -/
abbrev Bytes := List UInt8

namespace Utf8

/-- How octets fail to be a text. -/
inductive Defect where
  /-- `length` octets from `index` on cannot stand in any text. -/
  | invalid (index length : Nat)
  /-- The octets end within the character that begins at `index`. -/
  | incomplete (index : Nat)
  deriving DecidableEq, Repr

/-- The wording of a defect. -/
def Defect.message : Defect → String
  | .invalid index length =>
    "invalid utf-8 sequence of " ++ toString length ++ " bytes from index " ++ toString index
  | .incomplete index => "incomplete utf-8 byte sequence from index " ++ toString index

/-- A piece of an octet sequence. -/
inductive Piece where
  /-- A character in its shortest form. -/
  | char (c : Char)
  /-- The first octets of a character, followed by one that cannot continue it; or one
  octet that begins no character. -/
  | broken (length : Nat)
  /-- The first octets of a character, where the sequence ends. -/
  | cut (length : Nat)
  deriving DecidableEq, Repr

/-- The number of octets in a piece. -/
def Piece.length : Piece → Nat
  | .char c => c.utf8Size
  | .broken length => length
  | .cut length => length

/-- An octet that continues a character. -/
def isTail (b : UInt8) : Bool :=
  0x80 ≤ b && b ≤ 0xBF

/-- The octets that may follow the first one of a character of three octets: surrogates
and characters with a shorter form are left out. -/
def isSecondOfThree (a b : UInt8) : Bool :=
  if a = 0xE0 then 0xA0 ≤ b && b ≤ 0xBF
  else if a = 0xED then 0x80 ≤ b && b ≤ 0x9F
  else isTail b

/-- The octets that may follow the first one of a character of four octets: numbers past
the last code point and characters with a shorter form are left out. -/
def isSecondOfFour (a b : UInt8) : Bool :=
  if a = 0xF0 then 0x90 ≤ b && b ≤ 0xBF
  else if a = 0xF4 then 0x80 ≤ b && b ≤ 0x8F
  else isTail b

/-- The character of two octets. -/
def ofTwo (a b : UInt8) : Char :=
  Char.ofNat ((a.toNat % 0x20) * 0x40 + b.toNat % 0x40)

/-- The character of three octets. -/
def ofThree (a b c : UInt8) : Char :=
  Char.ofNat ((a.toNat % 0x10) * 0x1000 + (b.toNat % 0x40) * 0x40 + c.toNat % 0x40)

/-- The character of four octets. -/
def ofFour (a b c d : UInt8) : Char :=
  Char.ofNat ((a.toNat % 0x08) * 0x40000 + (b.toNat % 0x40) * 0x1000 +
    (c.toNat % 0x40) * 0x40 + d.toNat % 0x40)

/-- The piece that begins with the octet `a`, when the octets `rest` follow it. -/
def front (a : UInt8) (rest : Bytes) : Piece :=
  if a < 0x80 then .char (Char.ofNat a.toNat)
  else if a < 0xC2 then .broken 1
  else if a < 0xE0 then
    match rest with
    | [] => .cut 1
    | b :: _ => if isTail b then .char (ofTwo a b) else .broken 1
  else if a < 0xF0 then
    match rest with
    | [] => .cut 1
    | b :: rest =>
      if isSecondOfThree a b then
        match rest with
        | [] => .cut 2
        | c :: _ => if isTail c then .char (ofThree a b c) else .broken 2
      else .broken 1
  else if a < 0xF5 then
    match rest with
    | [] => .cut 1
    | b :: rest =>
      if isSecondOfFour a b then
        match rest with
        | [] => .cut 2
        | c :: rest =>
          if isTail c then
            match rest with
            | [] => .cut 3
            | d :: _ => if isTail d then .char (ofFour a b c d) else .broken 3
          else .broken 2
      else .broken 1
  else .broken 1

/-- The pieces of an octet sequence whose first octets, as many as the first argument
says, belong to a piece found before. -/
def piecesFrom : Nat → Bytes → List Piece
  | _, [] => []
  | covered + 1, _ :: rest => piecesFrom covered rest
  | 0, a :: rest => front a rest :: piecesFrom ((front a rest).length - 1) rest

/-- The pieces of an octet sequence, from left to right. -/
def pieces (bytes : Bytes) : List Piece :=
  piecesFrom 0 bytes

/-- Read pieces as a text; `index` is the number of octets before them. -/
def decodePieces (index : Nat) : List Piece → Except Defect (List Char)
  | [] => .ok []
  | .char c :: rest => (c :: ·) <$> decodePieces (index + c.utf8Size) rest
  | .broken length :: _ => .error (.invalid index length)
  | .cut _ :: _ => .error (.incomplete index)

/-- The text that octets spell, or the first place where they spell none. -/
def decode (bytes : Bytes) : Except Defect String :=
  String.ofList <$> decodePieces 0 (pieces bytes)

/-- The text of octets that spell one. -/
def decode? (bytes : Bytes) : Option String :=
  (decode bytes).toOption

/-- The character that stands for octets that spell none. -/
def replacement : Char := '\uFFFD'

/-- What a piece shows as. -/
def Piece.shown : Piece → Char
  | .char c => c
  | .broken _ => replacement
  | .cut _ => replacement

/-- A text for any octets, for people to read. -/
def decodeLossy (bytes : Bytes) : String :=
  String.ofList ((pieces bytes).map Piece.shown)

/-- The octets of a text. -/
def encode (text : String) : Bytes :=
  text.toList.flatMap String.utf8EncodeChar

end Utf8

end Redirect
