import TypeCatalog.Text.Quoted

/-!
# UTF-8

Decoding follows the rule that every maximal invalid part of the input counts
as one fault: it is either replaced by one replacement character or reported
with its position, its length and the reason.  UTF-8 has no bytes for a
surrogate, so a text with surrogates cannot be encoded.  Where some surrogates
stand for bytes, only the others are at fault.
-/

namespace TypeCatalog.Text

namespace Utf8

def encodeChar (c : Char) : List UInt8 :=
  let n := c.toNat
  let tail (unit : Nat) : UInt8 := (0x80 + n / unit % 0x40).toUInt8
  if n < 0x80 then [n.toUInt8]
  else if n < 0x800 then [(0xc0 + n / 0x40).toUInt8, tail 1]
  else if n < 0x10000 then [(0xe0 + n / 0x1000).toUInt8, tail 0x40, tail 1]
  else [(0xf0 + n / 0x40000).toUInt8, tail 0x1000, tail 0x40, tail 1]

def encode (text : List Char) : List UInt8 :=
  text.flatMap encodeChar

def length (text : List Char) : Nat :=
  (encode text).length

inductive Reason where
  | invalidStart
  | invalidContinuation
  | unexpectedEnd
  deriving DecidableEq, Repr

def Reason.message : Reason → String
  | invalidStart => "invalid start byte"
  | invalidContinuation => "invalid continuation byte"
  | unexpectedEnd => "unexpected end of data"

/-- What stands at the start of the input: a character or a fault, and how many bytes
after the first belong to it. -/
inductive Head where
  | char (c : Char) (extra : Nat)
  | fault (reason : Reason) (extra : Nat)
  deriving DecidableEq, Repr

def Head.extra : Head → Nat
  | char _ extra => extra
  | fault _ extra => extra

def isContinuation (b : UInt8) : Bool :=
  0x80 ≤ b && b < 0xc0

def payload (b : UInt8) : Nat :=
  b.toNat % 0x40

/-- Which second bytes may follow a first byte of a sequence of three or four: the bounds
exclude overlong forms, surrogates and code points above `0x10ffff`. -/
def isSecond (first second : UInt8) : Bool :=
  isContinuation second &&
    !(first == 0xe0 && second < 0xa0) && !(first == 0xed && 0xa0 ≤ second) &&
    !(first == 0xf0 && second < 0x90) && !(first == 0xf4 && 0x90 ≤ second)

def head (first : UInt8) (rest : List UInt8) : Head :=
  if first < 0x80 then .char (Char.ofNat first.toNat) 0
  else if first < 0xc2 then .fault .invalidStart 0
  else if first < 0xe0 then
    match rest with
    | [] => .fault .unexpectedEnd 0
    | second :: _ =>
      if isContinuation second then
        .char (Char.ofNat (first.toNat % 0x20 * 0x40 + payload second)) 1
      else .fault .invalidContinuation 0
  else if first < 0xf0 then
    match rest with
    | [] => .fault .unexpectedEnd 0
    | second :: more =>
      if !isSecond first second then .fault .invalidContinuation 0
      else match more with
        | [] => .fault .unexpectedEnd 1
        | third :: _ =>
          if isContinuation third then
            .char (Char.ofNat
              (first.toNat % 0x10 * 0x1000 + payload second * 0x40 + payload third)) 2
          else .fault .invalidContinuation 1
  else if first < 0xf5 then
    match rest with
    | [] => .fault .unexpectedEnd 0
    | second :: more =>
      if !isSecond first second then .fault .invalidContinuation 0
      else match more with
        | [] => .fault .unexpectedEnd 1
        | third :: last =>
          if !isContinuation third then .fault .invalidContinuation 1
          else match last with
            | [] => .fault .unexpectedEnd 2
            | fourth :: _ =>
              if isContinuation fourth then
                .char (Char.ofNat (first.toNat % 8 * 0x40000 + payload second * 0x1000 +
                  payload third * 0x40 + payload fourth)) 3
              else .fault .invalidContinuation 2
  else .fault .invalidStart 0

/-- Decodes after skipping bytes that belong to what was read before. -/
def decodeLossyFrom : Nat → List UInt8 → List Char
  | _, [] => []
  | skip + 1, _ :: rest => decodeLossyFrom skip rest
  | 0, first :: rest =>
    match head first rest with
    | .char c extra => c :: decodeLossyFrom extra rest
    | .fault _ extra => '\ufffd' :: decodeLossyFrom extra rest

/-- Decodes every input; each fault becomes one replacement character. -/
def decodeLossy (bytes : List UInt8) : List Char :=
  decodeLossyFrom 0 bytes

structure Fault where
  reason : Reason
  position : Nat
  bytes : List UInt8
  deriving DecidableEq, Repr

/-- Decodes from a position of the input, after skipping bytes. -/
def decodeFrom : Nat → Nat → List UInt8 → Except Fault (List Char)
  | _, _, [] => .ok []
  | position, skip + 1, _ :: rest => decodeFrom (position + 1) skip rest
  | position, 0, first :: rest =>
    match head first rest with
    | .char c extra => (decodeFrom (position + 1) extra rest).map (c :: ·)
    | .fault reason extra => .error ⟨reason, position, first :: rest.take extra⟩

def decode (bytes : List UInt8) : Except Fault (List Char) :=
  decodeFrom 0 0 bytes

end Utf8

/-! ## Texts without bytes -/

structure EncodingFault where
  position : Nat
  surrogates : CodeText
  deriving DecidableEq, Repr

namespace EncodingFault

def of (isEncodable : CodePoint → Bool) (text : CodeText) : EncodingFault :=
  let encodable := text.takeWhile isEncodable
  { position := encodable.length
    surrogates := (text.drop encodable.length).takeWhile CodePoint.isSurrogate }

def message (fault : EncodingFault) : String :=
  let place := match fault.surrogates with
    | [point] =>
      "character '" ++ String.ofList (escapedCode point.value) ++ "' in position " ++
        toString fault.position
    | points =>
      "characters in position " ++ toString fault.position ++ "-" ++
        toString (fault.position + points.length - 1)
  "'utf-8' codec can't encode " ++ place ++ ": surrogates not allowed"

end EncodingFault

end TypeCatalog.Text
