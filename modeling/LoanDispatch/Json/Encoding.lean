import LoanDispatch.Json.Reader

/-!
The character encoding of a JSON body.  A byte order mark decides; without one, the zero bytes among
the first four tell the width of a character.  Bytes that do not fit the encoding give no text.
-/

set_option autoImplicit false

namespace LoanDispatch.Json

open Text

inductive Encoding where
  | utf8
  | utf16 (bigEndian : Bool)
  | utf32 (bigEndian : Bool)
  deriving DecidableEq

/-- The byte order marks; the longer one comes first where one begins with another. -/
def marks : List (Encoding × List UInt8) :=
  [(.utf32 true, [0x00, 0x00, 0xFE, 0xFF]), (.utf32 false, [0xFF, 0xFE, 0x00, 0x00]),
   (.utf16 true, [0xFE, 0xFF]), (.utf16 false, [0xFF, 0xFE]), (.utf8, [0xEF, 0xBB, 0xBF])]

def unmarkedEncoding : List UInt8 → Encoding
  | a :: b :: c :: d :: _ =>
    if a = 0 then (if b = 0 then .utf32 true else .utf16 true)
    else if b = 0 then (if c = 0 ∧ d = 0 then .utf32 false else .utf16 false)
    else .utf8
  | [a, b] => if a = 0 then .utf16 true else if b = 0 then .utf16 false else .utf8
  | _ => .utf8

/-- The encoding of a body, and the body without its byte order mark. -/
def detectEncoding (body : List UInt8) : Encoding × List UInt8 :=
  match marks.find? fun mark => mark.2.isPrefixOf body with
  | some (encoding, mark) => (encoding, body.drop mark.length)
  | none => (unmarkedEncoding body, body)

def continuation? (byte : UInt8) : Option Nat :=
  if 0x80 ≤ byte.toNat ∧ byte.toNat < 0xC0 then some (byte.toNat - 0x80) else none

/-- Decodes one to four bytes a code point; a longer form than needed is refused, half of a surrogate
pair is not. -/
def decodeUtf8? : List UInt8 → Option (List Point)
  | [] => some []
  | a :: rest =>
    if a.toNat < 0x80 then do
      let point ← Point.ofNat? a.toNat
      return point :: (← decodeUtf8? rest)
    else
      match rest with
      | b :: rest =>
        if 0xC2 ≤ a.toNat ∧ a.toNat < 0xE0 then do
          let x ← continuation? b
          let point ← Point.ofNat? ((a.toNat - 0xC0) * 64 + x)
          return point :: (← decodeUtf8? rest)
        else
          match rest with
          | c :: rest =>
            if 0xE0 ≤ a.toNat ∧ a.toNat < 0xF0 then do
              let x ← continuation? b
              let y ← continuation? c
              let n := ((a.toNat - 0xE0) * 64 + x) * 64 + y
              if n < 0x800 then none
              else
                let point ← Point.ofNat? n
                return point :: (← decodeUtf8? rest)
            else
              match rest with
              | d :: rest =>
                if 0xF0 ≤ a.toNat ∧ a.toNat < 0xF5 then do
                  let x ← continuation? b
                  let y ← continuation? c
                  let z ← continuation? d
                  let n := (((a.toNat - 0xF0) * 64 + x) * 64 + y) * 64 + z
                  if n < 0x10000 then none
                  else
                    let point ← Point.ofNat? n
                    return point :: (← decodeUtf8? rest)
                else none
              | [] => none
          | [] => none
      | [] => none

def pairValue (bigEndian : Bool) (a b : UInt8) : Nat :=
  if bigEndian then a.toNat * 256 + b.toNat else b.toNat * 256 + a.toNat

def decodeUnits? (bigEndian : Bool) : List UInt8 → Option (List Nat)
  | [] => some []
  | a :: b :: rest => (decodeUnits? bigEndian rest).map (pairValue bigEndian a b :: ·)
  | [_] => none

/-- Joins two halves of a pair that follow each other. -/
def joinUnits? : List Nat → Option (List Point)
  | [] => some []
  | [unit] => (Point.ofNat? unit).map fun point => [point]
  | unit :: second :: rest =>
    if (0xD800 ≤ unit ∧ unit < 0xDC00) ∧ 0xDC00 ≤ second ∧ second < 0xE000 then do
      let point ← Point.ofNat? (0x10000 + (unit - 0xD800) * 0x400 + (second - 0xDC00))
      return point :: (← joinUnits? rest)
    else do
      let point ← Point.ofNat? unit
      return point :: (← joinUnits? (second :: rest))

def decodeUtf32? (bigEndian : Bool) : List UInt8 → Option (List Point)
  | [] => some []
  | a :: b :: c :: d :: rest => do
    let first := pairValue bigEndian a b
    let second := pairValue bigEndian c d
    let point ←
      Point.ofNat? (if bigEndian then first * 65536 + second else second * 65536 + first)
    return point :: (← decodeUtf32? bigEndian rest)
  | _ => none

def Encoding.decode? : Encoding → List UInt8 → Option (List Point)
  | .utf8, bytes => decodeUtf8? bytes
  | .utf16 bigEndian, bytes => (decodeUnits? bigEndian bytes).bind joinUnits?
  | .utf32 bigEndian, bytes => decodeUtf32? bigEndian bytes

def decodeBody? (body : List UInt8) : Option (List Point) :=
  let (encoding, bytes) := detectEncoding body
  encoding.decode? bytes

def readBody (room : Nat) (body : List UInt8) : Except Unreadable Raw := do
  readWithin room (← ofPart (decodeBody? body))

end LoanDispatch.Json
