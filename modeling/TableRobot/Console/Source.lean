import TableRobot.Numeral.Decimal
import TableRobot.Text.Hex
/-!
# Command files

A command file is a row of bytes in UTF-8 that is read in chunks. Its lines end
with a line feed, a carriage return or both. Where bytes cannot be decoded, the
lines that were complete in the chunks before the bad one are still there, and
the fault gives the place of the bytes within the chunk and what was left over
from the chunk before.
-/

namespace TableRobot.Console

/-! ## Lines -/

/-- The lines of a text without their ends; `last` is the line being read, reversed. -/
def linesFrom (last : Text) : Text → List Text
  | [] => if last = [] then [] else [last.reverse]
  | '\r' :: '\n' :: t => last.reverse :: linesFrom [] t
  | '\r' :: t => last.reverse :: linesFrom [] t
  | '\n' :: t => last.reverse :: linesFrom [] t
  | c :: t => linesFrom (c :: last) t

def lines (t : Text) : List Text := linesFrom [] t

/-- The part of a text up to its last line end; a carriage return at the very end may be
the first half of a line end and does not count. -/
def completePart (t : Text) : Text :=
  let t := if t.getLast? = some '\r' then t.dropLast else t
  (t.reverse.dropWhile fun c => c != '\n' && c != '\r').reverse

/-! ## Decoding -/

/-- Why bytes cannot be decoded. -/
inductive DecodeReason where
  | badStart
  | badContinuation
  | cutShort
  deriving DecidableEq, Repr

/-- The bytes that cannot be decoded, with their place. -/
structure DecodeFault where
  position : Nat
  bytes : List UInt8
  reason : DecodeReason
  deriving DecidableEq, Repr

def DecodeFault.message (f : DecodeFault) : Text :=
  let what := match f.bytes with
    | [b] => "byte 0x".toList ++ Text.hex 2 b.toNat ++ " in position ".toList ++
        Numeral.digits f.position
    | bs => "bytes in position ".toList ++ Numeral.digits f.position ++ "-".toList ++
        Numeral.digits (f.position + bs.length - 1)
  let why := match f.reason with
    | .badStart => "invalid start byte".toList
    | .badContinuation => "invalid continuation byte".toList
    | .cutShort => "unexpected end of data".toList
  "'utf-8' codec can't decode ".toList ++ what ++ ": ".toList ++ why

def isContinuation (b : UInt8) : Bool := 0x80 ≤ b && b ≤ 0xBF

/-- The range of the second byte behind a first byte of three or four. -/
def secondFits (first second : UInt8) : Bool :=
  isContinuation second &&
    (if first = 0xE0 then 0xA0 ≤ second
    else if first = 0xED then second ≤ 0x9F
    else if first = 0xF0 then 0x90 ≤ second
    else if first = 0xF4 then second ≤ 0x8F
    else true)

def payload (b : UInt8) : Nat := b.toNat % 0x40

/-- What decoding a row of bytes gives. -/
inductive Decoded where
  | text (t : Text) (left : List UInt8)
  | fault (f : DecodeFault)
  deriving DecidableEq, Repr

def Decoded.push (code : Nat) : Decoded → Decoded
  | text t left => text (Char.ofNat code :: t) left
  | fault f => fault f

/-- Decodes bytes from a position on; the beginning of a character at the end is left
over. What begins a surrogate is left over too until its third byte is there. -/
def decodeFrom (position : Nat) (bytes : List UInt8) : Decoded :=
  match bytes with
  | [] => .text [] []
  | a :: rest =>
      if a < 0x80 then (decodeFrom (position + 1) rest).push a.toNat
      else if a < 0xC2 then .fault ⟨position, [a], .badStart⟩
      else if a < 0xE0 then
        match rest with
        | [] => .text [] [a]
        | b :: rest =>
            if isContinuation b then
              (decodeFrom (position + 2) rest).push ((a.toNat - 0xC0) * 0x40 + payload b)
            else .fault ⟨position, [a], .badContinuation⟩
      else if a < 0xF0 then
        match rest with
        | [] => .text [] [a]
        | b :: rest =>
            if !secondFits a b then
              if a = 0xED && isContinuation b && rest.isEmpty then .text [] [a, b]
              else .fault ⟨position, [a], .badContinuation⟩
            else
              match rest with
              | [] => .text [] [a, b]
              | c :: rest =>
                  if isContinuation c then
                    (decodeFrom (position + 3) rest).push
                      ((a.toNat - 0xE0) * 0x1000 + payload b * 0x40 + payload c)
                  else .fault ⟨position, [a, b], .badContinuation⟩
      else if a < 0xF5 then
        match rest with
        | [] => .text [] [a]
        | b :: rest =>
            if !secondFits a b then .fault ⟨position, [a], .badContinuation⟩
            else
              match rest with
              | [] => .text [] [a, b]
              | c :: rest =>
                  if !isContinuation c then .fault ⟨position, [a, b], .badContinuation⟩
                  else
                    match rest with
                    | [] => .text [] [a, b, c]
                    | d :: rest =>
                        if isContinuation d then
                          (decodeFrom (position + 4) rest).push
                            ((a.toNat - 0xF0) * 0x40000 + payload b * 0x1000 +
                              payload c * 0x40 + payload d)
                        else .fault ⟨position, [a, b, c], .badContinuation⟩
      else .fault ⟨position, [a], .badStart⟩

/-! ## Reading by chunks -/

/-- A source of command lines: the lines that can be had and what ends them early. -/
structure Source where
  lines : List Text
  fault : Option DecodeFault
  deriving DecidableEq, Repr

namespace Source

def chunkSize : Nat := 8192

def ofText (t : Text) : Source := ⟨Console.lines t, none⟩

def broken (before : Text) (f : DecodeFault) : Source :=
  ⟨Console.lines (completePart before), some f⟩

/-- The fault of what is left over at the very end. -/
def endFault : List UInt8 → DecodeFault
  | [a, b] => if secondFits a b then ⟨0, [a, b], .cutShort⟩ else ⟨0, [a], .badContinuation⟩
  | left => ⟨0, left, .cutShort⟩

/-- Reads `count` chunks; `before` is the text so far and `left` what is left over. -/
def readChunks (before : Text) (left : List UInt8) : (count : Nat) → List UInt8 → Source
  | 0, _ =>
      if left = [] then ofText before else broken before (endFault left)
  | n + 1, bytes =>
      match decodeFrom 0 (left ++ bytes.take chunkSize) with
      | .text t left => readChunks (before ++ t) left n (bytes.drop chunkSize)
      | .fault f => broken before f

def ofBytes (bytes : List UInt8) : Source :=
  readChunks [] [] ((bytes.length + chunkSize - 1) / chunkSize) bytes

end Source

example : lines "a\r\nb\rc\n\nd".toList =
    ["a".toList, "b".toList, "c".toList, [], "d".toList] := by decide +kernel

example : Source.ofBytes [0x4D, 0x0A, 0xE2, 0x82] =
    ⟨["M".toList], some ⟨0, [0xE2, 0x82], .cutShort⟩⟩ := by decide +kernel

end TableRobot.Console
