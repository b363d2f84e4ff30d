import RevenueOffice.Text.Quoted

/-!
# Decoding UTF-8

Bytes are decoded one character at a time. The first byte says how many continuation bytes follow
and which range the first of them must lie in (narrower after `E0`, `ED`, `F0` and `F4`, which
rules out overlong forms, surrogates and code points above U+10FFFF). A decoding step fails at the
first byte that cannot start a character, or at the first continuation byte out of range; bytes
that run out in the middle of a character end a step that is not the last one early and are kept
for the next, and fail the last one.
-/

set_option autoImplicit false

namespace RevenueOffice.Utf8

inductive Problem where
  | invalidStart
  | invalidContinuation
  | unexpectedEnd
  deriving DecidableEq, Repr

def Problem.describe : Problem → String
  | .invalidStart => "invalid start byte"
  | .invalidContinuation => "invalid continuation byte"
  | .unexpectedEnd => "unexpected end of data"

/-- A failure to decode: the bytes from `start` to just before `stop`, counted in the input of the
decoding step, the first of them, and why. -/
structure Failure where
  start : Nat
  stop : Nat
  firstByte : Nat
  problem : Problem

def Failure.message (f : Failure) : String :=
  if f.stop = f.start + 1 then
    "'utf-8' codec can't decode byte 0x" ++ Text.hexPadded 2 f.firstByte ++ " in position " ++
      toString f.start ++ ": " ++ f.problem.describe
  else
    "'utf-8' codec can't decode bytes in position " ++ toString f.start ++ "-" ++
      toString (f.stop - 1) ++ ": " ++ f.problem.describe

def isContinuation (b : Nat) : Bool := 0x80 ≤ b && b ≤ 0xBF

def tailCount (b : Nat) : Option Nat :=
  if b < 0x80 then some 0
  else if 0xC2 ≤ b && b ≤ 0xDF then some 1
  else if 0xE0 ≤ b && b ≤ 0xEF then some 2
  else if 0xF0 ≤ b && b ≤ 0xF4 then some 3
  else none

def secondFits (b c : Nat) : Bool :=
  if b = 0xE0 then 0xA0 ≤ c && c ≤ 0xBF
  else if b = 0xED then 0x80 ≤ c && c ≤ 0x9F
  else if b = 0xF0 then 0x90 ≤ c && c ≤ 0xBF
  else if b = 0xF4 then 0x80 ≤ c && c ≤ 0x8F
  else isContinuation c

inductive Front where
  | char (c : Char) (width : Nat)
  | cutOff
  | bad (problem : Problem) (width : Nat)

/-- Check the continuation bytes of a character whose first byte is `b`, having seen `seen` of
them and the value `acc` so far. -/
def tails (b : Nat) (want seen acc : Nat) : List Nat → Front
  | [] => .cutOff
  | c :: cs =>
    let fits := if seen = 0 then secondFits b c else isContinuation c
    if !fits then .bad .invalidContinuation (seen + 1)
    else if seen + 1 = want then .char (Char.ofNat (acc * 64 + (c - 0x80))) (want + 1)
    else tails b want (seen + 1) (acc * 64 + (c - 0x80)) cs

def front (b : Nat) (rest : List Nat) : Front :=
  match tailCount b with
  | none => .bad .invalidStart 1
  | some 0 => .char (Char.ofNat b) 1
  | some n =>
    let lead := if n = 1 then b - 0xC0 else if n = 2 then b - 0xE0 else b - 0xF0
    tails b n 0 lead rest

/-- Whether an input that is not the last holds, at its very end, the first two bytes of a
surrogate, which a later input decides. -/
def surrogateStart (b : Nat) (rest : List Nat) : Bool :=
  match rest with
  | [c] => b = 0xED && 0xA0 ≤ c && c ≤ 0xBF
  | _ => false

/-- Decode from position `pos` of the input, where `bs` follows; the result is the characters and
the number of bytes used. In a step that is not the last, a character cut off at the end is left
for the next step. -/
def decodeFrom (last : Bool) (pos : Nat) : List Nat → Except Failure (List Char × Nat)
  | [] => .ok ([], pos)
  | b :: rest =>
    match front b rest with
    | .char c w =>
      match decodeFrom last (pos + w) (rest.drop (w - 1)) with
      | .ok (cs, n) => .ok (c :: cs, n)
      | .error e => .error e
    | .cutOff =>
      if last then .error ⟨pos, pos + rest.length + 1, b, .unexpectedEnd⟩ else .ok ([], pos)
    | .bad p w =>
      if !last && surrogateStart b rest then .ok ([], pos) else .error ⟨pos, pos + w, b, p⟩
termination_by bs => bs.length
decreasing_by all_goals simp only [List.length_drop, List.length_cons]; omega

def decodeStep (last : Bool) (input : List Nat) : Except Failure (List Char × Nat) :=
  decodeFrom last 0 input

end RevenueOffice.Utf8
