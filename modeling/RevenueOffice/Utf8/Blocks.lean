import RevenueOffice.Utf8.Decode

/-!
# Reading a text file block by block

A file is decoded in blocks of 8192 bytes and then once more with no bytes. Bytes cut off at the
end of a block, a byte order mark not yet complete at the start, and a carriage return at the end
of a block wait for the next one. A failure ends the text, with positions counted from the start
of the failing block's input.
-/

set_option autoImplicit false

namespace RevenueOffice.Utf8

def blockSize : Nat := 8192

def byteOrderMark : List Nat := [0xEF, 0xBB, 0xBF]

/-- What the reading carries from one block to the next. -/
structure Carry where
  waiting : List Nat := []
  atStart : Bool := true
  heldReturn : Bool := false

structure Decoded where
  text : List Char
  failure : Option Failure

def decodeInput (carry : Carry) (last : Bool) (input : List Nat) :
    Except Failure (List Char × Carry) :=
  if carry.atStart && input.length < 3 && input.isPrefixOf byteOrderMark then
    .ok ([], { carry with waiting := input })
  else
    let markDropped := carry.atStart && byteOrderMark.isPrefixOf input
    let body := if markDropped then input.drop 3 else input
    match decodeStep last body with
    | .ok (cs, used) => .ok (cs, { carry with waiting := body.drop used, atStart := false })
    | .error e => .error e

/-- Hold back a carriage return at the end of a step that is not the last. -/
def holdReturn (carry : Carry) (last : Bool) (cs : List Char) : List Char × Carry :=
  let cs := if carry.heldReturn && (!cs.isEmpty || last) then '\r' :: cs else cs
  let held := carry.heldReturn && cs.isEmpty && !last
  if !last && cs.getLast? == some '\r' then (cs.dropLast, { carry with heldReturn := true })
  else (cs, { carry with heldReturn := held })

def step (carry : Carry) (last : Bool) (block : List Nat) : Except Failure (List Char × Carry) :=
  match decodeInput carry last (carry.waiting ++ block) with
  | .ok (cs, carry') => .ok (holdReturn carry' last cs)
  | .error e => .error e

/-- Decode the blocks in order, then the final empty step. -/
def decodeBlocks (carry : Carry) : List (List Nat) → Decoded
  | [] =>
    match step carry true [] with
    | .ok (cs, _) => ⟨cs, none⟩
    | .error e => ⟨[], some e⟩
  | b :: bs =>
    match step carry false b with
    | .ok (cs, carry') => let d := decodeBlocks carry' bs; ⟨cs ++ d.text, d.failure⟩
    | .error e => ⟨[], some e⟩

def blocks : List Nat → List (List Nat)
  | [] => []
  | b :: bs => (b :: bs).take blockSize :: blocks ((b :: bs).drop blockSize)
termination_by bs => bs.length
decreasing_by simp only [List.length_drop, List.length_cons, blockSize]; omega

/-- The text of a file, as far as it decodes. -/
def decodeFile (bs : List Nat) : Decoded := decodeBlocks {} (blocks bs)

def decodeFileKeepingMark (bs : List Nat) : Decoded := decodeBlocks { atStart := false } (blocks bs)

end RevenueOffice.Utf8
