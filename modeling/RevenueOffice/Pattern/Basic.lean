import RevenueOffice.Text.Chars

/-!
# Patterns over text

A small language of regular patterns with the usual backtracking meaning: a search takes the
leftmost start, an alternative is tried in order, and a repetition takes as many characters as it
can and gives them back one at a time. Repetition is of single-character sets only, so every
repetition step consumes a character. One group may be captured.

The matcher works in continuation-passing style: `run p c k` matches `p` at the cursor `c` and hands
each way of doing so, best first, to `k`, which accepts it or asks for the next.
-/

set_option autoImplicit false

namespace RevenueOffice

/-- A set of characters: those listed, the blank characters if `blanks` holds, and the
complement of these if `negated` holds. -/
structure CharSet where
  chars : List Char
  blanks : Bool := false
  negated : Bool := false

def CharSet.contains (s : CharSet) (c : Char) : Bool :=
  (s.chars.contains c || (s.blanks && Text.isBlank c)) != s.negated

/-- Patterns over text. -/
inductive Pattern where
  /-- Exactly these characters. -/
  | text (cs : List Char)
  /-- One character of the set. -/
  | one (s : CharSet)
  /-- As many characters of the set as there are, then fewer on backtracking. -/
  | many (s : CharSet)
  /-- The first pattern, then the second. -/
  | seq (p q : Pattern)
  /-- The first pattern, or else the second. -/
  | alt (p q : Pattern)
  /-- The pattern, recording where it starts and stops as the captured group. -/
  | group (p : Pattern)
  /-- The start of the text. -/
  | start
  /-- The end of the text, or the place just before a line feed that ends it. -/
  | finish

/-- A place in the text being matched: its position, the characters after it, and the span of the
captured group so far. -/
structure Cursor where
  pos : Nat
  rest : List Char
  group : Option (Nat × Nat)

def Cursor.advance (c : Cursor) (n : Nat) : Cursor :=
  { c with pos := c.pos + n, rest := c.rest.drop n }

namespace Pattern

/-- Match a pattern at a cursor; each way to match it, best first, goes to the continuation until
one is accepted. -/
def run : Pattern → Cursor → (Cursor → Option Cursor) → Option Cursor
  | .text cs, c, k => if cs.isPrefixOf c.rest then k (c.advance cs.length) else none
  | .one s, c, k =>
    match c.rest with
    | d :: _ => if s.contains d then k (c.advance 1) else none
    | [] => none
  | .many s, c, k =>
    ((List.range ((c.rest.takeWhile s.contains).length + 1)).reverse).findSome?
      (fun n => k (c.advance n))
  | .seq p q, c, k => p.run c (fun c' => q.run c' k)
  | .alt p q, c, k =>
    match p.run c k with
    | some r => some r
    | none => q.run c k
  | .group p, c, k => p.run c (fun c' => k { c' with group := some (c.pos, c'.pos) })
  | .start, c, k => if c.pos = 0 then k c else none
  | .finish, c, k => if c.rest = [] ∨ c.rest = ['\n'] then k c else none

def lit (s : String) : Pattern := .text s.toList

def seqAll : List Pattern → Pattern
  | [] => .text []
  | [p] => p
  | p :: ps => .seq p (seqAll ps)

/-- The first of the words, in order, that matches. -/
def anyOf : List String → Pattern
  | [] => .one { chars := [], negated := false }
  | [w] => lit w
  | w :: ws => .alt (lit w) (anyOf ws)

def optional (p : Pattern) : Pattern := .alt p (.text [])

def oneOrMore (s : CharSet) : Pattern := .seq (.one s) (.many s)

def blanks : Pattern := .many { chars := [], blanks := true }

def blanks1 : Pattern := oneOrMore { chars := [], blanks := true }

end Pattern

end RevenueOffice
