import RevenueOffice.Pattern.Basic

/-!
# Searching, replacing and splitting

A search tries every start from left to right and takes the first at which the pattern matches.
Replacing changes the first match found; splitting cuts the text at each match in turn.
-/

set_option autoImplicit false

namespace RevenueOffice

structure Found where
  start : Nat
  stop : Nat
  group : Option (Nat × Nat)

namespace Pattern

/-- The match of a pattern that starts at `pos`, where `rest` follows. -/
def matchAt (p : Pattern) (pos : Nat) (rest : List Char) : Option Found :=
  (p.run ⟨pos, rest, none⟩ Option.some).map fun c => ⟨pos, c.pos, c.group⟩

/-- The leftmost match starting at `pos` or later, where `rest` follows `pos`. -/
def searchFrom (p : Pattern) (pos : Nat) : List Char → Option Found
  | [] => p.matchAt pos []
  | c :: cs =>
    match p.matchAt pos (c :: cs) with
    | Option.some f => Option.some f
    | none => p.searchFrom (pos + 1) cs

def search (p : Pattern) (cs : List Char) : Option Found := p.searchFrom 0 cs

def replaceFirst (p : Pattern) (replacement cs : List Char) : Option (List Char) :=
  (p.search cs).map fun f => cs.take f.start ++ replacement ++ cs.drop f.stop

/-- The pieces between the matches, from `pos` on, where `rest` follows `pos`. A match of no
characters where the search starts ends the splitting; the separators used here never match
empty text. -/
def splitFrom (p : Pattern) (pos : Nat) (rest : List Char) : List (List Char) :=
  match p.searchFrom pos rest with
  | none => [rest]
  | Option.some f =>
    if _h : pos < f.stop ∧ f.stop - pos ≤ rest.length then
      rest.take (f.start - pos) :: p.splitFrom f.stop (rest.drop (f.stop - pos))
    else [rest]
termination_by rest.length
decreasing_by simp only [List.length_drop]; omega

def split (p : Pattern) (cs : List Char) : List (List Char) := p.splitFrom 0 cs

end Pattern

end RevenueOffice
