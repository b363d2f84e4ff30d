import RevenueOffice.Pattern.Search

/-!
# Text rules

A rule changes a text or does not apply to it. A strip rule replaces the first match of its
pattern; a capture rule replaces the whole text by the group its pattern captures, possibly
reshaped. A list of rules is applied in order, each to what the ones before it left, and a rule
that applies does not stop the ones after it.
-/

set_option autoImplicit false

namespace RevenueOffice

/-- A named text rule. -/
inductive Rule where
  /-- Replace the first match of the pattern. -/
  | strip (name : String) (pattern : Pattern) (replacement : List Char)
  /-- Replace the whole text by the nonempty captured group, reshaped by `reshape`. -/
  | capture (name : String) (pattern : Pattern) (reshape : List Char → List Char)

namespace Rule

def name : Rule → String
  | .strip n _ _ => n
  | .capture n _ _ => n

/-- The text the rule makes of a text, or nothing if the rule does not apply. -/
def apply : Rule → List Char → Option (List Char)
  | .strip _ p r, cs => p.replaceFirst r cs
  | .capture _ p f, cs =>
    match p.search cs with
    | some { group := some (a, b), .. } =>
      if a < b then some (f ((cs.drop a).take (b - a))) else none
    | _ => none

end Rule

structure Applied where
  text : List Char
  fired : List String

/-- Apply rules in order, each to the text the ones before it left. -/
def applyAllTrace : List Rule → List Char → Applied
  | [], cs => ⟨cs, []⟩
  | r :: rs, cs =>
    match r.apply cs with
    | some cs' => let w := applyAllTrace rs cs'; ⟨w.text, r.name :: w.fired⟩
    | none => applyAllTrace rs cs

def applyAll (rules : List Rule) (cs : List Char) : List Char := (applyAllTrace rules cs).text

end RevenueOffice
