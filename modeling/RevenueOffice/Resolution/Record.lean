import RevenueOffice.JsonText
import RevenueOffice.Resolution

/-!
# Resolutions as records

The record of a resolution, as reports write it: the locality, whether and why it matched, the
office chosen with its score, the terms read from the locality, and the leading candidates with
the explanations of their scores. Absent values are written as null.
-/

set_option autoImplicit false

namespace RevenueOffice

def JsonValue.ofOption (o : Option String) : JsonValue :=
  match o with
  | some s => .str s
  | none => .null

def JsonValue.ofStrings (xs : List String) : JsonValue := .arr (xs.map .str)

def Office.record (o : Office) : JsonValue :=
  .obj [("code", .ofOption o.code), ("bin", .ofOption o.bin), ("name", .str o.name),
    ("region", .ofOption o.region)]

def Terms.record (t : Terms) : JsonValue :=
  .obj [("raw_input", .str t.raw), ("region_terms", .ofStrings t.regions),
    ("district_terms", .ofStrings t.districts), ("general_terms", .ofStrings t.general),
    ("all_terms", .ofStrings t.all)]

def Candidate.record (c : Candidate) : JsonValue :=
  .obj [("code", .ofOption c.office.code), ("name", .str c.office.name), ("score", .int c.score),
    ("explanation", .ofStrings c.explain)]

/-- The record of a resolution. -/
def Resolution.record (r : Resolution) : JsonValue :=
  .obj [("locality_name", .ofOption r.query), ("matched", .bool (r.reason == .matched)),
    ("reason", .str r.reason.name),
    ("record", match r.chosen with | some c => c.office.record | none => .null),
    ("score", match r.chosen with | some c => .int c.score | none => .null),
    ("parsed", match r.terms with | some t => t.record | none => .null),
    ("top_candidates", .arr (r.leading.map Candidate.record))]

end RevenueOffice
