import StackPlaybook.Error
import StackPlaybook.Text.Search

/-!
# StackPlaybook.Arn

Amazon Resource Names: texts of six to eight segments separated by colons,
`arn:partition:service:region:account:resource`, where the resource part may
itself hold up to two colons.
-/

namespace StackPlaybook

/-! ## Segments -/

/-- The number of segments between colons. -/
def colonSegments (s : String) : Nat := (Text.splitAt ':' s.toList).length

/-- A text has one segment more than it has colons. -/
theorem colonSegments_eq (s : String) : colonSegments s = s.toList.count ':' + 1 :=
  Text.length_splitAt ':' s.toList

/-- An ARN: a text with six to eight segments. -/
structure Arn where
  text : String
  six_le : 6 ≤ colonSegments text
  le_eight : colonSegments text ≤ 8
  deriving DecidableEq

namespace Arn

/-- Accepts exactly the texts of six to eight segments. -/
def parse (s : String) : Except Error Arn :=
  if h : 6 ≤ colonSegments s ∧ colonSegments s ≤ 8 then .ok ⟨s, h.1, h.2⟩
  else .error (.invalidArn s (colonSegments s))

/-- An ARN is read back from its text. -/
@[simp] theorem parse_text (a : Arn) : parse a.text = .ok a := by
  have := a.six_le
  have := a.le_eight
  simp [parse, *]

/-- Reading keeps the text as it is. -/
theorem text_of_parse {s : String} {a : Arn} (h : parse s = .ok a) : a.text = s := by
  unfold parse at h
  split at h
  · cases h; rfl
  · cases h

/-- A text is an ARN just if it has six to eight segments. -/
theorem exists_parse_iff {s : String} :
    (∃ a, parse s = .ok a) ↔ 6 ≤ colonSegments s ∧ colonSegments s ≤ 8 := by
  constructor
  · rintro ⟨a, h⟩
    rw [← text_of_parse h]
    exact ⟨a.six_le, a.le_eight⟩
  · exact fun h => ⟨⟨s, h.1, h.2⟩, dif_pos h⟩

/-- The segments, in order. -/
def segments (a : Arn) : List String := (Text.splitAt ':' a.text.toList).map String.ofList

/-- The segment at an index counted from zero, or the empty text. -/
def segment (a : Arn) (i : Nat) : String := a.segments.getD i ""

def service (a : Arn) : String := a.segment 2

def region (a : Arn) : String := a.segment 3

def account (a : Arn) : String := a.segment 4

/-! ## The resource -/

/-- What follows the only `/` of a segment; a segment with none or several is
kept whole. -/
def afterOnlySlash (segment : List Char) : List Char :=
  match Text.splitAt '/' segment with
  | [_, name] => name
  | _ => segment

/-- The short name of the resource: the last segment without its `type/`. -/
def resourceName (a : Arn) : String :=
  String.ofList (afterOnlySlash ((Text.splitAt ':' a.text.toList).getLastD []))

end Arn

/-- Whether a physical ID already is an ARN with six segments. -/
def isArnShaped (physicalId : String) : Bool := colonSegments physicalId == 6

end StackPlaybook
