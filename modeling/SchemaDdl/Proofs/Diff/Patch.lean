import SchemaDdl.Proofs.Text.Digits

/-!
# Reading and applying patches

A patch is read from the printed lines of a report: two lines with the names of the texts, and
hunks, each a header with two places and the lines behind it by their marks.  It is applied to the
old lines from front to back.  A hunk is refused unless it stands behind the one before it, the old
text has its kept and removed lines at the place that its header states, and its kept and added
lines come to stand at the other place.
-/

namespace SchemaDdl

namespace Diff

namespace Patch

inductive Edit
  | kept (line : String)
  | removed (line : String)
  | added (line : String)
  deriving DecidableEq

namespace Edit

def old? : Edit → Option String
  | .kept line | .removed line => some line
  | .added _ => none

def new? : Edit → Option String
  | .kept line | .added line => some line
  | .removed _ => none

end Edit

/-- A place in a text: how many lines are in front of it, and how many it has. -/
structure Place where
  before : Nat
  count : Nat
  deriving DecidableEq

namespace Place

def ending (place : Place) : Nat :=
  place.before + place.count

/-- The lines of a text at a place. -/
def lines (place : Place) (text : List String) : List String :=
  (text.drop place.before).take place.count

/-- Whether the lines of a text at a place are the given ones, as many as the place has. -/
def Holds (place : Place) (text lines : List String) : Prop :=
  place.lines text = lines ∧ lines.length = place.count

end Place

/-- Edits, with the places of the old and of the new lines that the header states. -/
structure Hunk where
  old : Place
  new : Place
  edits : List Edit
  deriving DecidableEq

namespace Hunk

def oldLines (hunk : Hunk) : List String :=
  hunk.edits.filterMap Edit.old?

def newLines (hunk : Hunk) : List String :=
  hunk.edits.filterMap Edit.new?

/-- Whether a hunk can be applied to the old lines behind a position, where as many new lines have
been made as given. -/
def Fits (text : List String) (oldPosition newPosition : Nat) (hunk : Hunk) : Prop :=
  oldPosition ≤ hunk.old.before ∧ hunk.old.ending ≤ text.length ∧
    hunk.new.before = newPosition + (hunk.old.before - oldPosition) ∧
    hunk.old.lines text = hunk.oldLines ∧ hunk.new.count = hunk.newLines.length

instance (text : List String) (oldPosition newPosition : Nat) (hunk : Hunk) :
    Decidable (hunk.Fits text oldPosition newPosition) :=
  inferInstanceAs (Decidable (_ ∧ _ ∧ _ ∧ _ ∧ _))

end Hunk

def number? (chars : List Char) : Option Nat :=
  if chars ≠ [] ∧ chars.all Char.isDigit then some (Nat.ofDigitChars 10 chars 0) else none

/-- The place that a range states: the number of its first line and that of its lines, which is one
where it is left out.  The range of no lines states the line in front of them. -/
def place? (range : List Char) : Option Place :=
  match range.splitOn ',' with
  | [first] => (number? first).map fun first => ⟨first - 1, 1⟩
  | [first, count] => do
      let first ← number? first
      let count ← number? count
      return ⟨if count = 0 then first else first - 1, count⟩
  | _ => none

/-- What is behind a mark. -/
def behind? (mark : Char) (chars : List Char) : Option (List Char) :=
  if chars.head? = some mark then some chars.tail else none

def header? (item : String) : Option (Place × Place) :=
  match item.toList.splitOn ' ' with
  | [opening, old, new, closing] =>
      if opening = "@@".toList ∧ closing = "@@".toList then do
        let old ← (behind? '-' old).bind place?
        let new ← (behind? '+' new).bind place?
        return (old, new)
      else none
  | _ => none

def edit? (item : String) : Option Edit :=
  match item.toList with
  | [] => none
  | mark :: line =>
      if mark = ' ' then some (.kept (String.ofList line))
      else if mark = '-' then some (.removed (String.ofList line))
      else if mark = '+' then some (.added (String.ofList line))
      else none

/-- The edits in front of the first header, and the hunks from there on. -/
def items? : List String → Option (List Edit × List Hunk)
  | [] => some ([], [])
  | item :: items => do
      let (edits, hunks) ← items? items
      match edit? item with
      | some edit => return (edit :: edits, hunks)
      | none => do
          let (old, new) ← header? item
          return ([], ⟨old, new, edits⟩ :: hunks)

/-- The hunks of a report, which is empty where there are none. -/
def hunks? : List String → Option (List Hunk)
  | [] => some []
  | oldName :: newName :: items =>
      if "--- ".toList.isPrefixOf oldName.toList && "+++ ".toList.isPrefixOf newName.toList then do
        let (edits, hunks) ← items? items
        if edits = [] then some hunks else none
      else none
  | _ => none

/-- The lines that hunks make of the old ones behind a position, where as many have been made as
given; all lines between the hunks are taken over. -/
def patchedFrom? (text : List String) (oldPosition newPosition : Nat) :
    List Hunk → Option (List String)
  | [] => some (text.drop oldPosition)
  | hunk :: hunks =>
      if hunk.Fits text oldPosition newPosition then
        (patchedFrom? text hunk.old.ending hunk.new.ending hunks).map fun rest =>
          (text.drop oldPosition).take (hunk.old.before - oldPosition) ++ hunk.newLines ++ rest
      else none

def patched? (text : List String) (hunks : List Hunk) : Option (List String) :=
  patchedFrom? text 0 0 hunks

variable {text result : List String} {oldPosition newPosition : Nat} {hunk : Hunk}
  {hunks : List Hunk}

theorem patchedFrom?_cons (fits : hunk.Fits text oldPosition newPosition)
    (applied : patchedFrom? text hunk.old.ending hunk.new.ending hunks = some result) :
    patchedFrom? text oldPosition newPosition (hunk :: hunks) =
      some ((text.drop oldPosition).take (hunk.old.before - oldPosition) ++ hunk.newLines ++
        result) := by
  rw [patchedFrom?, if_pos fits, applied, Option.map_some]

/-- Hunks that could be applied have their old lines where the header states it in the old text, and
their new lines where it states it in the new text. -/
theorem lines_of_patchedFrom?
    (applied : patchedFrom? text oldPosition newPosition hunks = some result) :
    ∀ hunk ∈ hunks, newPosition ≤ hunk.new.before ∧ hunk.old.Holds text hunk.oldLines ∧
      hunk.newLines.length = hunk.new.count ∧
      (result.drop (hunk.new.before - newPosition)).take hunk.new.count = hunk.newLines := by
  induction hunks generalizing oldPosition newPosition result with
  | nil => simp
  | cons first hunks induction =>
      rw [patchedFrom?] at applied
      split at applied
      case isFalse => contradiction
      case isTrue fits =>
        obtain ⟨behind, inside, newBefore, oldLines, newCount⟩ := fits
        obtain ⟨rest, restApplied, rfl⟩ := Option.map_eq_some_iff.mp applied
        rw [Place.ending] at inside
        have gapLength : ((text.drop oldPosition).take
            (first.old.before - oldPosition)).length = first.new.before - newPosition := by
          rw [List.length_take, List.length_drop]
          omega
        have oldCount : first.oldLines.length = first.old.count := by
          rw [← oldLines, Place.lines, List.length_take, List.length_drop]
          omega
        rw [List.forall_mem_cons]
        refine ⟨⟨by omega, ⟨oldLines, oldCount⟩, newCount.symm, ?_⟩, ?_⟩
        · rw [List.append_assoc, List.drop_left' gapLength, newCount, List.take_left]
        · intro hunk member
          obtain ⟨behindFirst, holds, hunkCount, hunkLines⟩ := induction restApplied hunk member
          rw [Place.ending] at behindFirst hunkLines
          refine ⟨by omega, holds, hunkCount, ?_⟩
          have madeLength : ((text.drop oldPosition).take (first.old.before - oldPosition) ++
              first.newLines).length = first.new.ending - newPosition := by
            rw [List.length_append, gapLength, Place.ending, newCount]
            omega
          have further : hunk.new.before - newPosition = (first.new.ending - newPosition) +
              (hunk.new.before - (first.new.before + first.new.count)) := by
            rw [Place.ending]
            omega
          rw [further, ← List.drop_drop, List.drop_left' madeLength, hunkLines]

/-- Hunks that stand one behind the other, each with lines of neither in between, have their old and
new lines at their places in two texts, and make the second one of the first. -/
structure LeadsFrom (old new : List String) (hunks : List Hunk) : Prop where
  increasing : hunks.Pairwise fun hunk next => hunk.old.ending < next.old.before
  oldLines : ∀ hunk ∈ hunks, hunk.old.Holds old hunk.oldLines
  newLines : ∀ hunk ∈ hunks, hunk.new.Holds new hunk.newLines
  applied : patched? old hunks = some new

theorem leadsFrom_of_patched? {old new : List String}
    (increasing : hunks.Pairwise fun hunk next => hunk.old.ending < next.old.before)
    (applied : patched? old hunks = some new) : LeadsFrom old new hunks := by
  have placed := lines_of_patchedFrom? applied
  refine ⟨increasing, ?_, ?_, applied⟩
  · intro hunk member
    exact (placed hunk member).2.1
  · intro hunk member
    obtain ⟨-, -, count, lines⟩ := placed hunk member
    exact ⟨lines, count⟩

end Patch

end Diff

end SchemaDdl
