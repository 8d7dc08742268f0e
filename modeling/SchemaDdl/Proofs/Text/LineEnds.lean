import SchemaDdl.Text.Lines

/-!
# Conversion of line ends

A text whose lines end in line feeds can be rewritten so that all of them end in carriage returns,
or in a carriage return with a line feed behind it.  Unifying the line ends undoes either conversion
if the text had no carriage return of its own.
-/

namespace SchemaDdl

namespace Text

inductive LineEnding
  | lineFeed
  | carriageReturn
  | returnAndFeed
  deriving DecidableEq

def LineEnding.chars : LineEnding → List Char
  | .lineFeed => ['\n']
  | .carriageReturn => ['\r']
  | .returnAndFeed => ['\r', '\n']

/-- The characters with the given line ending in the place of every line feed. -/
def convertLineEnds (ending : LineEnding) (chars : List Char) : List Char :=
  chars.flatMap fun c => if c = '\n' then ending.chars else [c]

theorem convertLineEnds_lineFeed_cons (ending : LineEnding) (chars : List Char) :
    convertLineEnds ending ('\n' :: chars) = ending.chars ++ convertLineEnds ending chars := by
  simp [convertLineEnds]

theorem convertLineEnds_cons {c : Char} (other : c ≠ '\n') (ending : LineEnding)
    (chars : List Char) :
    convertLineEnds ending (c :: chars) = c :: convertLineEnds ending chars := by
  simp [convertLineEnds, other]

theorem not_mem_convertLineEnds (chars : List Char) :
    '\n' ∉ convertLineEnds .carriageReturn chars := by
  intro member
  obtain ⟨c, -, inConverted⟩ := List.mem_flatMap.mp member
  split at inConverted
  · simp [LineEnding.chars] at inConverted
  · rename_i other
    exact other (List.mem_singleton.mp inConverted).symm

theorem unifyLineEnds_cons {c : Char} (other : c ≠ '\r') (chars : List Char) :
    unifyLineEnds (c :: chars) = c :: unifyLineEnds chars := by
  rw [unifyLineEnds, if_neg other]
  rintro rest rfl
  exact absurd rfl other

/-- A carriage return alone counts as a line feed. -/
theorem unifyLineEnds_return {chars : List Char} (alone : '\n' ∉ chars) :
    unifyLineEnds ('\r' :: chars) = '\n' :: unifyLineEnds chars := by
  rw [unifyLineEnds, if_pos rfl]
  rintro rest - rfl
  simp at alone

/-- A line ending at the front counts as a line feed, whatever is converted behind it. -/
theorem unifyLineEnds_chars_append (ending : LineEnding) (chars : List Char) :
    unifyLineEnds (ending.chars ++ convertLineEnds ending chars) =
      '\n' :: unifyLineEnds (convertLineEnds ending chars) := by
  cases ending with
  | lineFeed => exact unifyLineEnds_cons (by decide) _
  | carriageReturn => exact unifyLineEnds_return (not_mem_convertLineEnds chars)
  | returnAndFeed => rfl

theorem unifyLineEnds_convertLineEnds {chars : List Char} (noReturn : '\r' ∉ chars)
    (ending : LineEnding) : unifyLineEnds (convertLineEnds ending chars) = chars := by
  induction chars with
  | nil => rfl
  | cons c chars induction =>
      simp only [List.mem_cons, not_or] at noReturn
      by_cases lineFeed : c = '\n'
      · subst lineFeed
        rw [convertLineEnds_lineFeed_cons, unifyLineEnds_chars_append, induction noReturn.2]
      · rw [convertLineEnds_cons lineFeed, unifyLineEnds_cons (Ne.symm noReturn.1),
          induction noReturn.2]

/-- A text with its line ends unified. -/
def unified (text : String) : String :=
  String.ofList (unifyLineEnds text.toList)

/-- A text with the given line ending in the place of every line feed. -/
def converted (ending : LineEnding) (text : String) : String :=
  String.ofList (convertLineEnds ending text.toList)

theorem unified_of_not_mem {text : String} (noReturn : '\r' ∉ text.toList) :
    unified text = text := by
  rw [unified, unifyLineEnds_of_not_mem noReturn, String.ofList_toList]

theorem unified_converted {text : String} (noReturn : '\r' ∉ text.toList)
    (ending : LineEnding) : unified (converted ending text) = text := by
  rw [unified, converted, String.toList_ofList, unifyLineEnds_convertLineEnds noReturn,
    String.ofList_toList]

end Text

end SchemaDdl
