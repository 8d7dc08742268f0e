/-!
# Line endings and lines

In a text that is read from a file, a carriage return, alone or with the line feed behind it, counts
as a line feed.  For a comparison line by line, a text is divided at every character that ends a
line anywhere; an ending at the very end begins no further line.
-/

namespace SchemaDdl

namespace Text

/-- The characters with every carriage return, and the line feed behind it, as one line feed. -/
def unifyLineEnds : List Char → List Char
  | [] => []
  | '\r' :: '\n' :: rest => '\n' :: unifyLineEnds rest
  | c :: rest => (if c = '\r' then '\n' else c) :: unifyLineEnds rest

def isLineEnd (c : Char) : Bool :=
  c = '\n' || c = '\r' || c = '\x0B' || c = '\x0C' || ('\x1C' ≤ c && c ≤ '\x1E') ||
    c = '\x85' || c = '\u2028' || c = '\u2029'

def consToFirst (c : Char) : List (List Char) → List (List Char)
  | [] => [[c]]
  | line :: lines => (c :: line) :: lines

/-- The lines of the characters of a text, without their endings. -/
def lineChars : List Char → List (List Char)
  | [] => []
  | '\r' :: '\n' :: rest => [] :: lineChars rest
  | c :: rest => if isLineEnd c then [] :: lineChars rest else consToFirst c (lineChars rest)

def lines (text : String) : List String :=
  (lineChars text.toList).map String.ofList

theorem not_mem_unifyLineEnds (chars : List Char) : '\r' ∉ unifyLineEnds chars := by
  fun_induction unifyLineEnds chars with
  | case1 => simp
  | case2 rest induction => simpa using induction
  | case3 c rest _ induction =>
      simp only [List.mem_cons, not_or]
      refine ⟨?_, induction⟩
      split
      · decide
      · rename_i other
        exact Ne.symm other

theorem unifyLineEnds_of_not_mem {chars : List Char} (noReturn : '\r' ∉ chars) :
    unifyLineEnds chars = chars := by
  fun_induction unifyLineEnds chars with
  | case1 => rfl
  | case2 rest _ => simp at noReturn
  | case3 c rest _ induction =>
      simp only [List.mem_cons, not_or] at noReturn
      rw [induction noReturn.2, if_neg (Ne.symm noReturn.1)]

@[simp]
theorem unifyLineEnds_unifyLineEnds (chars : List Char) :
    unifyLineEnds (unifyLineEnds chars) = unifyLineEnds chars :=
  unifyLineEnds_of_not_mem (not_mem_unifyLineEnds chars)

end Text

end SchemaDdl
