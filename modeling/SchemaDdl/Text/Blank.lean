/-!
# Blank characters, trimming and padding

A character is blank when it has the Unicode property `White_Space` or is one of the four
information separators U+001C to U+001F.  Texts are trimmed of blank characters at either end,
padded with spaces to a width counted in characters, and cut to a length.  Every operation is given
by what it does to the list of characters of a text.
-/

namespace SchemaDdl

namespace Text

/-- The blank characters as ranges of code points, both ends included. -/
def blankRanges : List (Nat × Nat) :=
  [(0x09, 0x0D), (0x1C, 0x20), (0x85, 0x85), (0xA0, 0xA0), (0x1680, 0x1680),
   (0x2000, 0x200A), (0x2028, 0x2029), (0x202F, 0x202F), (0x205F, 0x205F),
   (0x3000, 0x3000)]

def isBlank (c : Char) : Bool :=
  blankRanges.any fun range => range.1 ≤ c.toNat && c.toNat ≤ range.2

def dropBlankStart (chars : List Char) : List Char :=
  chars.dropWhile isBlank

def dropBlankEnd (chars : List Char) : List Char :=
  (chars.reverse.dropWhile isBlank).reverse

def trimEnd (text : String) : String :=
  String.ofList (dropBlankEnd text.toList)

/-- A text without its blank characters at both ends. -/
def trim (text : String) : String :=
  String.ofList (dropBlankEnd (dropBlankStart text.toList))

/-- A text brought to a width by spaces in front. -/
def padStart (width : Nat) (text : String) : String :=
  String.ofList (List.replicate (width - text.length) ' ' ++ text.toList)

/-- A text brought to a width by spaces behind. -/
def padEnd (width : Nat) (text : String) : String :=
  String.ofList (text.toList ++ List.replicate (width - text.length) ' ')

/-- The first characters of a text, at most as many as the limit. -/
def truncate (limit : Nat) (text : String) : String :=
  String.ofList (text.toList.take limit)

@[simp]
theorem toList_trimEnd (text : String) :
    (trimEnd text).toList = dropBlankEnd text.toList := by
  simp [trimEnd]

@[simp]
theorem toList_trim (text : String) :
    (trim text).toList = dropBlankEnd (dropBlankStart text.toList) := by
  simp [trim]

@[simp]
theorem toList_padStart (width : Nat) (text : String) :
    (padStart width text).toList =
      List.replicate (width - text.length) ' ' ++ text.toList := by
  simp [padStart]

@[simp]
theorem toList_padEnd (width : Nat) (text : String) :
    (padEnd width text).toList =
      text.toList ++ List.replicate (width - text.length) ' ' := by
  simp [padEnd]

@[simp]
theorem toList_truncate (limit : Nat) (text : String) :
    (truncate limit text).toList = text.toList.take limit := by
  simp [truncate]

end Text

end SchemaDdl
