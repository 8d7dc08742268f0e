import SchemaDdl.Proofs.Layout.Line
import SchemaDdl.Proofs.Statement.Reader

/-!
# Lines of columns

Reading the line of a token-safe column gives the column.  The search for the type passes over
spaces and over words that are no keywords, and it stops at the keyword with which the next fragment
begins; the space that a default without a text loses at the end of its line is put back.
-/

namespace SchemaDdl

theorem Identifier.toList_quoted (name : String) :
    (quoted name).toList = '`' :: (name.toList ++ ['`']) := by
  simp [quoted]

namespace Reader

theorem identifier_quoted {name : String} (plain : Identifier.IsPlain name)
    (rest : List Char) :
    identifier ((Identifier.quoted name).toList ++ rest) = (name, rest) := by
  have inside : ∀ c ∈ name.toList, decide (c ≠ '`') = true := by
    intro c member
    have : c ≠ '`' := by
      rintro rfl
      exact plain.1 member
    simpa using this
  rw [Identifier.toList_quoted, identifier]
  simp only [List.cons_append, List.append_assoc, List.drop_one, List.tail_cons,
    List.takeWhile_append_of_pos inside, List.dropWhile_append_of_pos inside]
  simp

theorem firstWord_append {rest : List Char}
    (boundary : ∀ c ∈ rest.head?, Text.isBlank c = true) (word : List Char) :
    firstWord (word ++ rest) = firstWord word := by
  induction word with
  | nil =>
      cases rest with
      | nil => rfl
      | cons c rest => simp [firstWord, boundary c rfl]
  | cons c word induction =>
      simp only [firstWord, List.cons_append, List.takeWhile_cons] at induction ⊢
      rw [induction]

theorem firstWord_eq_self {word : List Char} (solid : ∀ c ∈ word, Text.isBlank c = false) :
    firstWord word = word := by
  apply List.takeWhile_eq_self_iff.mpr
  intro c member
  simp [solid c member]

theorem solid_of_mem_keywords {keyword : List Char} (isKeyword : keyword ∈ keywords) :
    ∀ c ∈ keyword, Text.isBlank c = false := by
  have : ∀ keyword ∈ keywords, ∀ c ∈ keyword, Text.isBlank c = false := by decide
  exact this keyword isKeyword

theorem ne_nil_of_mem_keywords {keyword : List Char} (isKeyword : keyword ∈ keywords) :
    keyword ≠ [] := by
  have : ∀ keyword ∈ keywords, keyword ≠ [] := by decide
  exact this keyword isKeyword

/-- The words of which the search for a keyword has yet to look at the start: all parts between
blank characters, except the first one if the search is within a word. -/
def wordsAhead (behindBlank : Bool) (chars : List Char) : List (List Char) :=
  (chars.splitOnP Text.isBlank).drop (if behindBlank then 0 else 1)

theorem wordsAhead_cons_of_blank {c : Char} (blank : Text.isBlank c = true)
    (behindBlank : Bool) (rest : List Char) {word : List Char}
    (member : word ∈ wordsAhead true rest) : word ∈ wordsAhead behindBlank (c :: rest) := by
  have split : (c :: rest).splitOnP Text.isBlank = [] :: rest.splitOnP Text.isBlank := by
    simp [List.splitOnP_cons_eq_if_modifyHead, blank]
  cases behindBlank <;> simp_all [wordsAhead]

theorem wordsAhead_cons_of_solid {c : Char} (solid : Text.isBlank c = false)
    (behindBlank : Bool) (rest : List Char) {word : List Char}
    (member : word ∈ wordsAhead false rest) : word ∈ wordsAhead behindBlank (c :: rest) := by
  have split : (c :: rest).splitOnP Text.isBlank =
      (rest.splitOnP Text.isBlank).modifyHead (List.cons c) := by
    simp [List.splitOnP_cons_eq_if_modifyHead, solid]
  obtain ⟨first, others, parts⟩ :=
    List.exists_cons_of_ne_nil (List.splitOnP_ne_nil Text.isBlank rest)
  cases behindBlank <;> simp_all [wordsAhead]

theorem head?_splitOnP_isBlank (chars : List Char) :
    (chars.splitOnP Text.isBlank).head? = some (firstWord chars) := by
  induction chars with
  | nil => simp [firstWord]
  | cons c rest induction =>
      rw [List.splitOnP_cons_eq_if_modifyHead]
      split
      · rename_i blank
        simp [firstWord, blank]
      · rename_i solid
        simp only [List.head?_modifyHead, induction]
        simp [firstWord, solid]

theorem firstWord_mem_wordsAhead (chars : List Char) :
    firstWord chars ∈ wordsAhead true chars :=
  List.mem_of_mem_head? (head?_splitOnP_isBlank chars)

theorem splitAtKeyword_of_boundary {chars : List Char}
    (boundary : ∀ c ∈ chars.head?, Text.isBlank c = true) (behindBlank : Bool) :
    splitAtKeyword behindBlank chars = splitAtKeyword true chars := by
  cases chars with
  | nil => rfl
  | cons c rest =>
      have noWord : firstWord (c :: rest) = [] := by simp [firstWord, boundary c rfl]
      have noKeyword : firstWord (c :: rest) ∉ keywords := by
        rw [noWord]
        decide
      simp only [splitAtKeyword, noKeyword, and_false, if_false]

/-- The search for a keyword passes over characters none of whose words is one, up to a boundary
between words. -/
theorem splitAtKeyword_append {chars rest : List Char} {behindBlank : Bool}
    (noKeyword : ∀ word ∈ wordsAhead behindBlank chars, word ∉ keywords)
    (boundary : ∀ c ∈ rest.head?, Text.isBlank c = true) :
    splitAtKeyword behindBlank (chars ++ rest) =
      (chars ++ (splitAtKeyword true rest).1, (splitAtKeyword true rest).2) := by
  induction chars generalizing behindBlank with
  | nil => exact splitAtKeyword_of_boundary boundary behindBlank
  | cons c chars induction =>
      have passes : ¬(behindBlank = true ∧ firstWord (c :: (chars ++ rest)) ∈ keywords) := by
        rintro ⟨rfl, found⟩
        rw [← List.cons_append, firstWord_append boundary] at found
        exact noKeyword _ (firstWord_mem_wordsAhead (c :: chars)) found
      have ahead : ∀ word ∈ wordsAhead (Text.isBlank c) chars, word ∉ keywords := by
        intro word member
        apply noKeyword
        cases blank : Text.isBlank c with
        | true => exact wordsAhead_cons_of_blank blank behindBlank chars (blank ▸ member)
        | false => exact wordsAhead_cons_of_solid blank behindBlank chars (blank ▸ member)
      rw [List.cons_append, splitAtKeyword, if_neg passes, induction ahead]
      rfl

theorem wordsAhead_of_words {chars : List Char}
    (noKeyword : ∀ word ∈ Text.words chars, word ∉ keywords) (behindBlank : Bool) :
    ∀ word ∈ wordsAhead behindBlank chars, word ∉ keywords := by
  intro word member keyword
  have nonempty : word ≠ [] := by
    rintro rfl
    exact absurd keyword (by decide)
  refine noKeyword word ?_ keyword
  exact List.mem_filter.mpr ⟨List.mem_of_mem_drop member, by simpa using nonempty⟩

theorem splitAtKeyword_spaces {gap : List Char} (spaces : ∀ c ∈ gap, c = ' ')
    (rest : List Char) :
    splitAtKeyword true (gap ++ rest) =
      (gap ++ (splitAtKeyword true rest).1, (splitAtKeyword true rest).2) := by
  induction gap with
  | nil => rfl
  | cons c gap induction =>
      have blank : Text.isBlank c = true := Text.isBlank_of_spaces spaces c (by simp)
      have noWord : firstWord (c :: (gap ++ rest)) = [] := by simp [firstWord, blank]
      have noKeyword : firstWord (c :: (gap ++ rest)) ∉ keywords := by
        rw [noWord]
        decide
      rw [List.cons_append, splitAtKeyword, if_neg (by simp [noKeyword]), blank,
        induction fun other member => spaces other (List.mem_cons_of_mem _ member)]
      rfl

/-- The search for a keyword divides a column's line behind its name in front of the keyword. -/
theorem splitAtKeyword_type {type first second keyword rest : List Char}
    (noKeyword : ∀ word ∈ Text.words type, word ∉ keywords) (firstGap : Text.IsGap first)
    (secondGap : Text.IsGap second) (isKeyword : keyword ∈ keywords)
    (boundary : ∀ c ∈ rest.head?, Text.isBlank c = true) :
    splitAtKeyword true (first ++ type ++ second ++ (keyword ++ rest)) =
      (first ++ type ++ second, keyword ++ rest) := by
  have secondStarts : ∀ c ∈ (second ++ (keyword ++ rest)).head?, Text.isBlank c = true := by
    obtain ⟨c, gap, rfl⟩ := List.exists_cons_of_ne_nil secondGap.1
    simpa using Text.isBlank_of_spaces secondGap.2 c (by simp)
  have found : firstWord (keyword ++ rest) ∈ keywords := by
    rw [firstWord_append boundary, firstWord_eq_self (solid_of_mem_keywords isKeyword)]
    exact isKeyword
  have stops : splitAtKeyword true (keyword ++ rest) = ([], keyword ++ rest) := by
    obtain ⟨c, others, rfl⟩ := List.exists_cons_of_ne_nil (ne_nil_of_mem_keywords isKeyword)
    rw [List.cons_append] at found ⊢
    rw [splitAtKeyword, if_pos ⟨rfl, found⟩]
  rw [List.append_assoc, List.append_assoc, splitAtKeyword_spaces firstGap.2,
    splitAtKeyword_append (wordsAhead_of_words noKeyword true) secondStarts,
    splitAtKeyword_spaces secondGap.2, stops]
  simp

/-- Where no keyword follows, the search for one takes in the whole line behind the name. -/
theorem splitAtKeyword_type_only {type first : List Char}
    (noKeyword : ∀ word ∈ Text.words type, word ∉ keywords) (spaces : ∀ c ∈ first, c = ' ') :
    splitAtKeyword true (first ++ type) = (first ++ type, []) := by
  have whole : splitAtKeyword true (type ++ []) = (type ++ _, _) :=
    splitAtKeyword_append (wordsAhead_of_words noKeyword true) (by simp)
  rw [List.append_nil] at whole
  rw [splitAtKeyword_spaces spaces, whole]
  simp [splitAtKeyword]

theorem nullability_absent {chars : List Char} (other : ∀ c ∈ chars.head?, c ≠ 'N') :
    nullability chars = ("", chars) := by
  cases chars with
  | nil => rfl
  | cons c rest =>
      have : 'N' ≠ c := (other c rfl).symm
      simp [nullability, List.isPrefixOf, this]

theorem nullability_append {text : String} (isNullability : text ∈ ["", "NULL", "NOT NULL"])
    {rest : List Char} (other : ∀ c ∈ rest.head?, c ≠ 'N') :
    nullability (text.toList ++ rest) = (text, rest) := by
  simp only [List.mem_cons, List.not_mem_nil, or_false] at isNullability
  rcases isNullability with rfl | rfl | rfl
  · exact nullability_absent other
  · rfl
  · rfl

/-- A default is read from the end of a line that was trimmed behind it. -/
theorem default_dropBlankEnd {fragment : String}
    (safe : fragment = "" ∨ ∃ text, fragment = "DEFAULT " ++ text ∧
      '\n' ∉ text.toList ∧ Text.EndsSolid text.toList)
    {gap after : List Char} (spacesBefore : ∀ c ∈ gap, c = ' ')
    (spacesAfter : ∀ c ∈ after, c = ' ') :
    default (Text.dropBlankEnd (gap ++ fragment.toList ++ after)) = fragment := by
  have blankBefore := Text.isBlank_of_spaces spacesBefore
  rw [Text.dropBlankEnd_append_of_blank (Text.isBlank_of_spaces spacesAfter)]
  rcases safe with rfl | ⟨text, rfl, -, endsSolid⟩
  · rw [String.toList_empty, List.append_nil, Text.dropBlankEnd_eq_nil blankBefore]
    rfl
  · by_cases empty : text = ""
    · subst empty
      have keyword : Text.EndsSolid (gap ++ "DEFAULT".toList) :=
        Text.EndsSolid.append (by decide) (by decide) gap
      have : gap ++ ("DEFAULT " ++ "").toList = gap ++ "DEFAULT".toList ++ [' '] := by simp
      rw [this, Text.dropBlankEnd_append_of_blank (by decide), Text.dropBlankEnd_eq_self keyword,
        default, Text.dropBlankStart_append_of_blank blankBefore]
      decide
    · have nonempty : text.toList ≠ [] := by simpa using empty
      have kept : Text.EndsSolid (gap ++ ("DEFAULT " ++ text).toList) := by
        rw [String.toList_append, ← List.append_assoc]
        exact endsSolid.append nonempty _
      have startsSolid : Text.StartsSolid ("DEFAULT " ++ text).toList := by
        simp [Text.StartsSolid]
        decide
      have longer : ("DEFAULT " ++ text).toList ≠ "DEFAULT".toList := by
        simp
      rw [Text.dropBlankEnd_eq_self kept, default, Text.dropBlankStart_append_of_blank blankBefore,
        Text.dropBlankStart_eq_self startsSolid, if_neg longer, String.ofList_toList]

theorem splitAtKeyword_dropBlankEnd {type first second keyword rest : List Char}
    (noKeyword : ∀ word ∈ Text.words type, word ∉ keywords) (firstGap : Text.IsGap first)
    (secondGap : Text.IsGap second) (isKeyword : keyword ∈ keywords)
    (boundary : ∀ c ∈ rest.head?, Text.isBlank c = true) :
    splitAtKeyword true
        (Text.dropBlankEnd (first ++ type ++ second ++ (keyword ++ rest))) =
      (first ++ type ++ second, Text.dropBlankEnd (keyword ++ rest)) := by
  have solid := solid_of_mem_keywords isKeyword
  obtain ⟨c, others, keywordEq⟩ :=
    List.exists_cons_of_ne_nil (ne_nil_of_mem_keywords isKeyword)
  have inKeyword : c ∈ keyword := by simp [keywordEq]
  have endsSolid : Text.EndsSolid keyword := fun last isLast =>
    solid last (List.mem_of_getLast? isLast)
  have trimmedBoundary : ∀ c ∈ (Text.dropBlankEnd rest).head?, Text.isBlank c = true :=
    fun c isFirst => boundary c (Text.head?_dropBlankEnd isFirst)
  rw [Text.dropBlankEnd_append_of_mem (List.mem_append_left rest inKeyword) (solid c inKeyword),
    Text.dropBlankEnd_append_of_endsSolid endsSolid,
    splitAtKeyword_type noKeyword firstGap secondGap isKeyword trimmedBoundary]

/-- What is read behind the name of a column: its type, and from the rest the nullability and the
default. -/
def ReadsBehindName (column : Column) (chars : List Char) : Prop :=
  Text.dropBlankEnd (Text.dropBlankStart (splitAtKeyword true chars).1) = column.type.toList ∧
    (nullability (splitAtKeyword true chars).2).1 = column.nullability ∧
    default (nullability (splitAtKeyword true chars).2).2 = column.default

theorem readsBehindName_type_only {column : Column} (safe : column.TokenSafe)
    (noNullability : column.nullability = "") (noDefault : column.default = "")
    {first after : List Char} (firstSpaces : ∀ c ∈ first, c = ' ')
    (afterSpaces : ∀ c ∈ after, c = ' ') :
    ReadsBehindName column (Text.dropBlankEnd (first ++ column.type.toList ++ after)) := by
  have firstBlank := Text.isBlank_of_spaces firstSpaces
  rw [Text.dropBlankEnd_append_of_blank (Text.isBlank_of_spaces afterSpaces)]
  by_cases empty : column.type.toList = []
  · rw [ReadsBehindName, empty, List.append_nil, Text.dropBlankEnd_eq_nil firstBlank,
      noNullability, noDefault]
    exact ⟨rfl, rfl, rfl⟩
  · have nothingBehind : ∀ c ∈ ([] : List Char), Text.isBlank c = true := by simp
    have surrounded := Text.dropBlank_surrounded firstBlank nothingBehind safe.typeStartsSolid
      safe.typeEndsSolid
    rw [List.append_nil] at surrounded
    rw [ReadsBehindName, Text.dropBlankEnd_eq_self (safe.typeEndsSolid.append empty first),
      splitAtKeyword_type_only safe.typeWithoutKeywords firstSpaces, noNullability, noDefault]
    exact ⟨surrounded, rfl, rfl⟩

theorem readsBehindName_keyword {column : Column} (safe : column.TokenSafe)
    {first second keyword rest : List Char} (firstGap : Text.IsGap first)
    (secondGap : Text.IsGap second) (isKeyword : keyword ∈ keywords)
    (boundary : ∀ c ∈ rest.head?, Text.isBlank c = true)
    (readsNullability : (nullability (Text.dropBlankEnd (keyword ++ rest))).1 =
      column.nullability)
    (readsDefault : default (nullability (Text.dropBlankEnd (keyword ++ rest))).2 =
      column.default) :
    ReadsBehindName column
      (Text.dropBlankEnd (first ++ column.type.toList ++ second ++ (keyword ++ rest))) := by
  rw [ReadsBehindName, splitAtKeyword_dropBlankEnd safe.typeWithoutKeywords firstGap secondGap
    isKeyword boundary]
  exact ⟨Text.dropBlank_surrounded (Text.isBlank_of_spaces firstGap.2)
    (Text.isBlank_of_spaces secondGap.2) safe.typeStartsSolid safe.typeEndsSolid,
    readsNullability, readsDefault⟩

theorem nullability_dropBlankEnd {column : Column} (safe : column.TokenSafe)
    (isNullability : column.nullability ∈ ["", "NULL", "NOT NULL"]) {gap after : List Char}
    (isGap : Text.IsGap gap) (spaces : ∀ c ∈ after, c = ' ') :
    (nullability (Text.dropBlankEnd
        (column.nullability.toList ++ (gap ++ column.default.toList ++ after)))).1 =
      column.nullability ∧
    default (nullability (Text.dropBlankEnd
        (column.nullability.toList ++ (gap ++ column.default.toList ++ after)))).2 =
      column.default := by
  have endsSolid : Text.EndsSolid column.nullability.toList := by
    have : ∀ text ∈ ["", "NULL", "NOT NULL"], Text.EndsSolid text.toList := by decide
    exact this _ isNullability
  have notN : ∀ c ∈ (Text.dropBlankEnd (gap ++ column.default.toList ++ after)).head?,
      c ≠ 'N' := by
    obtain ⟨space, others, gapEq⟩ := List.exists_cons_of_ne_nil isGap.1
    intro c isFirst
    have := Text.head?_dropBlankEnd isFirst
    rw [gapEq] at this
    simp only [List.cons_append, List.head?_cons, Option.mem_some_iff] at this
    rw [← this, isGap.2 space (by simp [gapEq])]
    decide
  rw [Text.dropBlankEnd_append_of_endsSolid endsSolid, nullability_append isNullability notN]
  exact ⟨rfl, default_dropBlankEnd safe.default isGap.2 spaces⟩

theorem default_without_nullability {column : Column} (safe : column.TokenSafe)
    {text : String} (defaultEq : column.default = "DEFAULT " ++ text) {after : List Char}
    (spaces : ∀ c ∈ after, c = ' ') :
    (nullability (Text.dropBlankEnd (column.default.toList ++ after))).1 = "" ∧
    default (nullability (Text.dropBlankEnd (column.default.toList ++ after))).2 =
      column.default := by
  have notN : ∀ c ∈ (Text.dropBlankEnd (column.default.toList ++ after)).head?, c ≠ 'N' := by
    intro c isFirst
    have := Text.head?_dropBlankEnd isFirst
    rw [defaultEq] at this
    simp only [String.toList_append, String.reduceToList, List.cons_append, List.head?_cons,
      Option.mem_some_iff] at this
    rw [← this]
    decide
  have noGap : ∀ c ∈ ([] : List Char), c = ' ' := by simp
  have defaultRead := default_dropBlankEnd safe.default noGap spaces
  rw [List.nil_append] at defaultRead
  rw [nullability_absent notN]
  exact ⟨rfl, defaultRead⟩

theorem readsBehindName {column : Column} (safe : column.TokenSafe)
    (isNullability : column.nullability ∈ ["", "NULL", "NOT NULL"])
    {first second third after : List Char} (firstGap : Text.IsGap first)
    (secondGap : Text.IsGap second) (thirdGap : Text.IsGap third)
    (spaces : ∀ c ∈ after, c = ' ') :
    ReadsBehindName column (Text.dropBlankEnd (first ++ column.type.toList ++ second ++
      (column.nullability.toList ++ (third ++ column.default.toList ++ after)))) := by
  have fromNullability := nullability_dropBlankEnd safe isNullability thirdGap spaces
  have boundary : ∀ c ∈ (third ++ column.default.toList ++ after).head?,
      Text.isBlank c = true := by
    obtain ⟨c, others, rfl⟩ := List.exists_cons_of_ne_nil thirdGap.1
    simpa using Text.isBlank_of_spaces thirdGap.2 c (by simp)
  simp only [List.mem_cons, List.not_mem_nil, or_false] at isNullability
  rcases isNullability with absent | isNull | isNotNull
  · rcases safe.default with noDefault | ⟨text, defaultEq, -, -⟩
    · have allSpaces : ∀ c ∈ second ++ third ++ after, c = ' ' := by
        simpa [or_imp, forall_and] using ⟨secondGap.2, thirdGap.2, spaces⟩
      have := readsBehindName_type_only safe absent noDefault firstGap.2 allSpaces
      simpa [absent, noDefault] using this
    · have gap : Text.IsGap (second ++ third) :=
        ⟨by simp [secondGap.1],
          by simpa [or_imp, forall_and] using ⟨secondGap.2, thirdGap.2⟩⟩
      have fromDefault := default_without_nullability safe defaultEq spaces
      have split : column.default.toList ++ after =
          "DEFAULT".toList ++ (' ' :: text.toList ++ after) := by
        simp [defaultEq]
      have isKeyword : "DEFAULT".toList ∈ keywords := by decide
      rw [split] at fromDefault
      have := readsBehindName_keyword safe firstGap gap isKeyword (by simp; decide)
        (fromDefault.1.trans absent.symm) fromDefault.2
      rw [← split] at this
      simpa [absent] using this
  · have split : column.nullability.toList = "NULL".toList := by rw [isNull]
    rw [split] at fromNullability ⊢
    exact readsBehindName_keyword safe firstGap secondGap (by decide) boundary
      fromNullability.1 fromNullability.2
  · have split (rest : List Char) :
        column.nullability.toList ++ rest = "NOT".toList ++ (" NULL".toList ++ rest) := by
      rw [isNotNull]
      rfl
    rw [split] at fromNullability ⊢
    exact readsBehindName_keyword safe firstGap secondGap (by decide) (by simp; decide)
      fromNullability.1 fromNullability.2

theorem column_dropBlankEnd {column : Column} (safe : column.TokenSafe)
    (isNullability : column.nullability ∈ ["", "NULL", "NOT NULL"]) {chars : List Char}
    (spread : Layout.Spread column.cells chars) :
    Reader.column (Text.dropBlankEnd chars) = column := by
  obtain ⟨name, nameEq, plain⟩ := safe.name
  rw [Column.cells] at spread
  obtain - | ⟨firstGap, spread⟩ := spread
  obtain - | ⟨secondGap, spread⟩ := spread
  obtain - | ⟨thirdGap, spread⟩ := spread
  obtain spaces | ⟨-, spread⟩ := spread
  case cons => cases spread
  rename_i first second third after
  obtain ⟨typeEq, nullabilityEq, defaultEq⟩ :=
    readsBehindName safe isNullability firstGap secondGap thirdGap spaces
  have nameSolid : Text.EndsSolid column.name.toList := by
    have accentSolid : Text.EndsSolid ['`'] := by decide
    rw [nameEq, Identifier.toList_quoted]
    exact accentSolid.append (by simp) ('`' :: name.toList)
  have divided : column.name.toList ++ first ++ (column.type.toList ++ second ++
      (column.nullability.toList ++ third ++ (column.default.toList ++ after))) =
      column.name.toList ++ (first ++ column.type.toList ++ second ++
        (column.nullability.toList ++ (third ++ column.default.toList ++ after))) := by
    simp
  rw [divided, Text.dropBlankEnd_append_of_endsSolid nameSolid, Reader.column]
  simp only [nameEq, identifier_quoted plain, typeEq, nullabilityEq, defaultEq,
    String.ofList_toList]
  rw [← nameEq]

end Reader

end SchemaDdl
