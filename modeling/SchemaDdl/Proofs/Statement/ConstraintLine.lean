import SchemaDdl.Proofs.Statement.ColumnLine

/-!
# Lines of constraints

Reading the line of a token-safe constraint gives the constraint.  The generated name is plain
because its parts are, and the clause with the columns holds no closing parenthesis outside its
identifiers but the one at its end.
-/

namespace SchemaDdl

namespace Text

theorem mem_intercalate {separator : String} {texts : List String} {c : Char}
    (member : c ∈ (separator.intercalate texts).toList) :
    c ∈ separator.toList ∨ ∃ text ∈ texts, c ∈ text.toList := by
  induction texts with
  | nil => simp at member
  | cons text texts induction =>
      cases texts with
      | nil => exact .inr ⟨text, by simp, by simpa using member⟩
      | cons next texts =>
          rw [String.intercalate_cons_cons, String.toList_append, String.toList_append,
            List.append_assoc] at member
          rcases List.mem_append.mp member with inText | inRest
          · exact .inr ⟨text, by simp, inText⟩
          · rcases List.mem_append.mp inRest with inSeparator | inTexts
            · exact .inl inSeparator
            · rcases induction inTexts with inSeparator | ⟨other, otherMember, inOther⟩
              · exact .inl inSeparator
              · exact .inr ⟨other, List.mem_cons_of_mem _ otherMember, inOther⟩

end Text

namespace Identifier

theorem isPlain_intercalate {separator : String} {names : List String}
    (separatorPlain : IsPlain separator) (plain : ∀ name ∈ names, IsPlain name) :
    IsPlain (separator.intercalate names) := by
  constructor
  · intro member
    rcases Text.mem_intercalate member with inSeparator | ⟨name, isName, inName⟩
    · exact separatorPlain.1 inSeparator
    · exact (plain name isName).1 inName
  · intro member
    rcases Text.mem_intercalate member with inSeparator | ⟨name, isName, inName⟩
    · exact separatorPlain.2 inSeparator
    · exact (plain name isName).2 inName

theorem isPlain_truncate {name : String} (plain : IsPlain name) (limit : Nat) :
    IsPlain (Text.truncate limit name) := by
  rw [IsPlain, Text.toList_truncate]
  exact ⟨fun member => plain.1 (List.mem_of_mem_take member),
    fun member => plain.2 (List.mem_of_mem_take member)⟩

end Identifier

namespace Constraint

theorem isPlain_primaryName {table : String} (tablePlain : Identifier.IsPlain table)
    {columns : List String} (plain : ∀ column ∈ columns, Identifier.IsPlain column) :
    Identifier.IsPlain (primaryName table columns) := by
  apply Identifier.isPlain_intercalate
  · decide
  · intro name member
    simp only [List.mem_cons] at member
    rcases member with rfl | rfl | member
    · decide
    · exact tablePlain
    · exact plain name member

theorem isPlain_foreignName {table column referencesTable referencesColumn : String}
    (tablePlain : Identifier.IsPlain table) (columnPlain : Identifier.IsPlain column)
    (referencesTablePlain : Identifier.IsPlain referencesTable)
    (referencesColumnPlain : Identifier.IsPlain referencesColumn) :
    Identifier.IsPlain (foreignName table column referencesTable referencesColumn) := by
  apply Identifier.isPlain_truncate
  apply Identifier.isPlain_intercalate
  · decide
  · intro name member
    simp only [List.mem_cons, List.not_mem_nil, or_false] at member
    rcases member with rfl | rfl | rfl | rfl | rfl
    · decide
    · exact tablePlain
    · exact referencesTablePlain
    · exact columnPlain
    · exact referencesColumnPlain

theorem TokenSafe.fragments {table : String} (tablePlain : Identifier.IsPlain table)
    {constraint : Constraint} (safe : constraint.TokenSafe table) :
    (∃ name, constraint.name = Identifier.quoted name ∧ Identifier.IsPlain name) ∧
      constraint.kind ∈ ["PRIMARY KEY", "FOREIGN KEY"] ∧
      (∃ names, constraint.columns = identifierList names ∧
        ∀ name ∈ names, Identifier.IsPlain name) ∧
      (constraint.references = "" ∨ ∃ referencesTable referencesColumn,
        constraint.references =
          "REFERENCES " ++ Identifier.quoted referencesTable ++ " " ++
            identifierList [referencesColumn] ∧
        Identifier.IsPlain referencesTable ∧ Identifier.IsPlain referencesColumn) := by
  cases safe with
  | primaryKey columns plain =>
      exact ⟨⟨_, rfl, isPlain_primaryName tablePlain plain⟩, by simp [Constraint.primaryKey],
        ⟨columns, rfl, plain⟩, .inl rfl⟩
  | foreignKey column referencesTable referencesColumn columnPlain referencesTablePlain
      referencesColumnPlain =>
      exact ⟨⟨_, rfl, isPlain_foreignName tablePlain columnPlain referencesTablePlain
          referencesColumnPlain⟩, by simp [Constraint.foreignKey],
        ⟨[column], rfl, by simpa using columnPlain⟩,
        .inr ⟨referencesTable, referencesColumn, rfl, referencesTablePlain,
          referencesColumnPlain⟩⟩

end Constraint

namespace Reader

/-- Characters that the search for the end of a clause passes over from outside to outside the
accents. -/
def Passes (chars : List Char) : Prop :=
  ∀ rest, clause false (chars ++ rest) =
    (chars ++ (clause false rest).1, (clause false rest).2)

theorem Passes.append {first second : List Char} (firstPasses : Passes first)
    (secondPasses : Passes second) : Passes (first ++ second) := by
  intro rest
  rw [List.append_assoc, firstPasses, secondPasses, List.append_assoc]

theorem passes_of_forall {chars : List Char} (other : ∀ c ∈ chars, c ≠ ')' ∧ c ≠ '`') :
    Passes chars := by
  intro rest
  induction chars with
  | nil => rfl
  | cons c chars induction =>
      obtain ⟨noParenthesis, noAccent⟩ := other c (by simp)
      rw [List.cons_append, clause, if_neg (by simp [noParenthesis]), if_neg noAccent,
        induction fun next member => other next (List.mem_cons_of_mem _ member)]
      rfl

theorem clause_inside {name : List Char} (noAccent : '`' ∉ name) (rest : List Char) :
    clause true (name ++ '`' :: rest) =
      (name ++ '`' :: (clause false rest).1, (clause false rest).2) := by
  induction name with
  | nil => simp [clause]
  | cons c name induction =>
      simp only [List.mem_cons, not_or] at noAccent
      rw [List.cons_append, clause, if_neg (by simp), if_neg (Ne.symm noAccent.1),
        induction noAccent.2]
      rfl

theorem passes_quoted {name : String} (plain : Identifier.IsPlain name) :
    Passes (Identifier.quoted name).toList := by
  intro rest
  have inside := clause_inside plain.1 rest
  rw [Identifier.toList_quoted, List.cons_append, clause, if_neg (by decide), if_pos rfl,
    List.append_assoc]
  simp [inside]

theorem passes_intercalate {names : List String}
    (plain : ∀ name ∈ names, Identifier.IsPlain name) :
    Passes (", ".intercalate (names.map Identifier.quoted)).toList := by
  induction names with
  | nil => exact passes_of_forall (by simp)
  | cons name names induction =>
      have first := passes_quoted (plain name (by simp))
      cases names with
      | nil => simpa using first
      | cons next names =>
          have others := induction fun other member => plain other (List.mem_cons_of_mem _ member)
          rw [List.map_cons, List.map_cons, String.intercalate_cons_cons, String.toList_append,
            String.toList_append]
          exact (first.append (passes_of_forall (by decide))).append others

theorem clause_identifierList {names : List String}
    (plain : ∀ name ∈ names, Identifier.IsPlain name) (rest : List Char) :
    clause false ((Constraint.identifierList names).toList ++ rest) =
      ((Constraint.identifierList names).toList, rest) := by
  have passes : Passes ("( ".toList ++
      (", ".intercalate (names.map Identifier.quoted)).toList ++ [' ']) :=
    ((passes_of_forall (by decide)).append (passes_intercalate plain)).append
      (passes_of_forall (by decide))
  have divided : (Constraint.identifierList names).toList =
      "( ".toList ++ (", ".intercalate (names.map Identifier.quoted)).toList ++ [' '] ++
        [')'] := by
    simp [Constraint.identifierList]
  have closes : clause false (')' :: rest) = ([')'], rest) := by simp [clause]
  rw [divided, List.append_assoc, List.singleton_append, passes, closes]

theorem endsSolid_identifierList (names : List String) :
    Text.EndsSolid (Constraint.identifierList names).toList := by
  rw [Constraint.identifierList, String.toList_append]
  exact Text.EndsSolid.append (by decide) (by decide) _

theorem startsSolid_identifierList (names : List String) (rest : List Char) :
    Text.StartsSolid ((Constraint.identifierList names).toList ++ rest) := by
  simp [Constraint.identifierList, Text.StartsSolid]
  decide

/-- The clause with what is referenced is read from the end of a line that was trimmed behind it. -/
theorem references_dropBlankEnd {references : String}
    (startsSolid : Text.StartsSolid references.toList)
    (endsSolid : Text.EndsSolid references.toList) {gap after : List Char}
    (spacesBefore : ∀ c ∈ gap, c = ' ') (spacesAfter : ∀ c ∈ after, c = ' ') :
    Text.dropBlankStart (Text.dropBlankEnd (gap ++ references.toList ++ after)) =
      references.toList := by
  have blankBefore := Text.isBlank_of_spaces spacesBefore
  rw [Text.dropBlankEnd_append_of_blank (Text.isBlank_of_spaces spacesAfter)]
  by_cases empty : references.toList = []
  · rw [empty, List.append_nil, Text.dropBlankEnd_eq_nil blankBefore]
    rfl
  · rw [Text.dropBlankEnd_eq_self (endsSolid.append empty gap),
      Text.dropBlankStart_append_of_blank blankBefore, Text.dropBlankStart_eq_self startsSolid]

/-- The words of a kind of constraint begin with no blank, and all have the same length. -/
theorem kind_shape {kind : String} (isKind : kind ∈ ["PRIMARY KEY", "FOREIGN KEY"])
    (rest : List Char) :
    Text.StartsSolid (kind.toList ++ rest) ∧ kind.toList.length = "PRIMARY KEY".length := by
  simp only [List.mem_cons, List.not_mem_nil, or_false] at isKind
  rcases isKind with rfl | rfl
  · exact ⟨by simp [Text.StartsSolid]; decide, by decide⟩
  · exact ⟨by simp [Text.StartsSolid]; decide, by decide⟩

theorem references_solid {references : String}
    (isReferences : references = "" ∨ ∃ referencesTable referencesColumn,
      references = "REFERENCES " ++ Identifier.quoted referencesTable ++ " " ++
          Constraint.identifierList [referencesColumn] ∧
        Identifier.IsPlain referencesTable ∧ Identifier.IsPlain referencesColumn) :
    Text.StartsSolid references.toList ∧ Text.EndsSolid references.toList := by
  rcases isReferences with rfl | ⟨referencesTable, referencesColumn, rfl, -, -⟩
  · decide
  · constructor
    · simp [Text.StartsSolid]
      decide
    · rw [String.toList_append]
      exact (endsSolid_identifierList _).append (by simp [Constraint.identifierList]) _

theorem constraint_dropBlankEnd {table : String} (tablePlain : Identifier.IsPlain table)
    {constraint : Constraint} (safe : constraint.TokenSafe table) {chars : List Char}
    (spread : Layout.Spread constraint.cells chars) :
    Reader.constraint (Text.dropBlankEnd chars) = constraint := by
  obtain ⟨⟨name, nameEq, namePlain⟩, isKind, ⟨names, columnsEq, namesPlain⟩, isReferences⟩ :=
    safe.fragments tablePlain
  rw [Constraint.cells] at spread
  obtain - | ⟨firstGap, spread⟩ := spread
  obtain - | ⟨secondGap, spread⟩ := spread
  obtain - | ⟨thirdGap, spread⟩ := spread
  obtain - | ⟨fourthGap, spread⟩ := spread
  obtain spaces | ⟨-, spread⟩ := spread
  case cons => cases spread
  rename_i first second third fourth after
  let ending := Text.dropBlankEnd (fourth ++ constraint.references.toList ++ after)
  let fromColumns := constraint.columns.toList ++ ending
  let fromKind := constraint.kind.toList ++ (third ++ fromColumns)
  let fromName := constraint.name.toList ++ (second ++ fromKind)
  -- Only what stands behind the columns can lose characters at the end of the line.
  have trimmed : Text.dropBlankEnd ("CONSTRAINT".toList ++ first ++
      (constraint.name.toList ++ second ++ (constraint.kind.toList ++ third ++
        (constraint.columns.toList ++ fourth ++
          (constraint.references.toList ++ after))))) =
      "CONSTRAINT".toList ++ (first ++ fromName) := by
    have endsSolid := (endsSolid_identifierList names).append
      (by simp [Constraint.identifierList]) ("CONSTRAINT".toList ++ first ++
        constraint.name.toList ++ second ++ constraint.kind.toList ++ third)
    have divided := Text.dropBlankEnd_append_of_endsSolid endsSolid
      (fourth ++ constraint.references.toList ++ after)
    simpa [fromName, fromKind, fromColumns, ending, columnsEq] using divided
  have nameRead : identifier (Text.dropBlankStart
      (("CONSTRAINT".toList ++ (first ++ fromName)).drop "CONSTRAINT".length)) =
      (name, second ++ fromKind) := by
    have startsSolid : Text.StartsSolid fromName := by
      simp [fromName, nameEq, Identifier.toList_quoted, Text.StartsSolid]
      decide
    rw [List.drop_left' (by decide),
      Text.dropBlankStart_append_of_blank (Text.isBlank_of_spaces firstGap.2),
      Text.dropBlankStart_eq_self startsSolid]
    simp only [fromName, nameEq, identifier_quoted namePlain]
  obtain ⟨kindSolid, kindLength⟩ := kind_shape isKind (third ++ fromColumns)
  have kindRead : Text.dropBlankStart (second ++ fromKind) = fromKind := by
    rw [Text.dropBlankStart_append_of_blank (Text.isBlank_of_spaces secondGap.2),
      Text.dropBlankStart_eq_self kindSolid]
  have columnsRead : clause false (Text.dropBlankStart
      (fromKind.drop "PRIMARY KEY".length)) = (constraint.columns.toList, ending) := by
    have startsSolid : Text.StartsSolid fromColumns := by
      simpa only [fromColumns, columnsEq] using startsSolid_identifierList names ending
    rw [List.drop_left' kindLength,
      Text.dropBlankStart_append_of_blank (Text.isBlank_of_spaces thirdGap.2),
      Text.dropBlankStart_eq_self startsSolid]
    simp only [fromColumns, columnsEq, clause_identifierList namesPlain]
  obtain ⟨referencesStart, referencesEnd⟩ := references_solid isReferences
  have referencesRead : Text.dropBlankStart ending = constraint.references.toList :=
    references_dropBlankEnd referencesStart referencesEnd fourthGap.2 spaces
  rw [trimmed, Reader.constraint]
  simp only [nameRead, kindRead, columnsRead, referencesRead, String.ofList_toList]
  rw [List.take_left' kindLength, String.ofList_toList, ← nameEq]

end Reader

end SchemaDdl
