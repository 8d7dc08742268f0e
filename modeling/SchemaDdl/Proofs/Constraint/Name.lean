import Mathlib.Data.List.Infix
import SchemaDdl.Proofs.Resolution.Writing
import SchemaDdl.Proofs.Statement.ConstraintLine

/-!
# Generated names of constraints

The generated name of a constraint joins identifiers by two underscores.  Where the identifiers are
clean, so that no separator can begin, end or lie within one of them, the name can be taken apart in
one way only, and unless it was cut it determines the constraint.
-/

namespace SchemaDdl

namespace Identifier

/-- Whether characters are not empty, have no two underscores in a row and none at either end. -/
def IsCleanChars (chars : List Char) : Prop :=
  chars ≠ [] ∧ ¬['_', '_'] <:+: chars ∧ chars.head? ≠ some '_' ∧ chars.getLast? ≠ some '_'

instance (chars : List Char) : Decidable (IsCleanChars chars) :=
  inferInstanceAs (Decidable (_ ∧ _ ∧ _ ∧ _))

def IsClean (name : String) : Prop :=
  IsCleanChars name.toList

instance (name : String) : Decidable (IsClean name) :=
  inferInstanceAs (Decidable (IsCleanChars name.toList))

theorem quoted_injective : Function.Injective quoted := by
  intro name other same
  have chars := congrArg String.toList same
  rw [toList_quoted, toList_quoted, List.cons_inj_right, List.append_left_inj] at chars
  exact String.toList_injective chars

/-- A clean name is not a shorter one with what begins the separator behind that. -/
theorem IsCleanChars.eq_nil_of_append {name between rest otherRest : List Char}
    (clean : IsCleanChars (name ++ between))
    (same : '_' :: '_' :: rest = between ++ '_' :: '_' :: otherRest) : between = [] := by
  obtain ⟨-, noSeparator, -, endsClean⟩ := clean
  match between with
  | [] => rfl
  | [c] =>
      rw [List.singleton_append, List.cons.injEq] at same
      rw [← same.1] at endsClean
      simp at endsClean
  | c :: d :: between =>
      simp only [List.cons_append, List.cons.injEq] at same
      obtain ⟨rfl, rfl, -⟩ := same
      exact absurd ⟨name, between, by simp⟩ noSeparator

/-- Clean names in front of separators are the same where the texts are. -/
theorem IsCleanChars.append_inj {name other rest otherRest : List Char}
    (clean : IsCleanChars name) (otherClean : IsCleanChars other)
    (same : name ++ '_' :: '_' :: rest = other ++ '_' :: '_' :: otherRest) :
    name = other ∧ rest = otherRest := by
  have sameName : name = other := by
    rcases List.append_eq_append_iff.mp same with ⟨between, rfl, tails⟩ | ⟨between, rfl, tails⟩
    · rw [otherClean.eq_nil_of_append tails, List.append_nil]
    · rw [clean.eq_nil_of_append tails, List.append_nil]
  subst sameName
  simpa using same

/-- Joined clean names determine the names. -/
theorem eq_of_intercalate_eq {names others : List String} (nonempty : names ≠ [])
    (othersNonempty : others ≠ []) (clean : ∀ name ∈ names, IsClean name)
    (othersClean : ∀ name ∈ others, IsClean name)
    (same : Constraint.nameSeparator.intercalate names =
      Constraint.nameSeparator.intercalate others) : names = others := by
  have separator : Constraint.nameSeparator.toList = ['_', '_'] := by decide
  induction names generalizing others with
  | nil => exact absurd rfl nonempty
  | cons name names induction =>
      cases others with
      | nil => exact absurd rfl othersNonempty
      | cons other others =>
          rw [List.forall_mem_cons] at clean othersClean
          cases names with
          | nil =>
              cases others with
              | nil => simpa using same
              | cons nextOther others =>
                  -- A single clean name holds no separator.
                  rw [String.intercalate_singleton, String.intercalate_cons_cons] at same
                  refine absurd ?_ clean.1.2.1
                  rw [same, String.toList_append, String.toList_append, separator]
                  exact ⟨_, _, rfl⟩
          | cons next names =>
              cases others with
              | nil =>
                  rw [String.intercalate_singleton, String.intercalate_cons_cons] at same
                  refine absurd ?_ othersClean.1.2.1
                  rw [← same, String.toList_append, String.toList_append, separator]
                  exact ⟨_, _, rfl⟩
              | cons nextOther others =>
                  have chars := congrArg String.toList same
                  rw [String.intercalate_cons_cons, String.intercalate_cons_cons] at chars
                  simp only [String.toList_append, separator, List.append_assoc,
                    List.cons_append, List.nil_append] at chars
                  obtain ⟨sameName, sameRest⟩ := clean.1.append_inj othersClean.1 chars
                  rw [String.toList_injective sameName,
                    induction (by simp) (by simp) clean.2 othersClean.2
                      (String.toList_injective sameRest)]

end Identifier

namespace Constraint

/-- The identifiers of a constraint, as they are written out. -/
inductive Subject
  | primaryKey (table : String) (columns : List String)
  | foreignKey (table column referencesTable referencesColumn : String)
  deriving DecidableEq

namespace Subject

def constraint : Subject → Constraint
  | .primaryKey table columns => Constraint.primaryKey table columns
  | .foreignKey table column referencesTable referencesColumn =>
      Constraint.foreignKey table column referencesTable referencesColumn

/-- The identifiers in the order in which they stand in the generated name. -/
def identifiers : Subject → List String
  | .primaryKey table columns => table :: columns
  | .foreignKey table column referencesTable referencesColumn =>
      [table, referencesTable, column, referencesColumn]

/-- The mark of the kind in front of a generated name. -/
def kindMark : Subject → String
  | .primaryKey .. => "pk"
  | .foreignKey .. => "fk"

/-- The generated name before it is cut. -/
def fullName (subject : Subject) : String :=
  nameSeparator.intercalate (subject.kindMark :: subject.identifiers)

def IsClean (subject : Subject) : Prop :=
  ∀ name ∈ subject.identifiers, Identifier.IsClean name

instance (subject : Subject) : Decidable subject.IsClean :=
  List.decidableBAll _ _

/-- Whether the generated name is not cut: that of a primary key never is. -/
def KeepsName : Subject → Prop
  | .primaryKey .. => True
  | .foreignKey table column referencesTable referencesColumn =>
      (foreignFullName table column referencesTable referencesColumn).length ≤ nameLimit

instance : (subject : Subject) → Decidable subject.KeepsName
  | .primaryKey .. => isTrue trivial
  | .foreignKey .. => Nat.decLe _ _

theorem name_constraint {subject : Subject} (keeps : subject.KeepsName) :
    subject.constraint.name = Identifier.quoted subject.fullName := by
  cases subject with
  | primaryKey table columns => rfl
  | foreignKey table column referencesTable referencesColumn =>
      have whole : foreignName table column referencesTable referencesColumn =
          foreignFullName table column referencesTable referencesColumn := by
        apply String.toList_injective
        rw [foreignName, Text.toList_truncate]
        apply List.take_of_length_le
        rw [String.length_toList]
        exact keeps
      rw [constraint, Constraint.foreignKey, whole]
      rfl

/-- Of clean identifiers, the mark of the kind and the identifiers determine what is named. -/
theorem eq_of_fullName_eq {subject other : Subject} (clean : subject.IsClean)
    (otherClean : other.IsClean) (same : subject.fullName = other.fullName) :
    subject = other := by
  have marksClean : ∀ subject : Subject, Identifier.IsClean subject.kindMark := by
    intro subject
    cases subject with
    | primaryKey => exact (by decide : Identifier.IsClean "pk")
    | foreignKey => exact (by decide : Identifier.IsClean "fk")
  have parts := Identifier.eq_of_intercalate_eq (by simp) (by simp)
    (List.forall_mem_cons.mpr ⟨marksClean subject, clean⟩)
    (List.forall_mem_cons.mpr ⟨marksClean other, otherClean⟩) same
  rw [List.cons.injEq] at parts
  cases subject with
  | primaryKey table columns =>
      cases other with
      | primaryKey otherTable otherColumns => simpa [identifiers] using parts.2
      | foreignKey => exact absurd parts.1 (by simp [kindMark])
  | foreignKey =>
      cases other with
      | primaryKey => exact absurd parts.1 (by simp [kindMark])
      | foreignKey =>
          simp only [identifiers, List.cons.injEq, and_true] at parts
          obtain ⟨-, rfl, rfl, rfl, rfl⟩ := parts
          rfl

end Subject

/-- What a value names as a constraint of a table: a mapping of the type of primary keys with
columns, or of the type of foreign keys with a column and the table and column that it
references. -/
inductive Describes (table : String) : Value → Subject → Prop
  | primaryKey {mark : Option Nat} {entries : Mapping} {type columns : Value}
      (typed : Mapping.property? entries "type" = some type)
      (isPrimary : type.key? = some (.text "primary"))
      (foundColumns : Mapping.property? entries "columns" = some columns) :
      Describes table (.map mark entries)
        (.primaryKey table (columns.items.map Value.sqlText))
  | foreignKey {mark : Option Nat} {entries : Mapping}
      {type column referencesTable referencesColumn : Value}
      (typed : Mapping.property? entries "type" = some type)
      (isForeign : type.key? = some (.text "foreign"))
      (foundColumn : Mapping.property? entries "column" = some column)
      (foundTable : Mapping.property? entries "references_table" = some referencesTable)
      (foundReference : Mapping.property? entries "references_column" = some referencesColumn) :
      Describes table (.map mark entries)
        (.foreignKey table column.sqlText referencesTable.sqlText referencesColumn.sqlText)

theorem required_eq_ok_iff {table : String} {entries : Mapping} {field : ConstraintField}
    {value : Value} :
    required table entries field = .ok value ↔
      Mapping.property? entries field.keyword = some value := by
  unfold required
  cases Mapping.property? entries field.keyword <;> simp

/-- An accepted constraint is that of what its value names. -/
theorem exists_describes_of_ofValue {table : String} {value : Value} {constraint : Constraint}
    (accepted : ofValue table value = .ok constraint) :
    ∃ subject, Describes table value subject ∧ constraint = subject.constraint := by
  cases value with
  | map mark entries =>
      rw [ofValue, ofEntries] at accepted
      cases typed : Mapping.property? entries "type" with
      | none => simp [typed] at accepted
      | some type =>
          rw [typed] at accepted
          cases isKey : type.key? with
          | none => simp [isKey] at accepted
          | some key =>
              simp only [isKey] at accepted
              split at accepted
              · rename_i isPrimary
                subst isPrimary
                obtain ⟨columns, foundColumns, made⟩ := bind_eq_ok_iff.mp accepted
                rw [required_eq_ok_iff] at foundColumns
                simp only [bind_eq_ok_iff, pure_eq_ok_iff] at made
                obtain ⟨texts, written, rfl⟩ := made
                obtain ⟨-, rfl⟩ := Value.mapM_written_eq_ok_iff.mp written
                exact ⟨_, .primaryKey typed isKey foundColumns, rfl⟩
              · split at accepted
                · rename_i isForeign
                  subst isForeign
                  simp only [foreignOfEntries, bind_eq_ok_iff, required_eq_ok_iff,
                    Value.written_eq_ok_iff, pure_eq_ok_iff] at accepted
                  obtain ⟨column, foundColumn, referencesColumn, foundReference,
                    referencesTable, foundTable, _, ⟨-, rfl⟩, _, ⟨-, rfl⟩, _, ⟨-, rfl⟩, rfl⟩ :=
                    accepted
                  exact ⟨_, .foreignKey typed isKey foundColumn foundTable foundReference, rfl⟩
                · contradiction
  | null => simp [ofValue, ofEntries, Mapping.property?] at accepted
  | _ => simp [ofValue] at accepted

/-- Accepted constraints with the same generated name, of clean identifiers and not cut, are of the
same kind and name the same table, columns and references. -/
theorem subject_eq_of_name_eq {table otherTable : String} {value otherValue : Value}
    {constraint other : Constraint} (accepted : ofValue table value = .ok constraint)
    (otherAccepted : ofValue otherTable otherValue = .ok other)
    (sameName : constraint.name = other.name) :
    ∃ subject otherSubject, Describes table value subject ∧
      Describes otherTable otherValue otherSubject ∧
      constraint = subject.constraint ∧ other = otherSubject.constraint ∧
      (subject.IsClean → otherSubject.IsClean → subject.KeepsName → otherSubject.KeepsName →
        subject = otherSubject) := by
  obtain ⟨subject, described, rfl⟩ := exists_describes_of_ofValue accepted
  obtain ⟨otherSubject, otherDescribed, rfl⟩ := exists_describes_of_ofValue otherAccepted
  refine ⟨subject, otherSubject, described, otherDescribed, rfl, rfl, ?_⟩
  intro clean otherClean keeps otherKeeps
  rw [Subject.name_constraint keeps, Subject.name_constraint otherKeeps] at sameName
  exact Subject.eq_of_fullName_eq clean otherClean (Identifier.quoted_injective sameName)

/-- A foreign key from lines of orders, whose generated name is as long as it may be. -/
def orderReference : Value :=
  .map none [(.text "type", .text "foreign"), (.text "column", .text "customer_order_number"),
    (.text "references_table", .text "customer_orders"), (.text "references_column", .text "key")]

/-- The same foreign key, written in another order and with a remark. -/
def remarkedReference : Value :=
  .map none [(.text "remark", .null), (.text "references_column", .text "key"),
    (.text "references_table", .text "customer_orders"),
    (.text "column", .text "customer_order_number"), (.text "type", .text "foreign")]

def orderSubject : Subject :=
  .foreignKey "customer_lines" "customer_order_number" "customer_orders" "key"

theorem subject_eq_of_orderReference :
    ofValue "customer_lines" orderReference = .ok orderSubject.constraint ∧
      ofValue "customer_lines" remarkedReference = .ok orderSubject.constraint ∧
      orderSubject.IsClean ∧ orderSubject.KeepsName ∧ orderSubject.fullName.length = nameLimit ∧
      ∃ subject otherSubject, Describes "customer_lines" orderReference subject ∧
        Describes "customer_lines" remarkedReference otherSubject ∧
        orderSubject.constraint = subject.constraint ∧
        orderSubject.constraint = otherSubject.constraint ∧
        (subject.IsClean → otherSubject.IsClean → subject.KeepsName → otherSubject.KeepsName →
          subject = otherSubject) :=
  have accepted : ofValue "customer_lines" orderReference = .ok orderSubject.constraint := rfl
  have remarked : ofValue "customer_lines" remarkedReference = .ok orderSubject.constraint := rfl
  ⟨accepted, remarked, by decide, by decide, by decide,
    subject_eq_of_name_eq accepted remarked rfl⟩

end Constraint

end SchemaDdl
