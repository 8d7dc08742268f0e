import Mathlib.Data.List.DropRight
import SchemaDdl.Text.Blank

/-!
# Trimming of concatenated texts

Trimming a concatenation works on one of its parts: blank characters at an end go entirely, and a
part that begins or ends with another character keeps everything that stands on its far side.
-/

namespace SchemaDdl

namespace Text

def StartsSolid (chars : List Char) : Prop :=
  ∀ c ∈ chars.head?, isBlank c = false

def EndsSolid (chars : List Char) : Prop :=
  ∀ c ∈ chars.getLast?, isBlank c = false

/-- Of a list, only its own characters are looked at, not all that there are. -/
instance (priority := high) decidableForallMem (chars : List Char) (p : Char → Prop)
    [DecidablePred p] : Decidable (∀ c ∈ chars, p c) :=
  List.decidableBAll p chars

instance (chars : List Char) : Decidable (StartsSolid chars) :=
  decidable_of_iff (∀ c ∈ chars.head?.toList, isBlank c = false) (by simp [StartsSolid])

instance (chars : List Char) : Decidable (EndsSolid chars) :=
  decidable_of_iff (∀ c ∈ chars.getLast?.toList, isBlank c = false) (by simp [EndsSolid])

theorem startsSolid_cons {c : Char} (solid : isBlank c = false) (rest : List Char) :
    StartsSolid (c :: rest) := by
  intro first isFirst
  rw [List.head?_cons, Option.mem_some_iff] at isFirst
  rw [← isFirst]
  exact solid

theorem EndsSolid.append {second : List Char} (solid : EndsSolid second) (nonempty : second ≠ [])
    (first : List Char) : EndsSolid (first ++ second) := by
  intro c isLast
  rw [List.getLast?_append_of_ne_nil first nonempty] at isLast
  exact solid c isLast

def IsGap (chars : List Char) : Prop :=
  chars ≠ [] ∧ ∀ c ∈ chars, c = ' '

theorem isBlank_of_spaces {chars : List Char} (spaces : ∀ c ∈ chars, c = ' ') :
    ∀ c ∈ chars, isBlank c = true := by
  intro c member
  rw [spaces c member]
  decide

theorem dropBlankEnd_eq_rdropWhile (chars : List Char) :
    dropBlankEnd chars = chars.rdropWhile isBlank :=
  rfl

/-- Trimming takes away nothing but blank characters at the end. -/
theorem exists_dropBlankEnd_append (chars : List Char) :
    ∃ blank, (∀ c ∈ blank, isBlank c = true) ∧ dropBlankEnd chars ++ blank = chars :=
  ⟨chars.rtakeWhile isBlank, fun _ => List.mem_rtakeWhile_imp, List.rdropWhile_append_rtakeWhile ..⟩

theorem dropBlankEnd_eq_nil {chars : List Char} (blank : ∀ c ∈ chars, isBlank c = true) :
    dropBlankEnd chars = [] := by
  rw [dropBlankEnd_eq_rdropWhile, List.rdropWhile_eq_nil_iff]
  exact blank

theorem dropBlankEnd_eq_self {chars : List Char} (solid : EndsSolid chars) :
    dropBlankEnd chars = chars := by
  rw [dropBlankEnd_eq_rdropWhile, List.rdropWhile_eq_self_iff]
  intro nonempty
  simpa using solid (chars.getLast nonempty) (List.getLast?_eq_some_getLast nonempty)

theorem head?_dropBlankEnd {chars : List Char} {c : Char}
    (first : c ∈ (dropBlankEnd chars).head?) : c ∈ chars.head? := by
  obtain ⟨dropped, whole⟩ := List.rdropWhile_prefix isBlank (l := chars)
  rw [dropBlankEnd_eq_rdropWhile] at first
  rw [← whole, List.head?_append, first]
  rfl

theorem dropBlankEnd_append_of_blank {second : List Char}
    (blank : ∀ c ∈ second, isBlank c = true) (first : List Char) :
    dropBlankEnd (first ++ second) = dropBlankEnd first := by
  have reversed : ∀ c ∈ second.reverse, isBlank c = true := by simpa using blank
  simp only [dropBlankEnd, List.reverse_append, List.dropWhile_append_of_pos reversed]

/-- A character that is not blank keeps everything in front of it. -/
theorem dropBlankEnd_append_of_mem {second : List Char} {c : Char} (member : c ∈ second)
    (solid : isBlank c = false) (first : List Char) :
    dropBlankEnd (first ++ second) = first ++ dropBlankEnd second := by
  have remains : ¬(second.reverse.dropWhile isBlank).isEmpty := by
    rw [List.isEmpty_iff, List.dropWhile_eq_nil_iff]
    intro blank
    have := blank c (by simpa using member)
    simp [solid] at this
  simp only [dropBlankEnd, List.reverse_append, List.dropWhile_append, if_neg remains,
    List.reverse_reverse]

theorem dropBlankEnd_append_of_endsSolid {first : List Char} (solid : EndsSolid first)
    (second : List Char) :
    dropBlankEnd (first ++ second) = first ++ dropBlankEnd second := by
  by_cases blank : ∀ c ∈ second, isBlank c = true
  · rw [dropBlankEnd_append_of_blank blank, dropBlankEnd_eq_nil blank,
      dropBlankEnd_eq_self solid, List.append_nil]
  · push Not at blank
    obtain ⟨c, member, solidMember⟩ := blank
    exact dropBlankEnd_append_of_mem member (by simpa using solidMember) first

theorem endsSolid_dropBlankEnd (chars : List Char) : EndsSolid (dropBlankEnd chars) := by
  intro c isLast
  rw [dropBlankEnd_eq_rdropWhile] at isLast
  obtain ⟨nonempty, rfl⟩ := List.mem_getLast?_eq_getLast isLast
  simpa using List.rdropWhile_last_not isBlank chars nonempty

theorem mem_of_mem_dropBlankEnd {chars : List Char} {c : Char}
    (member : c ∈ dropBlankEnd chars) : c ∈ chars :=
  (List.rdropWhile_prefix isBlank chars).subset member

theorem dropBlankEnd_cons_of_solid {c : Char} (solid : isBlank c = false) (rest : List Char) :
    dropBlankEnd (c :: rest) = c :: dropBlankEnd rest := by
  have endsSolid : EndsSolid [c] := startsSolid_cons solid []
  exact dropBlankEnd_append_of_endsSolid endsSolid rest

theorem dropBlankStart_append_of_blank {first : List Char}
    (blank : ∀ c ∈ first, isBlank c = true) (second : List Char) :
    dropBlankStart (first ++ second) = dropBlankStart second :=
  List.dropWhile_append_of_pos blank

theorem dropBlankStart_eq_self {chars : List Char} (solid : StartsSolid chars) :
    dropBlankStart chars = chars := by
  cases chars with
  | nil => rfl
  | cons c rest =>
      have : isBlank c = false := solid c rfl
      simp [dropBlankStart, this]

/-- Trimming takes away just the blank characters around a text that has none at its ends. -/
theorem dropBlank_surrounded {before middle after : List Char}
    (blankBefore : ∀ c ∈ before, isBlank c = true)
    (blankAfter : ∀ c ∈ after, isBlank c = true)
    (startsSolid : StartsSolid middle) (endsSolid : EndsSolid middle) :
    dropBlankEnd (dropBlankStart (before ++ middle ++ after)) = middle := by
  rw [List.append_assoc, dropBlankStart_append_of_blank blankBefore]
  cases middle with
  | nil =>
      rw [List.nil_append, dropBlankStart, List.dropWhile_eq_nil_iff.mpr blankAfter]
      rfl
  | cons c rest =>
      have startsWithAfter : StartsSolid (c :: rest ++ after) := startsSolid
      rw [dropBlankStart_eq_self startsWithAfter, dropBlankEnd_append_of_blank blankAfter,
        dropBlankEnd_eq_self endsSolid]

end Text

end SchemaDdl
