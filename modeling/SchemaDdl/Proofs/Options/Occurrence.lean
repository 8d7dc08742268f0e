import Mathlib.Data.List.Infix
import Mathlib.Data.List.TakeWhile
import SchemaDdl.Command
import SchemaDdl.Proofs.Options.Output

/-!
# Command lines made of options

An occurrence of an option is its name, or what the name begins with, and the value if it takes one,
behind an equals sign or as the next argument.  A command line of occurrences leads to the last
value of each option, in whatever order they come.  It is refused only where a check is asked for
and the last output is empty or there is none.
-/

namespace SchemaDdl

namespace Options

/-- What the name of an option begins with: the hyphens and one letter at least. -/
structure Spelling (name : Name) where
  text : String
  begins : text.toList <+: name.long.toList
  hasLetter : 3 ≤ text.toList.length

/-- The options that take a value. -/
inductive Setting
  | schema
  | out
  deriving DecidableEq

def Setting.name : Setting → Name
  | .schema => .schema
  | .out => .out

/-- An option on a command line.  A value behind an equals sign is any text but the separator, and a
value that is the next argument does not begin with a hyphen. -/
inductive Occurrence
  | attached (setting : Setting) (spelling : Spelling setting.name) (value : String)
      (notSeparator : value ≠ "--")
  | separate (setting : Setting) (spelling : Spelling setting.name) (value : String)
      (noHyphen : value.toList.head? ≠ some '-')
  | flag (spelling : Spelling .check)

namespace Occurrence

def arguments : Occurrence → List String
  | .attached _ spelling value _ => [spelling.text ++ "=" ++ value]
  | .separate _ spelling value _ => [spelling.text, value]
  | .flag spelling => [spelling.text]

/-- The option that is given a value, and the value; a flag gives none. -/
def given? : Occurrence → Option (Setting × String)
  | .attached setting _ value _ | .separate setting _ value _ => some (setting, value)
  | .flag _ => none

def option (occurrence : Occurrence) : Name :=
  match occurrence.given? with
  | some (setting, _) => setting.name
  | none => .check

/-- The value that is given to an option, if it is the one that occurs. -/
def value? (wanted : Setting) (occurrence : Occurrence) : Option String :=
  match occurrence.given? with
  | some (setting, value) => if setting = wanted then some value else none
  | none => none

def isFlag (occurrence : Occurrence) : Bool :=
  occurrence.given?.isNone

/-- The arguments of an occurrence with what each of them is. -/
def kinds : Occurrence → List (String × Argument)
  | .attached setting spelling value _ =>
      [(spelling.text ++ "=" ++ value, .option setting.name (some value))]
  | .separate setting spelling value _ =>
      [(spelling.text, .option setting.name none), (value, .value)]
  | .flag spelling => [(spelling.text, .option .check none)]

/-- The options once an occurrence is taken in. -/
def takeIn (options : Options) (occurrence : Occurrence) : Options :=
  match occurrence.given? with
  | some (setting, value) => setValue setting.name value options
  | none => { options with check := true }

end Occurrence

def commandLine (occurrences : List Occurrence) : List String :=
  occurrences.flatMap Occurrence.arguments

/-- The last one of the values that are given to an option. -/
def lastValue? (setting : Setting) (occurrences : List Occurrence) : Option String :=
  (occurrences.filterMap (Occurrence.value? setting)).getLast?

/-- The options that have the last values given, and ask for a check if a flag does. -/
def lastGiven (occurrences : List Occurrence) : Options where
  schema := (lastValue? .schema occurrences).getD "schema.yaml"
  out := lastValue? .out occurrences
  check := occurrences.any Occurrence.isFlag

/-- The beginnings of a name that have a letter are those of no other name. -/
theorem candidates_of_mem_inits (name : Name) :
    ∀ chars ∈ name.long.toList.inits, 3 ≤ chars.length →
      chars.take 2 = ['-', '-'] ∧ candidates chars = [name] ∧ '=' ∉ chars := by
  cases name <;> decide

theorem splitAtEquals_of_not_mem {chars : List Char} (noEquals : '=' ∉ chars) :
    splitAtEquals chars = (chars, none) := by
  have kept : ∀ c ∈ chars, decide (c ≠ '=') = true := by
    intro c member
    exact decide_eq_true fun same => noEquals (same ▸ member)
  rw [splitAtEquals, List.takeWhile_eq_self_iff.mpr kept, List.dropWhile_eq_nil_iff.mpr kept]

theorem splitAtEquals_append {chars : List Char} (noEquals : '=' ∉ chars) (value : List Char) :
    splitAtEquals (chars ++ '=' :: value) = (chars, some (String.ofList value)) := by
  have kept : ∀ c ∈ chars, decide (c ≠ '=') = true := by
    intro c member
    exact decide_eq_true fun same => noEquals (same ▸ member)
  rw [splitAtEquals, List.takeWhile_append_of_pos kept, List.dropWhile_append_of_pos kept]
  simp

/-- An argument is an option if it begins with two hyphens and something more, and what stands in
front of any equals sign belongs to one name only. -/
theorem of_option {argument : String} {c : Char} {rest chars : List Char} {name : Name}
    {attached : Option String} (begins : argument.toList = '-' :: '-' :: c :: rest)
    (splits : splitAtEquals argument.toList = (chars, attached))
    (single : candidates chars = [name]) :
    Argument.of argument = .ok (.option name attached) := by
  rw [begins] at splits
  simp [Argument.of, begins, splits, single]

theorem Spelling.exists_chars {name : Name} (spelling : Spelling name) :
    ∃ c rest, spelling.text.toList = '-' :: '-' :: c :: rest ∧
      candidates ('-' :: '-' :: c :: rest) = [name] ∧ '=' ∉ '-' :: '-' :: c :: rest := by
  obtain ⟨hyphens, single, noEquals⟩ := candidates_of_mem_inits name _
    ((List.mem_inits _ _).mpr spelling.begins) spelling.hasLetter
  have hasLetter := spelling.hasLetter
  match isText : spelling.text.toList with
  | first :: second :: c :: rest =>
      rw [isText] at hyphens single noEquals
      obtain ⟨rfl, rfl⟩ : first = '-' ∧ second = '-' := by simpa using hyphens
      exact ⟨c, rest, rfl, single, noEquals⟩
  | [] | [_] | [_, _] => simp [isText] at hasLetter

theorem of_spelling {name : Name} (spelling : Spelling name) :
    Argument.of spelling.text = .ok (.option name none) := by
  obtain ⟨c, rest, isText, single, noEquals⟩ := spelling.exists_chars
  refine of_option isText ?_ single
  rw [isText, splitAtEquals_of_not_mem noEquals]

theorem of_attached {name : Name} (spelling : Spelling name) (value : String) :
    Argument.of (spelling.text ++ "=" ++ value) = .ok (.option name (some value)) := by
  obtain ⟨c, rest, isText, single, noEquals⟩ := spelling.exists_chars
  have isArgument : (spelling.text ++ "=" ++ value).toList =
      '-' :: '-' :: c :: rest ++ '=' :: value.toList := by
    simp [isText]
  refine of_option isArgument ?_ single
  rw [isArgument, splitAtEquals_append noEquals, String.ofList_toList]

theorem of_value {value : String} (noHyphen : value.toList.head? ≠ some '-') :
    Argument.of value = .ok .value := by
  unfold Argument.of
  split <;> simp_all

theorem classify_append (occurrence : Occurrence) {arguments : List String}
    {rest : List (String × Argument)} (classifies : classify arguments = .ok rest) :
    classify (occurrence.arguments ++ arguments) = .ok (occurrence.kinds ++ rest) := by
  cases occurrence with
  | attached setting spelling value notSeparator =>
      exact classify_cons_of_ne_separator (of_attached spelling value) (by simp) classifies
  | separate setting spelling value noHyphen =>
      exact classify_cons_of_ne_separator (of_spelling spelling) (by simp)
        (classify_cons_of_ne_separator (of_value noHyphen) (by simp) classifies)
  | flag spelling =>
      exact classify_cons_of_ne_separator (of_spelling spelling) (by simp) classifies

theorem classify_commandLine (occurrences : List Occurrence) :
    classify (commandLine occurrences) = .ok (occurrences.flatMap Occurrence.kinds) := by
  induction occurrences with
  | nil => rfl
  | cons occurrence occurrences induction => exact classify_append occurrence induction

theorem scan_append (options : Options) (occurrence : Occurrence)
    (rest : List (String × Argument)) :
    scan options (occurrence.kinds ++ rest) = scan (occurrence.takeIn options) rest := by
  cases occurrence with
  | attached setting spelling value notSeparator => cases setting <;> rfl
  | separate setting spelling value noHyphen => cases setting <;> rfl
  | flag spelling => rfl

theorem scan_kinds (options : Options) (occurrences : List Occurrence) :
    scan options (occurrences.flatMap Occurrence.kinds) =
      .ok (occurrences.foldl Occurrence.takeIn options, []) := by
  induction occurrences generalizing options with
  | nil => rfl
  | cons occurrence occurrences induction =>
      rw [List.flatMap_cons, scan_append, induction, List.foldl_cons]

theorem lastValue?_cons (setting : Setting) (occurrence : Occurrence)
    (occurrences : List Occurrence) :
    lastValue? setting (occurrence :: occurrences) =
      (lastValue? setting occurrences).or (occurrence.value? setting) := by
  simp [lastValue?]

/-- The last values take the place of those in the options from which the occurrences are taken in;
where no value is given, these stay. -/
theorem foldl_takeIn (options : Options) (occurrences : List Occurrence) :
    occurrences.foldl Occurrence.takeIn options =
      { schema := (lastValue? .schema occurrences).getD options.schema
        out := (lastValue? .out occurrences).or options.out
        check := options.check || occurrences.any Occurrence.isFlag } := by
  induction occurrences generalizing options with
  | nil => simp [lastValue?]
  | cons occurrence occurrences induction =>
      rw [List.foldl_cons, induction, lastValue?_cons, lastValue?_cons, List.any_cons]
      simp only [Occurrence.takeIn, Occurrence.value?, Occurrence.isFlag]
      rcases occurrence.given? with _ | ⟨setting, value⟩
      · simp
      · cases setting <;> simp [setValue, Setting.name]

theorem lastGiven_eq_foldl (occurrences : List Occurrence) :
    lastGiven occurrences = occurrences.foldl Occurrence.takeIn {} := by
  simp [foldl_takeIn, lastGiven]

theorem Occurrence.takeIn_comm {first second : Occurrence}
    (differ : first.option ≠ second.option) (options : Options) :
    second.takeIn (first.takeIn options) = first.takeIn (second.takeIn options) := by
  unfold Occurrence.option at differ
  unfold Occurrence.takeIn
  generalize first.given? = given at differ ⊢
  generalize second.given? = otherGiven at differ ⊢
  rcases given with _ | ⟨setting, value⟩
  · rcases otherGiven with _ | ⟨other, otherValue⟩
    · exact absurd rfl differ
    · cases other <;> rfl
  · rcases otherGiven with _ | ⟨other, otherValue⟩
    · cases setting <;> rfl
    · cases setting with
      | schema =>
          cases other with
          | schema => exact absurd rfl differ
          | out => rfl
      | out =>
          cases other with
          | schema => rfl
          | out => exact absurd rfl differ

theorem lastGiven_interchange {first second : Occurrence}
    (differ : first.option ≠ second.option) (front back : List Occurrence) :
    lastGiven (front ++ second :: first :: back) =
      lastGiven (front ++ first :: second :: back) := by
  simp only [lastGiven_eq_foldl, List.foldl_append, List.foldl_cons,
    Occurrence.takeIn_comm differ]

/-- Whether options ask for a check, and have an empty output or none. -/
def LacksOutput (options : Options) : Prop :=
  options.check = true ∧ options.out.getD "" = ""

instance LacksOutput.decidable (options : Options) : Decidable (LacksOutput options) :=
  inferInstanceAs (Decidable (_ ∧ _))

theorem lacksOutput_iff {options : Options} :
    LacksOutput options ↔ (options.check && options.out.all String.isEmpty) = true := by
  cases isOut : options.out <;> simp [LacksOutput, isOut]

theorem parse_of_scan {arguments : List String} {kinds : List (String × Argument)}
    {options : Options} (classifies : classify arguments = .ok kinds)
    (scans : scan {} kinds = .ok (options, [])) :
    parse arguments =
      if LacksOutput options then .error (.usage .outNeeded) else .ok options := by
  split
  · rename_i lacks
    rw [parse, classifies]
    show (scan {} kinds >>= _) = _
    rw [scans]
    simp [lacksOutput_iff.mp lacks, bind, Except.bind, throw, throwThe, MonadExceptOf.throw]
  · rename_i given
    exact parse_eq_ok_iff.mpr ⟨kinds, classifies, scans,
      Bool.eq_false_iff.mpr fun lacks => given (lacksOutput_iff.mpr lacks)⟩

theorem parse_commandLine (occurrences : List Occurrence) :
    parse (commandLine occurrences) =
      if LacksOutput (lastGiven occurrences) then .error (.usage .outNeeded)
      else .ok (lastGiven occurrences) := by
  rw [lastGiven_eq_foldl]
  exact parse_of_scan (classify_commandLine occurrences) (scan_kinds {} occurrences)

/-- A command line of occurrences leads to the last value of each option, or to what an option is
without a value, and to a check where a flag occurs; nothing is printed of the options.  If there is
a check, and the last output is empty or there is none, the command line is refused instead, with a
report on the error channel alone and status two.  Two occurrences next to each other can be
interchanged if they are of different options. -/
theorem last_value_wins (occurrences : List Occurrence) :
    parse (commandLine occurrences) =
        (if LacksOutput (lastGiven occurrences) then
          .error (.usage .outNeeded)
        else .ok (lastGiven occurrences)) ∧
      (∀ loader tree, Command.run loader tree (commandLine occurrences) =
        if LacksOutput (lastGiven occurrences) then
          (⟨"", usage ++ program ++ ": error: --check requires --out\n", .exited 2⟩, tree)
        else Command.runWith loader tree (lastGiven occurrences)) ∧
      ∀ front first second back, occurrences = front ++ first :: second :: back →
        first.option ≠ second.option →
        parse (commandLine (front ++ second :: first :: back)) =
          parse (commandLine occurrences) := by
  refine ⟨parse_commandLine occurrences, ?_, ?_⟩
  · intro loader tree
    rw [Command.run, parse_commandLine]
    by_cases lacks : LacksOutput (lastGiven occurrences)
    · rw [if_pos lacks, if_pos lacks]
      rfl
    · rw [if_neg lacks, if_neg lacks]
  · rintro front first second back rfl differ
    rw [parse_commandLine, parse_commandLine, lastGiven_interchange differ]

/-- A schema and two outputs, of which the last one is empty, by beginnings of the names. -/
def emptyOutput : List Occurrence :=
  [.separate .out ⟨"--o", by decide, by decide⟩ "a.sql" (by decide),
    .attached .schema ⟨"--sch", by decide, by decide⟩ "=-s.yaml" (by decide),
    .attached .out ⟨"--out", by decide, by decide⟩ "" (by decide)]

def checkFlag : Occurrence :=
  .flag ⟨"--c", by decide, by decide⟩

theorem last_value_wins_of_emptyOutput :
    commandLine (emptyOutput ++ [checkFlag]) =
        ["--o", "a.sql", "--sch==-s.yaml", "--out=", "--c"] ∧
      parse (commandLine emptyOutput) = .ok { schema := "=-s.yaml", out := some "" } ∧
      parse (commandLine (emptyOutput ++ [checkFlag])) = .error (.usage .outNeeded) ∧
      parse (commandLine (emptyOutput.take 2 ++ [checkFlag] ++ emptyOutput.drop 2)) =
        .error (.usage .outNeeded) := by
  have refused := (last_value_wins (emptyOutput ++ [checkFlag])).1
  have interchanged := (last_value_wins (emptyOutput ++ [checkFlag])).2.2
    (emptyOutput.take 2) _ _ [] rfl (by decide)
  exact ⟨by decide, (last_value_wins emptyOutput).1, refused, interchanged.trans refused⟩

end Options

end SchemaDdl
