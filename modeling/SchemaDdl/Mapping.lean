import SchemaDdl.Value

/-!
# Mappings

A mapping is a list of entries in the order in which their keys came in.  Setting a key that is
there keeps its place and its first spelling and changes the value; a new key goes to the end.
-/

namespace SchemaDdl

abbrev Mapping := List (Value × Value)

namespace Mapping

/-- The value of the first entry with a key. -/
def get? (entries : Mapping) (key : Key) : Option Value :=
  (entries.find? fun entry => entry.1.key? = some key).map Prod.snd

def contains (entries : Mapping) (key : Key) : Bool :=
  entries.any fun entry => entry.1.key? = some key

/-- The entries after a key was set to a value. -/
def insert (entries : Mapping) (key value : Value) : Mapping :=
  match entries with
  | [] => [(key, value)]
  | entry :: rest =>
      if entry.1.key?.isSome ∧ entry.1.key? = key.key? then
        (entry.1, value) :: rest
      else
        entry :: insert rest key value

/-- The entries after those of a list were set in order. -/
def insertAll (entries additions : Mapping) : Mapping :=
  additions.foldl (fun current entry => insert current entry.1 entry.2) entries

def ofEntries (entries : Mapping) : Mapping :=
  insertAll [] entries

/-- The entries without those of a key. -/
def erase (entries : Mapping) (key : Key) : Mapping :=
  entries.filter fun entry => entry.1.key? ≠ some key

@[simp]
theorem get?_nil (key : Key) : get? [] key = none := rfl

theorem get?_cons (entry : Value × Value) (entries : Mapping) (key : Key) :
    get? (entry :: entries) key =
      if entry.1.key? = some key then some entry.2 else get? entries key := by
  simp only [get?, List.find?_cons]
  split <;> simp_all

theorem contains_eq_isSome_get? (entries : Mapping) (key : Key) :
    contains entries key = (get? entries key).isSome := by
  induction entries with
  | nil => rfl
  | cons entry entries induction =>
      rw [get?_cons]
      simp only [contains, List.any_cons] at induction ⊢
      split <;> simp_all

/-- Setting a key changes its value and no other one. -/
theorem get?_insert (entries : Mapping) (key value : Value) (wanted : Key) :
    get? (insert entries key value) wanted =
      if key.key? = some wanted then some value else get? entries wanted := by
  induction entries with
  | nil => simp [insert, get?_cons]
  | cons entry entries induction =>
      simp only [insert]
      split
      · rename_i same
        simp only [get?_cons, same.2]
        split <;> rfl
      · rename_i different
        simp only [get?_cons, induction]
        split
        · rename_i found
          have : key.key? ≠ some wanted := by
            intro equal
            exact different ⟨by simp [found], by rw [found, equal]⟩
          simp [this]
        · rfl

theorem get?_erase (entries : Mapping) (key wanted : Key) :
    get? (erase entries key) wanted = if wanted = key then none else get? entries wanted := by
  induction entries with
  | nil => simp [erase]
  | cons entry entries induction =>
      simp only [erase] at induction ⊢
      rw [List.filter_cons]
      split <;> rename_i kept
      · simp only [get?_cons, induction]
        split
        · rename_i found
          have : wanted ≠ key := by
            rintro rfl
            simp [found] at kept
          simp [this]
        · rfl
      · simp only [get?_cons, induction]
        have : entry.1.key? = some key := by simpa using kept
        rw [this]
        by_cases same : wanted = key
        · simp [same]
        · simp [same, Ne.symm same]

end Mapping

end SchemaDdl
