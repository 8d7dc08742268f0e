import Mathlib.Data.List.Forall2
import Mathlib.Data.Option.Basic
import SchemaDdl.Template

/-!
# Lookups in mappings

Where no key comes twice, the order of the entries of a mapping does not matter to lookups.  After
entries were set in order, a lookup finds the last one of them with its key, or what it found
before.  Mappings in which lookups find the same values under the same keys stay so when they are
laid over each other.
-/

namespace SchemaDdl

namespace Mapping

variable {entries others : Mapping}

/-- The keys of the entries, in order; what cannot be a key counts as one. -/
def keys (entries : Mapping) : List (Option Key) :=
  entries.map fun entry => entry.1.key?

@[simp]
theorem keys_cons (entry : Value × Value) (entries : Mapping) :
    keys (entry :: entries) = entry.1.key? :: keys entries := rfl

@[simp]
theorem keys_reverse (entries : Mapping) : keys entries.reverse = (keys entries).reverse :=
  List.map_reverse

theorem get?_append (entries others : Mapping) (key : Key) :
    get? (entries ++ others) key = (get? entries key).or (get? others key) := by
  induction entries with
  | nil => rfl
  | cons entry entries induction =>
      rw [List.cons_append, get?_cons, get?_cons, induction]
      split <;> rfl

theorem get?_of_perm (permuted : entries.Perm others) (distinct : entries.keys.Nodup)
    (key : Key) : get? entries key = get? others key := by
  induction permuted with
  | nil => rfl
  | cons entry permuted induction =>
      rw [get?_cons, get?_cons, induction (List.nodup_cons.mp distinct).2]
  | swap first second entries =>
      have different : first.1.key? ≠ second.1.key? := by
        intro same
        simp [same] at distinct
      simp only [get?_cons]
      split
      · rename_i isFirst
        split
        · rename_i isSecond
          exact absurd (isSecond.trans isFirst.symm) different
        · rfl
      · rfl
  | trans permuted further first second =>
      have permutedKeys := permuted.map fun entry => entry.1.key?
      rw [first distinct, second (permutedKeys.nodup_iff.mp distinct)]

/-- After entries were set in order, a lookup finds the last one of them with its key, or what it
found before. -/
theorem get?_insertAll (entries additions : Mapping) (key : Key) :
    get? (insertAll entries additions) key =
      (get? additions.reverse key).or (get? entries key) := by
  induction additions generalizing entries with
  | nil => rfl
  | cons addition additions induction =>
      rw [insertAll, List.foldl_cons, ← insertAll, induction, get?_insert, List.reverse_cons,
        get?_append, get?_cons]
      cases get? additions.reverse key with
      | some value => rfl
      | none => split <;> rfl

theorem mem_keys_insert (entries : Mapping) (key value : Value) (wanted : Option Key) :
    wanted ∈ (insert entries key value).keys ↔ wanted ∈ entries.keys ∨ wanted = key.key? := by
  induction entries with
  | nil => simp [insert, keys]
  | cons entry entries induction =>
      rw [insert]
      split
      · rename_i same
        rw [keys_cons, keys_cons, ← same.2, List.mem_cons]
        tauto
      · rw [keys_cons, keys_cons, List.mem_cons, List.mem_cons, induction]
        tauto

theorem mem_keys_insertAll (entries additions : Mapping) (wanted : Option Key) :
    wanted ∈ (insertAll entries additions).keys ↔
      wanted ∈ entries.keys ∨ wanted ∈ additions.keys := by
  induction additions generalizing entries with
  | nil => simp [insertAll, keys]
  | cons addition additions induction =>
      rw [insertAll, List.foldl_cons, ← insertAll, induction, mem_keys_insert, keys_cons,
        List.mem_cons]
      tauto

theorem mem_keys_erase (entries : Mapping) (key : Key) (wanted : Option Key) :
    wanted ∈ (erase entries key).keys ↔ wanted ∈ entries.keys ∧ wanted ≠ some key := by
  simp only [keys, erase, List.mem_map, List.mem_filter, decide_eq_true_eq]
  constructor
  · rintro ⟨entry, ⟨member, other⟩, rfl⟩
    exact ⟨⟨entry, member, rfl⟩, other⟩
  · rintro ⟨⟨entry, member, rfl⟩, other⟩
    exact ⟨entry, ⟨member, other⟩, rfl⟩

theorem contains_iff_mem_keys {key : Key} :
    contains entries key = true ↔ some key ∈ entries.keys := by
  simp [contains, keys]

theorem get?_eq_none_iff {key : Key} : get? entries key = none ↔ some key ∉ entries.keys := by
  rw [← contains_iff_mem_keys, contains_eq_isSome_get?, Option.not_isSome_iff_eq_none]

/-- Setting a key keeps the keys distinct. -/
theorem nodup_keys_insert (distinct : entries.keys.Nodup) {key : Value} (isKey : key.key? ≠ none)
    (value : Value) : (insert entries key value).keys.Nodup := by
  induction entries with
  | nil => simp [insert, keys]
  | cons entry entries induction =>
      rw [keys_cons, List.nodup_cons] at distinct
      rw [insert]
      split
      · exact List.nodup_cons.mpr distinct
      · rename_i different
        rw [keys_cons, List.nodup_cons, mem_keys_insert, not_or]
        refine ⟨⟨distinct.1, ?_⟩, induction distinct.2⟩
        intro same
        exact different ⟨by rwa [same, Option.isSome_iff_ne_none], same⟩

theorem nodup_keys_insertAll {additions : Mapping} (distinct : entries.keys.Nodup)
    (areKeys : none ∉ additions.keys) : (insertAll entries additions).keys.Nodup := by
  induction additions generalizing entries with
  | nil => exact distinct
  | cons addition additions induction =>
      rw [keys_cons, List.mem_cons, not_or] at areKeys
      exact induction (nodup_keys_insert distinct (Ne.symm areKeys.1) addition.2) areKeys.2

theorem nodup_keys_erase (distinct : entries.keys.Nodup) (key : Key) :
    (erase entries key).keys.Nodup :=
  (List.filter_sublist.map _).nodup distinct

/-- Lookups in two mappings find the same values, and the mappings have the same keys. -/
structure Similar (entries others : Mapping) : Prop where
  get : ∀ key, get? entries key = get? others key
  keys : ∀ key, key ∈ entries.keys ↔ key ∈ others.keys

theorem Similar.refl (entries : Mapping) : Similar entries entries :=
  ⟨fun _ => rfl, fun _ => .rfl⟩

theorem similar_of_perm (permuted : entries.Perm others) (distinct : entries.keys.Nodup) :
    Similar entries others :=
  ⟨get?_of_perm permuted distinct,
    fun _ => (permuted.map fun entry => entry.1.key?).mem_iff⟩

theorem Similar.property? (similar : Similar entries others) (name : String) :
    entries.property? name = others.property? name :=
  similar.get (.text name)

/-- Similar properties laid over similar template bodies are similar; of several properties with one
key the last one counts. -/
theorem Similar.overlay {body otherBody definition otherDefinition : Mapping}
    (bodies : Similar body otherBody)
    (definitions : Similar definition.reverse otherDefinition.reverse) :
    Similar (Template.overlay body definition) (Template.overlay otherBody otherDefinition) := by
  constructor
  · intro key
    rw [Template.overlay, Template.overlay, get?_erase, get?_erase, get?_insertAll,
      get?_insertAll, bodies.get, definitions.get]
  · intro key
    have sameKeys : key ∈ definition.keys ↔ key ∈ otherDefinition.keys := by
      simpa using definitions.keys key
    rw [Template.overlay, Template.overlay, mem_keys_erase, mem_keys_erase, mem_keys_insertAll,
      mem_keys_insertAll, bodies.keys, sameKeys]

/-- Two mappings have the same entries in any order, up to related values: no key comes twice, and
values under one key are related. -/
def Rearranged (related : Option Key → Value → Value → Prop) (entries others : Mapping) : Prop :=
  entries.keys.Nodup ∧ ∃ middle, entries.Perm middle ∧
    List.Forall₂ (fun entry other => entry.1 = other.1 ∧ related entry.1.key? entry.2 other.2)
      middle others

/-- Lookups in rearranged mappings find related values. -/
theorem Rearranged.get? {related : Option Key → Value → Value → Prop}
    (rearranged : Rearranged related entries others) (key : Key) :
    Option.Rel (related (some key)) (get? entries key) (get? others key) := by
  obtain ⟨distinct, middle, permuted, pointwise⟩ := rearranged
  rw [get?_of_perm permuted distinct]
  clear permuted
  induction pointwise with
  | nil => exact .none
  | cons first rest induction =>
      rw [get?_cons, get?_cons, ← first.1]
      split
      · rename_i isKey
        rw [isKey] at first
        exact .some first.2
      · exact induction

/-- A mapping with the same values is a permutation. -/
theorem Rearranged.perm (rearranged : Rearranged (fun _ value other => value = other)
    entries others) : entries.keys.Nodup ∧ entries.Perm others := by
  obtain ⟨distinct, middle, permuted, pointwise⟩ := rearranged
  have same : middle = others := by
    rw [← List.forall₂_eq_eq_eq]
    exact pointwise.imp fun _ _ equal => Prod.ext equal.1 equal.2
  exact ⟨distinct, same ▸ permuted⟩

end Mapping

end SchemaDdl
