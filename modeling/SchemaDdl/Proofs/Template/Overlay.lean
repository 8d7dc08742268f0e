import SchemaDdl.Proofs.Mapping.Lookup
import SchemaDdl.Proofs.Resolution.Rejection

/-!
# Effective properties

A definition laid over the properties of its template has, under each name but that which names a
template, its own value or else that of the template.  The keys of the template come first, in their
order and as they are written there; the further keys of the definition follow in their own order.
-/

namespace SchemaDdl

namespace Mapping

theorem contains_insert (entries : Mapping) (key value : Value) (wanted : Key) :
    contains (insert entries key value) wanted =
      (decide (key.key? = some wanted) || contains entries wanted) := by
  rw [contains_eq_isSome_get?, contains_eq_isSome_get?, get?_insert]
  split <;> rename_i isWanted <;> simp [isWanted]

/-- Setting a key adds it at the end where it is not there. -/
theorem map_fst_insert (entries : Mapping) (key value : Value) :
    (insert entries key value).map Prod.fst =
      entries.map Prod.fst ++ if key.key?.any entries.contains then [] else [key] := by
  induction entries with
  | nil => cases key.key? <;> simp [insert, contains]
  | cons entry entries induction =>
      rw [insert]
      split
      · rename_i same
        obtain ⟨own, isOwn⟩ := Option.isSome_iff_exists.mp same.1
        have isThere : key.key?.any (contains (entry :: entries)) = true := by
          rw [← same.2, isOwn, Option.any_some, contains, List.any_cons, isOwn]
          simp
        rw [isThere, if_pos rfl, List.append_nil]
        rfl
      · rename_i different
        have sameSearch : key.key?.any (contains (entry :: entries)) =
            key.key?.any (contains entries) := by
          cases isKey : key.key? with
          | none => rfl
          | some own =>
              have notFirst : entry.1.key? ≠ some own := by
                intro isFirst
                exact different ⟨by simp [isFirst], by rw [isFirst, isKey]⟩
              simp [contains, notFirst]
        rw [List.map_cons, induction, sameSearch]
        rfl

/-- The keys after entries were set are those that were there, followed by the new ones. -/
theorem map_fst_insertAll (entries : Mapping) {additions : Mapping}
    (distinct : additions.keys.Nodup) :
    (insertAll entries additions).map Prod.fst =
      entries.map Prod.fst ++
        (additions.map Prod.fst).filter fun key => !key.key?.any entries.contains := by
  induction additions generalizing entries with
  | nil => simp [insertAll]
  | cons addition additions induction =>
      rw [keys_cons, List.nodup_cons] at distinct
      have sameNew : (additions.map Prod.fst).filter
            (fun key => !key.key?.any (insert entries addition.1 addition.2).contains) =
          (additions.map Prod.fst).filter fun key => !key.key?.any entries.contains := by
        apply List.filter_congr
        intro key isAddition
        cases isKey : key.key? with
        | none => rfl
        | some own =>
            have notFirst : addition.1.key? ≠ some own := by
              intro isFirst
              obtain ⟨other, isOther, rfl⟩ := List.mem_map.mp isAddition
              apply distinct.1
              rw [isFirst, ← isKey]
              exact List.mem_map_of_mem isOther
            simp [contains_insert, notFirst]
      rw [insertAll, List.foldl_cons, ← insertAll, induction _ distinct.2, sameNew, map_fst_insert,
        List.map_cons, List.filter_cons, List.append_assoc]
      cases addition.1.key?.any entries.contains <;> rfl

theorem map_fst_erase (entries : Mapping) (key : Key) :
    (erase entries key).map Prod.fst =
      (entries.map Prod.fst).filter fun other => other.key? ≠ some key := by
  rw [erase, List.filter_map]
  rfl

end Mapping

namespace Template

/-- The value of a definition under a name, or else that of its template; what names the template is
none of its properties. -/
def effective? (body definition : Mapping) (name : String) : Option Value :=
  if name = keyword then none
  else (Mapping.property? definition name).or (Mapping.property? body name)

/-- The keys of a template and behind them the further ones of a definition, without those that name
a template. -/
def effectiveKeys (body definition : Mapping) : List Value :=
  (body.map Prod.fst ++
      (definition.map Prod.fst).filter fun key => !key.key?.any body.contains).filter
    fun key => key.key? ≠ some (.text keyword)

/-- Of what a definition laid over a template has under a key, its own value comes first. -/
theorem get?_overlay (body : Mapping) {definition : Mapping} (distinct : definition.keys.Nodup)
    (key : Key) :
    Mapping.get? (overlay body definition) key =
      if key = .text keyword then none
      else (Mapping.get? definition key).or (Mapping.get? body key) := by
  have reversed : Mapping.get? definition.reverse key = Mapping.get? definition key :=
    (Mapping.get?_of_perm (List.reverse_perm definition).symm distinct key).symm
  rw [overlay, Mapping.get?_erase, Mapping.get?_insertAll, reversed]

theorem property?_overlay (body : Mapping) {definition : Mapping}
    (distinct : definition.keys.Nodup) :
    Mapping.property? (overlay body definition) = effective? body definition := by
  funext name
  rw [Mapping.property?, get?_overlay body distinct, effective?]
  simp only [Key.text.injEq]
  rfl

theorem map_fst_overlay (body : Mapping) {definition : Mapping}
    (distinct : definition.keys.Nodup) :
    (overlay body definition).map Prod.fst = effectiveKeys body definition := by
  rw [overlay, Mapping.map_fst_erase, Mapping.map_fst_insertAll body distinct, effectiveKeys]

theorem property?_of_unnamed {definition : Mapping}
    (unnamed : Mapping.property? definition keyword = none) :
    Mapping.property? definition = effective? [] definition := by
  funext name
  rw [effective?]
  split
  · rename_i isKeyword
    rw [isKeyword, unnamed]
  · exact (Option.or_none).symm

theorem map_fst_of_unnamed {definition : Mapping}
    (unnamed : Mapping.property? definition keyword = none) :
    definition.map Prod.fst = effectiveKeys [] definition := by
  have others : ∀ key ∈ definition.map Prod.fst, key.key? ≠ some (.text keyword) := by
    intro key isKey same
    obtain ⟨entry, isEntry, rfl⟩ := List.mem_map.mp isKey
    exact Mapping.get?_eq_none_iff.mp unnamed (same ▸ List.mem_map_of_mem isEntry)
  have allNew : ∀ key : Value, (!key.key?.any (Mapping.contains [])) = true := by
    intro key
    cases key.key? <;> rfl
  rw [effectiveKeys, List.map_nil, List.nil_append, List.filter_eq_self.mpr fun key _ => allNew key,
    List.filter_eq_self.mpr]
  intro key isKey
  simpa using others key isKey

/-- The properties of the template that a definition takes in: those of the template that it names,
or none. -/
inductive TakesIn (definition templates : Mapping) : Mapping → Prop
  | unnamed (unnamed : Mapping.property? definition keyword = none) :
      TakesIn definition templates []
  | named {template body : Value} {key : Key}
      (named : Mapping.property? definition keyword = some template)
      (isKey : template.key? = some key) (found : Mapping.get? templates key = some body)
      (isMapping : body.isMappingOrNull = true) : TakesIn definition templates body.entries

section

variable {table : String} {column template body : Value} {definition templates : Mapping}
  {key : Key}

theorem bodyProperties_eq (template body : Value) :
    bodyProperties template body =
      if body.isMappingOrNull then .ok body.entries
      else .error (CompileError.templateNotMapping template).reported := by
  cases body <;> rfl

theorem expand_of_holdsCollection (named : Mapping.property? definition keyword = some template)
    (holds : template.HoldsCollection) :
    expand table column definition templates =
      .error (.templateNameNotKey table column template) := by
  rw [← Value.key?_eq_none_iff] at holds
  rw [expand, named]
  simp only [find, holds]
  rfl

theorem expand_of_unknown (named : Mapping.property? definition keyword = some template)
    (isKey : template.key? = some key) (absent : Mapping.get? templates key = none) :
    expand table column definition templates =
      .error (CompileError.unknownTemplate table column template).reported := by
  rw [expand, named]
  simp only [find, isKey, absent]
  rfl

/-- A template that is found is taken in as far as it is a mapping. -/
theorem expand_of_found (named : Mapping.property? definition keyword = some template)
    (isKey : template.key? = some key) (found : Mapping.get? templates key = some body) :
    expand table column definition templates =
      bodyProperties template body >>= fun properties => pure (overlay properties definition) := by
  rw [expand, named]
  simp only [find, isKey, found]
  rfl

theorem expand_of_not_mapping (named : Mapping.property? definition keyword = some template)
    (isKey : template.key? = some key) (found : Mapping.get? templates key = some body)
    (neither : body.isMappingOrNull = false) :
    expand table column definition templates =
      .error (CompileError.templateNotMapping template).reported := by
  rw [expand_of_found named isKey found, bodyProperties_eq, neither]
  rfl

end

/-- A definition that takes in a template has its effective properties. -/
theorem exists_expand_of_takesIn {definition templates body : Mapping} (table : String)
    (column : Value) (distinct : definition.keys.Nodup)
    (takesIn : TakesIn definition templates body) :
    ∃ properties, expand table column definition templates = .ok properties ∧
      Mapping.property? properties = effective? body definition ∧
      properties.map Prod.fst = effectiveKeys body definition := by
  cases takesIn with
  | unnamed unnamed =>
      exact ⟨definition, by rw [expand, unnamed], property?_of_unnamed unnamed,
        map_fst_of_unnamed unnamed⟩
  | @named template body key named isKey found isMapping =>
      refine ⟨overlay body.entries definition, ?_, property?_overlay _ distinct,
        map_fst_overlay _ distinct⟩
      rw [expand_of_found named isKey found, bodyProperties_eq, if_pos isMapping]
      rfl

end Template

end SchemaDdl
