import SchemaDdl.Proofs.Template.Expansion
import SchemaDdl.Proofs.Template.Overlay

/-!
# Merged properties

A definition that names no template keeps its entries.  One that names a template is laid over the
body of it: no entry of the result names a template, no key comes twice, and what stands under a key
is the definition's own value or else that of the body.  The keys of the body come first, as they
are written there, then the further ones of the definition.
-/

namespace SchemaDdl

namespace Template

/-- The entries that come of a definition and the body of its template. -/
structure IsMerged (body definition merged : Mapping) : Prop where
  unnamed : some (.text "template") ∉ merged.keys
  distinct : merged.keys.Nodup
  value : ∀ key : Key, key ≠ .text "template" →
    Mapping.get? merged key = (Mapping.get? definition key).or (Mapping.get? body key)
  order : merged.map Prod.fst =
    ((body.map Prod.fst).filter fun key => key.key? ≠ some (.text "template")) ++
      (definition.map Prod.fst).filter fun key =>
        key.key? ∉ body.keys ∧ key.key? ≠ some (.text "template")

/-- The keys of a template other than the one that names a template, and behind them the keys of a
definition that are neither this one nor in the template. -/
theorem effectiveKeys_eq (body : Mapping) {definition : Mapping}
    (areKeys : none ∉ definition.keys) :
    effectiveKeys body definition =
      ((body.map Prod.fst).filter fun key => key.key? ≠ some (.text "template")) ++
        (definition.map Prod.fst).filter fun key =>
          key.key? ∉ body.keys ∧ key.key? ≠ some (.text "template") := by
  rw [effectiveKeys, List.filter_append, List.filter_filter]
  congr 1
  apply List.filter_congr
  intro key isKey
  obtain ⟨entry, isEntry, rfl⟩ := List.mem_map.mp isKey
  cases own : entry.1.key? with
  | none => exact absurd (own ▸ List.mem_map_of_mem isEntry) areKeys
  | some own =>
      rw [Option.any_some, Bool.eq_iff_iff]
      simp [← Mapping.contains_iff_mem_keys, keyword, and_comm]

theorem isMerged_overlay {body definition : Mapping} (bodyDistinct : body.keys.Nodup)
    (areKeys : none ∉ definition.keys) (distinct : definition.keys.Nodup) :
    IsMerged body definition (overlay body definition) where
  unnamed := by
    intro named
    exact ((Mapping.mem_keys_erase _ _ _).mp named).2 rfl
  distinct := Mapping.nodup_keys_erase (Mapping.nodup_keys_insertAll bodyDistinct areKeys) _
  value := fun key other => (get?_overlay body distinct key).trans (if_neg other)
  order := by
    rw [map_fst_overlay body distinct, effectiveKeys_eq body areKeys]

/-- A definition, a mapping by its keys, stays as it is where it names no template, whatever the
templates are.  Where it names one whose body is a mapping or null, it is merged with the body, and
nothing comes of merging it once more. -/
theorem expand_merges (table : String) (column : Value) {definition : Mapping}
    (areKeys : none ∉ definition.keys) (distinct : definition.keys.Nodup) (templates : Mapping) :
    (some (.text "template") ∉ definition.keys →
      expand table column definition templates = .ok definition) ∧
    ∀ (template body : Value) (key : Key),
      Mapping.get? definition (.text "template") = some template → template.key? = some key →
      Mapping.get? templates key = some body → body.isMappingOrNull = true →
      body.entries.keys.Nodup →
      ∃ merged, expand table column definition templates = .ok merged ∧
        IsMerged body.entries definition merged ∧
        ∀ (otherTable : String) (otherColumn : Value) (others : Mapping),
          expand otherTable otherColumn merged others = .ok merged := by
  constructor
  · intro unnamed
    exact expand_of_property?_eq_none (Mapping.get?_eq_none_iff.mpr unnamed)
  · intro template body key named isKey found isMapping bodyDistinct
    have expanded : expand table column definition templates =
        .ok (overlay body.entries definition) := by
      rw [expand_of_found named isKey found, bodyProperties_eq, if_pos isMapping]
      rfl
    refine ⟨_, expanded, isMerged_overlay bodyDistinct areKeys distinct, ?_⟩
    intro otherTable otherColumn others
    exact expand_of_property?_eq_none (property?_keyword_of_expand expanded)

/-- A definition that names its template by a number and sets the key one, which its template has as
a truth value, to null. -/
def numbered : Mapping :=
  [(.text "note", .text "own"), (.float (.finite false 1 0), .null), (.text "template", .int 2),
    (.text "type", .text "INT")]

/-- The body of a template that itself names one. -/
def numberedBody : Mapping :=
  [(.text "template", .text "absent"), (.text "type", .text "TEXT"), (.bool true, .int 0),
    (.text "default", .int 7)]

theorem expand_merges_numbered :
    none ∉ numbered.keys ∧ numbered.keys.Nodup ∧ numberedBody.keys.Nodup ∧
      ∃ merged,
        expand "items" (.text "size") numbered [(.int 2, .map none numberedBody)] = .ok merged ∧
        IsMerged numberedBody numbered merged ∧
        (∀ (otherTable : String) (otherColumn : Value) (others : Mapping),
          expand otherTable otherColumn merged others = .ok merged) ∧
        merged.map Prod.fst = [.text "type", .bool true, .text "default", .text "note"] := by
  have areKeys : none ∉ numbered.keys := by decide
  have distinct : numbered.keys.Nodup := by decide
  have bodyDistinct : numberedBody.keys.Nodup := by decide
  obtain ⟨merged, expanded, isMerged, again⟩ :=
    (expand_merges "items" (.text "size") areKeys distinct
      [(.int 2, .map none numberedBody)]).2 (.int 2) (.map none numberedBody) _ rfl rfl rfl rfl
      bodyDistinct
  exact ⟨areKeys, distinct, bodyDistinct, merged, expanded, isMerged, again,
    isMerged.order.trans rfl⟩

end Template

end SchemaDdl
