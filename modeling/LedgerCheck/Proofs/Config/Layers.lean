import LedgerCheck.Config.Load
import LedgerCheck.Proofs.Config.Merge

/-!
# What a layered configuration holds

Any number of layers is described by one of them at each path: the last one that holds something
there, if nothing in the layers after it bars the path or replaces what it holds.

* `LoadedConfig.layerValues?` — the layers that texts stand for.
* `LoadedConfig.layers_eq_ok_iff` — loading texts takes exactly these layers.
* `Prevails` — some layer has a property that no later layer takes away.
* `prevails_mergeLayers` — a property that each overlay sets, keeps or takes away holds of the
  merged document if it prevails in the layers.
* **`LoadedConfig.ofTexts_pointwise`** — what the merged document of texts holds at a path.
-/

namespace LedgerCheck

/-! ## YAML values as JSON values -/

namespace Yaml.Value

mutual

/-- The JSON value of a YAML value is ordered: its objects are built as sorted maps. -/
lemma ordered_of_toJson? : ∀ (v : Value) {j : Json}, v.toJson? = some j → j.Ordered
  | .plain p, j, h => by
      cases h
      cases p with
      | float x =>
          simp only [plainJson, Json.ofBinary64]
          split_ifs <;> simp [Json.Ordered]
      | _ => simp [plainJson, Json.ofInt, Json.Ordered]
  | .sequence items, j, h => by
      rw [toJson?] at h
      obtain ⟨items', hitems, rfl⟩ := Option.map_eq_some_iff.mp h
      rw [Json.Ordered]
      exact ordered_of_itemsJson? items hitems
  | .mapping fields, j, h => by
      rw [toJson?] at h
      obtain ⟨fields', hfields, rfl⟩ := Option.map_eq_some_iff.mp h
      have hordered := Json.orderedFields_iff.mp (ordered_of_fieldsJson? fields hfields)
      rw [Json.Ordered, Json.orderedFields_iff]
      exact ⟨SortedMap.sorted_ofList _,
        fun field hfield => hordered field (SortedMap.mem_of_mem_ofList hfield)⟩
  | .tagged name v, j, h => by
      rw [toJson?] at h
      obtain ⟨v', hv, rfl⟩ := Option.map_eq_some_iff.mp h
      simp [Json.Ordered, Json.OrderedFields, SortedMap.Sorted, ordered_of_toJson? v hv]

lemma ordered_of_itemsJson? : ∀ (items : List Value) {items' : List Json},
    itemsJson? items = some items' → Json.OrderedItems items'
  | [], items', h => by
      cases h
      simp [Json.OrderedItems]
  | v :: rest, items', h => by
      simp only [itemsJson?, Option.bind_eq_bind, Option.bind_eq_some_iff] at h
      obtain ⟨v', hv, rest', hrest, h⟩ := h
      cases h
      exact ⟨ordered_of_toJson? v hv, ordered_of_itemsJson? rest hrest⟩

lemma ordered_of_fieldsJson? : ∀ (fields : List (Value × Value)) {fields' : List (String × Json)},
    fieldsJson? fields = some fields' → Json.OrderedFields fields'
  | [], fields', h => by
      cases h
      simp [Json.OrderedFields]
  | (k, v) :: rest, fields', h => by
      simp only [fieldsJson?, Option.bind_eq_bind, Option.bind_eq_some_iff] at h
      obtain ⟨k', -, v', hv, rest', hrest, h⟩ := h
      cases h
      exact ⟨ordered_of_toJson? v hv, ordered_of_fieldsJson? rest hrest⟩

end

end Yaml.Value

/-! ## The layers of texts -/

namespace LoadedConfig

/-- The layers that texts stand for.  A text whose value is null stands for none, wherever it is
among the texts; each other text stands for the JSON value that its value converts to. -/
def layerValues? (texts : List String) : Option (List Json) := do
  let values ← texts.mapM Yaml.readValue?
  (values.filter fun v => !v.isNull).mapM Yaml.Value.toJson?

lemma layerValues?_cons_of_none {text : String} (h : Yaml.readValue? text = none)
    (rest : List String) : layerValues? (text :: rest) = none := by
  simp [layerValues?, h]

lemma layerValues?_cons_of_isNull {text : String} {v : Yaml.Value}
    (h : Yaml.readValue? text = some v) (hnull : v.isNull = true) (rest : List String) :
    layerValues? (text :: rest) = layerValues? rest := by
  cases hrest : rest.mapM Yaml.readValue? <;> simp [layerValues?, h, hrest, hnull]

lemma layerValues?_cons_of_not_isNull {text : String} {v : Yaml.Value}
    (h : Yaml.readValue? text = some v) (hnull : v.isNull = false) (rest : List String) :
    layerValues? (text :: rest)
      = v.toJson?.bind fun layer => (layerValues? rest).map (layer :: ·) := by
  cases hrest : rest.mapM Yaml.readValue? with
  | none => simp [layerValues?, h, hrest]
  | some values =>
      cases hlayer : v.toJson? <;>
        simp [layerValues?, h, hrest, hnull, hlayer, Option.map_eq_bind]

/-- **Loading texts takes the layers that they stand for**, all of them and no others. -/
lemma layers_eq_ok_iff {texts : List String} {values : List Json} :
    layers texts = .ok values ↔ layerValues? texts = some values := by
  induction texts generalizing values with
  | nil => simp [layers, layerValues?, eq_comm]
  | cons text rest ih =>
      cases hread : Yaml.readValue? text with
      | none => simp [layers, Yaml.read, hread, layerValues?_cons_of_none]
      | some v =>
          cases hnull : v.isNull with
          | true =>
              rw [layerValues?_cons_of_isNull hread hnull, ← ih]
              simp only [layers, Yaml.read, hread, hnull, if_true]
              cases layers rest <;> simp
          | false =>
              rw [layerValues?_cons_of_not_isNull hread hnull]
              simp only [layers, Yaml.read, hread, hnull, Bool.false_eq_true, if_false]
              cases hlayer : v.toJson? with
              | none => simp
              | some layer =>
                  simp only [Option.bind_some, Option.map_eq_some_iff, ← ih]
                  cases layers rest <;> simp

/-- Each layer is the JSON value of a YAML value. -/
lemma exists_toJson?_of_mem_layerValues? {texts : List String} {values : List Json}
    (h : layerValues? texts = some values) :
    ∀ layer ∈ values, ∃ v : Yaml.Value, v.toJson? = some layer := by
  induction texts generalizing values with
  | nil =>
      cases h
      simp
  | cons text rest ih =>
      cases hread : Yaml.readValue? text with
      | none => simp [layerValues?_cons_of_none hread] at h
      | some v =>
          cases hnull : v.isNull with
          | true => exact ih (layerValues?_cons_of_isNull hread hnull rest ▸ h)
          | false =>
              rw [layerValues?_cons_of_not_isNull hread hnull, Option.bind_eq_some_iff] at h
              obtain ⟨layer, hlayer, h⟩ := h
              obtain ⟨others, hothers, rfl⟩ := Option.map_eq_some_iff.mp h
              intro w hw
              rcases List.mem_cons.mp hw with rfl | hw
              · exact ⟨v, hlayer⟩
              · exact ih hothers w hw

/-- The layers that texts stand for are ordered. -/
lemma ordered_of_mem_layerValues? {texts : List String} {values : List Json}
    (h : layerValues? texts = some values) : ∀ v ∈ values, v.Ordered := by
  intro layer hlayer
  obtain ⟨v, hv⟩ := exists_toJson?_of_mem_layerValues? h layer hlayer
  exact Yaml.Value.ordered_of_toJson? v hv

end LoadedConfig

/-! ## Any number of layers -/

/-- **Some layer has a property that no later layer takes away.** -/
def Prevails (P Keeps : Json → Prop) (layers : List Json) : Prop :=
  ∃ earlier layer later,
    layers = earlier ++ layer :: later ∧ P layer ∧ ∀ overlay ∈ later, Keeps overlay

/-- A further layer has the property itself, or it leaves it to the layers before. -/
lemma prevails_concat {P Keeps : Json → Prop} {layers : List Json} {overlay : Json} :
    Prevails P Keeps (layers ++ [overlay]) ↔
      P overlay ∨ (Keeps overlay ∧ Prevails P Keeps layers) := by
  constructor
  · rintro ⟨earlier, layer, later, hsplit, hlayer, hlater⟩
    rcases List.eq_nil_or_concat later with rfl | ⟨later, last, rfl⟩
    · obtain ⟨-, hlast⟩ := List.append_inj' hsplit rfl
      cases hlast
      exact Or.inl hlayer
    · rw [List.concat_eq_append, ← List.cons_append, ← List.append_assoc] at hsplit
      obtain ⟨hlayers, hlast⟩ := List.append_inj' hsplit rfl
      cases hlast
      refine Or.inr ⟨hlater _ (by simp), earlier, layer, later, hlayers, hlayer, ?_⟩
      intro w hw
      exact hlater w (by simp [hw])
  · rintro (hlast | ⟨hkeeps, earlier, layer, later, rfl, hlayer, hlater⟩)
    · exact ⟨layers, overlay, [], rfl, hlast, by simp⟩
    · refine ⟨earlier, layer, later ++ [overlay], by simp, hlayer, ?_⟩
      intro w hw
      rcases List.mem_append.mp hw with hw | hw
      · exact hlater w hw
      · rw [List.mem_singleton.mp hw]
        exact hkeeps

lemma prevails_singleton {P Keeps : Json → Prop} {layer : Json} :
    Prevails P Keeps [layer] ↔ P layer := by
  simpa [Prevails] using @prevails_concat P Keeps [] layer

/-- A further layer is merged into the document of the layers before it. -/
lemma mergeLayers_concat (layers : List Json) (overlay : Json) :
    mergeLayers (layers ++ [overlay]) = Json.merge (mergeLayers layers) overlay := by
  rw [mergeLayers, List.foldl_concat]
  rfl

/-- **What each overlay sets, keeps or takes away prevails.**  The merged document has a property
exactly if it prevails in the layers, of which the empty object is the first. -/
theorem prevails_mergeLayers {P Keeps : Json → Prop}
    (hstep : ∀ a b : Json, b.Ordered → (P (Json.merge a b) ↔ P b ∨ (Keeps b ∧ P a)))
    {layers : List Json} (hlayers : ∀ v ∈ layers, v.Ordered) :
    P (mergeLayers layers) ↔ Prevails P Keeps (.object [] :: layers) := by
  induction layers using List.reverseRecOn with
  | nil => exact prevails_singleton.symm
  | append_singleton layers overlay ih =>
      rw [mergeLayers_concat, hstep _ _ (hlayers overlay (by simp)),
        ih fun v hv => hlayers v (by simp [hv]), ← List.cons_append, prevails_concat]

/-! ## Texts -/

namespace LoadedConfig

/-- **What the merged document of texts holds**, at each path of keys.  The texts load exactly if
each of them has a value and each value that is not null has a JSON value.  An empty object counts
as the first layer.  Then

* a value that is no object comes from the last layer that holds it there: no later layer holds
  anything at the path, or something that is no object above it;
* an object is there if some layer holds one and no later layer holds anything but objects at the
  path and above it;
* a path leads somewhere if it does so in some layer and no later layer holds something that is no
  object above it, so that no key is lost or invented. -/
theorem ofTexts_pointwise (texts : List String) :
    match layerValues? texts with
    | none => ∃ e, ofTexts texts = .error e
    | some layers => ∃ c, ofTexts texts = .ok c ∧ ∀ path : List String,
        (∀ x : Json, x.isObject = false →
          (c.document.atKeys? path = some x ↔
            Prevails (fun layer => layer.atKeys? path = some x)
              (fun later => later.atKeys? path = none ∧
                ∀ above, above <+: path → above ≠ path → ¬ later.HoldsOther above)
              (.object [] :: layers))) ∧
        (c.document.HoldsObject path ↔
          Prevails (fun layer => layer.HoldsObject path)
            (fun later => ∀ above, above <+: path → ¬ later.HoldsOther above)
            (.object [] :: layers)) ∧
        ((c.document.atKeys? path).isSome = true ↔
          Prevails (fun layer => (layer.atKeys? path).isSome = true)
            (fun later => ∀ above, above <+: path → above ≠ path → ¬ later.HoldsOther above)
            (.object [] :: layers)) := by
  cases hvalues : layerValues? texts with
  | none =>
      cases hlayers : layers texts with
      | error e => exact ⟨e, by simp [ofTexts, hlayers, Except.map]⟩
      | ok values =>
          rw [layers_eq_ok_iff, hvalues] at hlayers
          exact absurd hlayers (by simp)
  | some values =>
      have hlayers := layers_eq_ok_iff.mpr hvalues
      have hordered := ordered_of_mem_layerValues? hvalues
      refine ⟨ofLayers values, by simp [ofTexts, hlayers, Except.map], fun path => ⟨?_, ?_, ?_⟩⟩
      · intro x hx
        refine prevails_mergeLayers (P := fun v => v.atKeys? path = some x) ?_ hordered
        intro a b hb
        rw [Json.atKeys?_merge_eq_some_iff a hb path hx, Json.isBarred_eq_false_iff]
      · refine prevails_mergeLayers (P := fun v => v.HoldsObject path) ?_ hordered
        intro a b hb
        rw [Json.holdsObject_merge a hb, Json.isBarred_eq_false_and_not_holdsOther_iff]
      · refine prevails_mergeLayers (P := fun v => (v.atKeys? path).isSome = true) ?_ hordered
        intro a b hb
        rw [Json.isSome_atKeys?_merge a hb, Json.isBarred_eq_false_iff]

end LoadedConfig
end LedgerCheck
