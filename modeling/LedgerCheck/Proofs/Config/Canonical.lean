import LedgerCheck.Proofs.Config.Layers
import LedgerCheck.Proofs.Json.Distinct
import LedgerCheck.Proofs.Yaml.Rearranged

/-!
# Canonical texts

The canonical text of a configuration is the name of its document: all spellings of one document
share it, and no two documents do.  A merged document is a map at every depth, kept in the order of
its keys, so that nothing of the order in which keys were written is left in it.

* `Json.Regular` — objects are in order and numbers are finite.
* `Json.regular_merge`, `LoadedConfig.regular_document` — merged documents are regular.
* **`LoadedConfig.canonicalJson_identifies`** — two configurations have one canonical text exactly if
  their documents hold the same at every place; rearranging the layers changes nothing.
-/

namespace LedgerCheck

/-! ## Regular values -/

namespace Json

/-- **Objects are in order and numbers are finite**, at any depth. -/
def Regular (v : Json) : Prop := v.Ordered ∧ v.FiniteNumbers

lemma regular_null : Json.null.Regular := by
  rw [Regular, Ordered, FiniteNumbers]
  exact ⟨trivial, trivial⟩

lemma regular_object_iff {fields : List (String × Json)} :
    (Json.object fields).Regular ↔
      SortedMap.Sorted fields ∧ ∀ field ∈ fields, field.2.Regular := by
  rw [Regular, Ordered, FiniteNumbers, orderedFields_iff, finiteFields_iff]
  constructor
  · rintro ⟨⟨hsorted, hordered⟩, hfinite⟩
    exact ⟨hsorted, fun field hfield => ⟨hordered field hfield, hfinite field hfield⟩⟩
  · rintro ⟨hsorted, hfields⟩
    exact ⟨⟨hsorted, fun field hfield => (hfields field hfield).1⟩,
      fun field hfield => (hfields field hfield).2⟩

lemma isHereditary_regular : IsHereditary Regular := ⟨regular_null, fun _ => regular_object_iff⟩

/-- The value under a key of a regular value is regular, and so is null in place of it. -/
lemma Regular.field?_getD {v : Json} (h : v.Regular) (name : String) :
    ((v.field? name).getD .null).Regular :=
  isHereditary_regular.field?_getD h name

/-- **A regular value under a regular overlay is regular.** -/
theorem regular_merge {a : Json} (b : Json) (ha : a.Regular) (hb : b.Regular) :
    (merge a b).Regular :=
  isHereditary_regular.merge b ha hb

end Json

/-! ## YAML values -/

namespace Yaml.Value

lemma finiteNumbers_plainJson (p : Plain) : (plainJson p).FiniteNumbers := by
  cases p with
  | float x =>
      rw [plainJson, Json.ofBinary64]
      split_ifs with hfinite
      · rw [Json.FiniteNumbers]
        exact hfinite
      · rw [Json.FiniteNumbers]
        trivial
  | _ => simp [plainJson, Json.ofInt, Json.FiniteNumbers, JsonNumber.IsFinite]

mutual

/-- The JSON value of a YAML value has finite numbers only: `null` stands for the others. -/
lemma finiteNumbers_of_toJson? : ∀ (v : Value) {j : Json}, v.toJson? = some j → j.FiniteNumbers
  | .plain p, j, h => by
      cases h
      exact finiteNumbers_plainJson p
  | .sequence items, j, h => by
      rw [toJson?] at h
      obtain ⟨items', hitems, rfl⟩ := Option.map_eq_some_iff.mp h
      rw [Json.FiniteNumbers]
      exact finiteItems_of_itemsJson? items hitems
  | .mapping fields, j, h => by
      rw [toJson?] at h
      obtain ⟨fields', hfields, rfl⟩ := Option.map_eq_some_iff.mp h
      have hfinite := finiteFields_of_fieldsJson? fields hfields
      rw [Json.FiniteNumbers, Json.finiteFields_iff]
      exact fun field hfield =>
        Json.finiteFields_iff.mp hfinite field (SortedMap.mem_of_mem_ofList hfield)
  | .tagged name v, j, h => by
      rw [toJson?] at h
      obtain ⟨v', hv, rfl⟩ := Option.map_eq_some_iff.mp h
      rw [Json.FiniteNumbers, Json.FiniteFields, Json.FiniteFields]
      exact ⟨finiteNumbers_of_toJson? v hv, trivial⟩

lemma finiteItems_of_itemsJson? : ∀ (items : List Value) {items' : List Json},
    itemsJson? items = some items' → Json.FiniteItems items'
  | [], items', h => by
      cases h
      simp [Json.FiniteItems]
  | v :: rest, items', h => by
      simp only [itemsJson?, Option.bind_eq_bind, Option.bind_eq_some_iff] at h
      obtain ⟨v', hv, rest', hrest, h⟩ := h
      cases h
      exact ⟨finiteNumbers_of_toJson? v hv, finiteItems_of_itemsJson? rest hrest⟩

lemma finiteFields_of_fieldsJson? : ∀ (fields : List (Value × Value))
    {fields' : List (String × Json)}, fieldsJson? fields = some fields' → Json.FiniteFields fields'
  | [], fields', h => by
      cases h
      simp [Json.FiniteFields]
  | (k, v) :: rest, fields', h => by
      simp only [fieldsJson?, Option.bind_eq_bind, Option.bind_eq_some_iff] at h
      obtain ⟨k', -, v', hv, rest', hrest, h⟩ := h
      cases h
      exact ⟨finiteNumbers_of_toJson? v hv, finiteFields_of_fieldsJson? rest hrest⟩

end

lemma regular_of_toJson? {v : Value} {j : Json} (h : v.toJson? = some j) : j.Regular :=
  ⟨ordered_of_toJson? v h, finiteNumbers_of_toJson? v h⟩

end Yaml.Value

/-! ## Configurations -/

/-- Regular layers have a regular merged document. -/
lemma regular_mergeLayers {layers : List Json} (h : ∀ layer ∈ layers, layer.Regular) :
    (mergeLayers layers).Regular := by
  induction layers using List.reverseRecOn with
  | nil =>
      rw [mergeLayers, List.foldl_nil, Json.regular_object_iff]
      exact ⟨List.Pairwise.nil, by simp⟩
  | append_singleton layers overlay ih =>
      rw [mergeLayers_concat]
      exact Json.regular_merge overlay (ih fun layer hlayer => h layer (by simp [hlayer]))
        (h overlay (by simp))

namespace LoadedConfig

/-- The layers of texts are regular. -/
lemma regular_of_mem_layers {texts : List String} {values : List Json}
    (h : layers texts = .ok values) : ∀ layer ∈ values, layer.Regular := by
  intro layer hlayer
  obtain ⟨v, hv⟩ := exists_toJson?_of_mem_layerValues? (layers_eq_ok_iff.mp h) layer hlayer
  exact Yaml.Value.regular_of_toJson? hv

/-- **The merged document of texts is regular.** -/
theorem regular_document {texts : List String} {c : LoadedConfig} (h : ofTexts texts = .ok c) :
    c.document.Regular := by
  cases hlayers : layers texts with
  | error e => simp [ofTexts, hlayers, Except.map] at h
  | ok values =>
      simp only [ofTexts, hlayers, Except.map, Except.ok.injEq] at h
      subst h
      exact regular_mergeLayers (regular_of_mem_layers hlayers)

/-- Rearranged texts are loaded alike, or refused alike. -/
lemma ofTexts_eq_of_rearranged {texts texts' : List String}
    (h : List.Forall₂ Yaml.Rearranged texts texts') : ofTexts texts = ofTexts texts' := by
  suffices hlayers : layers texts = layers texts' by
    rw [ofTexts, ofTexts, hlayers]
  induction h with
  | nil => rfl
  | cons htext _ ih => rw [layers, layers, htext.read_eq, ih]

/-- **The canonical text stands for the document.**  Two configurations share it exactly if their
documents hold the same at every place: any difference in a key, a scalar, the length or the order
of an array, or between null and nothing shows in it.  Rearranging the entries of mappings in the
layers changes neither the text nor its digest, as long as no two entries change places whose keys
have one text. -/
theorem canonicalJson_identifies (texts : List String) (c : LoadedConfig)
    (h : ofTexts texts = .ok c) :
    (∀ texts' c', ofTexts texts' = .ok c' →
      (c.canonicalJson = c'.canonicalJson ↔ c.document.SameAs c'.document)) ∧
    (∀ texts', List.Forall₂ Yaml.Rearranged texts texts' →
      ∃ c', ofTexts texts' = .ok c' ∧
        c'.canonicalJson = c.canonicalJson ∧ c'.configHash = c.configHash) := by
  have hregular := regular_document h
  constructor
  · intro texts' c' h'
    have hregular' := regular_document h'
    constructor
    · intro hcanonical place
      rw [Json.compact_inj hregular.2 hregular'.2 hcanonical]
    · intro hsame
      rw [canonicalJson, canonicalJson, Json.eq_of_sameAs hregular.1 hregular'.1 hsame]
  · intro texts' hrearranged
    exact ⟨c, (ofTexts_eq_of_rearranged hrearranged).symm.trans h, rfl, rfl⟩

/-- A mapping of two entries and the same one reversed. -/
theorem canonicalJson_identifies_reversed :
    List.Forall₂ Yaml.Rearranged ["a: 1\nb: 2\n"] ["b: 2\na: 1\n"] ∧
      ∃ c c', ofTexts ["a: 1\nb: 2\n"] = .ok c ∧ ofTexts ["b: 2\na: 1\n"] = .ok c' ∧
        c'.canonicalJson = c.canonicalJson ∧ c'.configHash = c.configHash ∧
        c.document.SameAs c'.document := by
  have hload : ofTexts ["a: 1\nb: 2\n"]
      = .ok ⟨.object [("a", .number (.int 1)), ("b", .number (.int 2))]⟩ := by
    cbv
  have hread : Yaml.readValue? "a: 1\nb: 2\n" = some (.mapping
      [(.plain (.string "a"), .plain (.int 1)), (.plain (.string "b"), .plain (.int 2))]) := by
    cbv
  have hread' : Yaml.readValue? "b: 2\na: 1\n" = some (.mapping
      [(.plain (.string "b"), .plain (.int 2)), (.plain (.string "a"), .plain (.int 1))]) := by
    cbv
  have hrearranged : List.Forall₂ Yaml.Rearranged ["a: 1\nb: 2\n"] ["b: 2\na: 1\n"] := by
    refine List.Forall₂.cons ?_ List.Forall₂.nil
    rw [Yaml.Rearranged, hread, hread']
    exact Option.Rel.some (Yaml.Value.Rearranged.exchange [] [] (by simp [Yaml.Value.keyText?]))
  obtain ⟨hsame, hsteady⟩ := canonicalJson_identifies _ _ hload
  obtain ⟨c', hload', hcanonical, hhash⟩ := hsteady _ hrearranged
  exact ⟨hrearranged, _, c', hload, hload', hcanonical, hhash,
    (hsame _ c' hload').mp hcanonical.symm⟩

/-- The keys `1` and `"1"` of a mapping are one key of an object, and the later entry counts. -/
theorem canonicalJson_like_keys :
    (∃ entry entry', Yaml.readValue? "\"1\": b\n1: a\n" = some (.mapping [entry, entry']) ∧
      Yaml.readValue? "1: a\n\"1\": b\n" = some (.mapping [entry', entry])) ∧
    ∃ c c', ofTexts ["\"1\": b\n1: a\n"] = .ok c ∧ ofTexts ["1: a\n\"1\": b\n"] = .ok c' ∧
      c.canonicalJson ≠ c'.canonicalJson := by
  have hload : ofTexts ["\"1\": b\n1: a\n"] = .ok ⟨.object [("1", .string "a")]⟩ := by
    cbv
  have hload' : ofTexts ["1: a\n\"1\": b\n"] = .ok ⟨.object [("1", .string "b")]⟩ := by
    cbv
  have htext : canonicalJson ⟨.object [("1", .string "a")]⟩ = "\x7b\"1\":\"a\"\x7d" := by
    cbv
  have htext' : canonicalJson ⟨.object [("1", .string "b")]⟩ = "\x7b\"1\":\"b\"\x7d" := by
    cbv
  refine ⟨⟨(.plain (.string "1"), .plain (.string "b")), (.plain (.int 1), .plain (.string "a")),
    by cbv, by cbv⟩, _, _, hload, hload', ?_⟩
  rw [htext, htext']
  decide

end LoadedConfig
end LedgerCheck
