import LedgerCheck.Proofs.Config.Canonical

/-!
# Layers that may change places

A later layer overrides an earlier one, so the order of two layers counts where they say different
things about one place.  Where one layer says something and the other says nothing, or both hold an
object, there is nothing to decide, whatever the layers before them hold.

* `Json.Conflicts` — two values differ at some path of keys, and are not both objects there.
* `Json.merge_right_comm` — overlays without a conflict may be put over a document in either order.
* `Json.eq_of_merge_eq` — what becomes of one place in both orders is the same only without a
  conflict there.
* **`LoadedConfig.ofTexts_exchange`** — neighbouring layers without a conflict may change places
  among any other layers, and two layers alone may do so only then.
-/

namespace LedgerCheck
namespace Json

/-! ## Conflicts -/

/-- **At some path of keys that both values have they differ**, and are not both objects there. -/
def Conflicts (a b : Json) : Prop :=
  ∃ path x y, a.atKeys? path = some x ∧ b.atKeys? path = some y ∧ x ≠ y ∧
    ¬ (x.isObject = true ∧ y.isObject = true)

/-- Values without a conflict are the same, unless both are objects. -/
lemma eq_of_not_conflicts {a b : Json} (h : ¬ a.Conflicts b)
    (hobjects : ¬ (a.isObject = true ∧ b.isObject = true)) : a = b := by
  by_contra hne
  exact h ⟨[], a, b, rfl, rfl, hne, hobjects⟩

/-- Objects have no conflict exactly if their values under common keys have none. -/
lemma not_conflicts_object_iff {fields fields' : List (String × Json)} :
    ¬ (Json.object fields).Conflicts (.object fields') ↔
      ∀ name x y, fields.lookup name = some x → fields'.lookup name = some y → ¬ x.Conflicts y := by
  constructor
  · rintro h name x y hx hy ⟨path, u, w, hu, hw, hne, hobjects⟩
    refine h ⟨name :: path, u, w, ?_, ?_, hne, hobjects⟩
    · rw [atKeys?_cons_object, hx]
      exact hu
    · rw [atKeys?_cons_object, hy]
      exact hw
  · rintro h ⟨path, u, w, hu, hw, hne, hobjects⟩
    cases path with
    | nil =>
        cases hu
        cases hw
        exact hobjects ⟨rfl, rfl⟩
    | cons name path =>
        rw [atKeys?_cons_object] at hu hw
        obtain ⟨x, hx, hu⟩ := Option.bind_eq_some_iff.mp hu
        obtain ⟨y, hy, hw⟩ := Option.bind_eq_some_iff.mp hw
        exact h name x y hx hy ⟨path, u, w, hu, hw, hne, hobjects⟩

/-! ## Overlays in either order -/

/-- **Overlays without a conflict may be put over a document in either order.**  Under a key that
one of them lacks, only the other is put over the document; under a key that both have, they have no
conflict either. -/
theorem merge_right_comm {a b c : Json} (ha : a.Regular) (hb : b.Regular) (hc : c.Regular)
    (h : ¬ a.Conflicts b) : merge (merge c a) b = merge (merge c b) a := by
  induction b using induction_on_lookup generalizing a c with
  | other b hother => rw [eq_of_not_conflicts h (by simp [hother])]
  | object fields ih =>
      cases hobject : a.isObject with
      | false => rw [eq_of_not_conflicts h (by simp [hobject])]
      | true =>
          obtain ⟨fields', rfl⟩ := exists_fields hobject
          have hregular := regular_merge (.object fields) (regular_merge _ hc ha) hb
          have hregular' := regular_merge (.object fields') (regular_merge _ hc hb) ha
          refine hregular.1.ext hregular'.1 (isObject_merge _ _) (isObject_merge _ _) fun name => ?_
          have hsorted := (regular_object_iff.mp hb).1
          have hsorted' := (regular_object_iff.mp ha).1
          simp only [field?_merge_object _ hsorted, field?_merge_object _ hsorted']
          cases hy : fields.lookup name with
          | none => cases fields'.lookup name <;> rfl
          | some y =>
              cases hx : fields'.lookup name with
              | none => rfl
              | some x =>
                  have hregx := (regular_object_iff.mp ha).2 _ (SortedMap.mem_of_lookup hx)
                  have hregy := (regular_object_iff.mp hb).2 _ (SortedMap.mem_of_lookup hy)
                  exact congrArg some (ih name y hy hregx hregy (hc.field?_getD name)
                    (not_conflicts_object_iff.mp h name x y hx hy))

/-- Where an overlay holds something, its value is merged into what the document holds there. -/
lemma atKeys?_merge_of_some (a : Json) {b : Json} (hb : b.Ordered) {path : List String} {y : Json}
    (hy : b.atKeys? path = some y) :
    (merge a b).atKeys? path = some (merge ((a.atKeys? path).getD .null) y) := by
  have hbarred : b.isBarred path = false := by
    by_contra hbarred
    rw [atKeys?_of_isBarred (Bool.eq_true_of_not_eq_false hbarred)] at hy
    cases hy
  rw [atKeys?_merge a hb, hbarred, hy]
  rfl

/-- **Two values that are merged last into the same are the same**, unless both are objects. -/
lemma eq_of_merge_eq {u w x y : Json} (h : merge u y = merge w x)
    (hobjects : ¬ (x.isObject = true ∧ y.isObject = true)) : x = y := by
  have hobject : y.isObject = x.isObject := by
    rw [← isObject_merge u y, ← isObject_merge w x, h]
  cases hx : x.isObject with
  | true => exact absurd ⟨hx, hobject.trans hx⟩ hobjects
  | false =>
      rw [merge_of_not_isObject u (hobject.trans hx), merge_of_not_isObject w hx] at h
      exact h.symm

/-- Overlays in conflict give different documents in the two orders, whatever is below them. -/
lemma merge_ne_of_conflicts {a b : Json} (ha : a.Ordered) (hb : b.Ordered) (c : Json)
    (h : a.Conflicts b) : merge (merge c a) b ≠ merge (merge c b) a := by
  obtain ⟨path, x, y, hx, hy, hne, hobjects⟩ := h
  intro heq
  have hplace := congrArg (atKeys? path) heq
  simp only [atKeys?_merge_of_some _ hb hy, atKeys?_merge_of_some _ ha hx] at hplace
  exact hne (eq_of_merge_eq (Option.some.inj hplace) hobjects)

end Json

/-! ## Layers -/

lemma mergeLayers_exchange {first : List Json} (hfirst : ∀ layer ∈ first, layer.Regular)
    (last : List Json) {a b : Json} (ha : a.Regular) (hb : b.Regular) (h : ¬ a.Conflicts b) :
    mergeLayers (first ++ a :: b :: last) = mergeLayers (first ++ b :: a :: last) := by
  have hswap := Json.merge_right_comm ha hb (regular_mergeLayers hfirst) h
  rw [mergeLayers] at hswap
  rw [mergeLayers, mergeLayers, List.foldl_append, List.foldl_append, List.foldl_cons,
    List.foldl_cons, List.foldl_cons, List.foldl_cons, hswap]

namespace LoadedConfig

lemma layers_append (texts texts' : List String) :
    layers (texts ++ texts')
      = (layers texts).bind fun values => (layers texts').map (values ++ ·) := by
  induction texts with
  | nil =>
      rw [List.nil_append, layers]
      cases layers texts' <;> rfl
  | cons text rest ih =>
      rw [List.cons_append, layers, layers, ih]
      cases Yaml.read text with
      | error e => rfl
      | ok layer =>
          cases layers rest with
          | error e => rfl
          | ok values => cases layers texts' <;> simp [Except.bind, Except.map]

/-- Two texts that give one layer each. -/
lemma layers_pair {text text' : String} {a b : Json} (ha : Yaml.read text = .ok (some a))
    (hb : Yaml.read text' = .ok (some b)) : layers [text, text'] = .ok [a, b] := by
  rw [layers, layers, ha, hb]
  rfl

/-- Two texts that give one layer each, among other texts. -/
lemma ofTexts_append_pair {first pair last : List String} {before : List Json} {a b : Json}
    (hfirst : layers first = .ok before) (hpair : layers pair = .ok [a, b]) :
    ofTexts (first ++ (pair ++ last))
      = (layers last).map fun after => ofLayers (before ++ a :: b :: after) := by
  rw [ofTexts, layers_append, layers_append, hfirst, hpair]
  cases layers last <;> rfl

lemma ofTexts_eq_of_not_conflicts (first last : List String) {pair pair' : List String} {a b : Json}
    (hpair : layers pair = .ok [a, b]) (hpair' : layers pair' = .ok [b, a])
    (h : ¬ a.Conflicts b) : ofTexts (first ++ (pair ++ last)) = ofTexts (first ++ (pair' ++ last)) := by
  cases hfirst : layers first with
  | error e => simp only [ofTexts, layers_append, hfirst, Except.bind]
  | ok before =>
      have hregular := regular_of_mem_layers hpair
      have hsame (after : List Json) := mergeLayers_exchange (regular_of_mem_layers hfirst) after
        (hregular a (by simp)) (hregular b (by simp)) h
      rw [ofTexts_append_pair hfirst hpair, ofTexts_append_pair hfirst hpair']
      simp only [ofLayers, hsame]

/-- **Neighbouring layers without a conflict may change places**, whatever the layers before and
after them are: the outcome of loading is the same, the document, its canonical text and its digest.
Where there is nothing but the two layers, they may change places only if there is no conflict.
Values that are written differently differ, as an integer and a float do, or the two zeros. -/
theorem ofTexts_exchange (first last : List String) {text text' : String} {a b : Json}
    (ha : Yaml.read text = .ok (some a)) (hb : Yaml.read text' = .ok (some b)) :
    (¬ a.Conflicts b →
      ofTexts (first ++ text :: text' :: last) = ofTexts (first ++ text' :: text :: last) ∧
      ∀ c, ofTexts (first ++ text :: text' :: last) = .ok c →
        ∃ c', ofTexts (first ++ text' :: text :: last) = .ok c' ∧ c'.document = c.document ∧
          c'.canonicalJson = c.canonicalJson ∧ c'.configHash = c.configHash) ∧
    ∃ c c', ofTexts [text, text'] = .ok c ∧ ofTexts [text', text] = .ok c' ∧
      (c.document = c'.document ↔ ¬ a.Conflicts b) := by
  have hpair := layers_pair ha hb
  have hpair' := layers_pair hb ha
  have hregular := regular_of_mem_layers hpair
  constructor
  · intro h
    have hload := ofTexts_eq_of_not_conflicts first last hpair hpair' h
    exact ⟨hload, fun c hc => ⟨c, hload.symm.trans hc, rfl, rfl, rfl⟩⟩
  · refine ⟨ofLayers [a, b], ofLayers [b, a], by rw [ofTexts, hpair]; rfl,
      by rw [ofTexts, hpair']; rfl, ?_, ?_⟩
    · intro hsame hconflict
      exact Json.merge_ne_of_conflicts (hregular a (by simp)).1 (hregular b (by simp)).1 (.object [])
        hconflict hsame
    · intro h
      have hnone : ∀ layer ∈ ([] : List Json), layer.Regular := by simp
      exact mergeLayers_exchange hnone [] (hregular a (by simp)) (hregular b (by simp)) h

/-- Two layers that add to one section, over a layer that has a number in its place, and two layers
of which one has null where the other has a number. -/
theorem ofTexts_exchange_in_section :
    (∃ c, ofTexts ["data: 5\n", "data:\n  x: 1\n", "data:\n  y: 2\n", ""] = .ok c ∧
      ∃ c', ofTexts ["data: 5\n", "data:\n  y: 2\n", "data:\n  x: 1\n", ""] = .ok c' ∧
        c'.document = c.document ∧ c'.canonicalJson = c.canonicalJson ∧
        c'.configHash = c.configHash) ∧
    ∃ c c', ofTexts ["x: 1\n", "x:\n"] = .ok c ∧ ofTexts ["x:\n", "x: 1\n"] = .ok c' ∧
      c.document ≠ c'.document := by
  let x (v : Json) : Json := .object [("x", v)]
  let y (v : Json) : Json := .object [("y", v)]
  have hx : Yaml.read "data:\n  x: 1\n" = .ok (some (.object [("data", x (.ofInt 1))])) := by cbv
  have hy : Yaml.read "data:\n  y: 2\n" = .ok (some (.object [("data", y (.ofInt 2))])) := by cbv
  have hint : Yaml.read "x: 1\n" = .ok (some (x (.ofInt 1))) := by cbv
  have hnull : Yaml.read "x:\n" = .ok (some (x .null)) := by cbv
  have hload : ofTexts ["data: 5\n", "data:\n  x: 1\n", "data:\n  y: 2\n", ""]
      = .ok ⟨.object [("data", .object [("x", .ofInt 1), ("y", .ofInt 2)])]⟩ := by cbv
  have hagree : ¬ (Json.object [("data", x (.ofInt 1))]).Conflicts
      (.object [("data", y (.ofInt 2))]) := by
    rw [Json.not_conflicts_object_iff]
    intro name u w hu hw
    obtain ⟨rfl, rfl⟩ : name = "data" ∧ u = x (.ofInt 1) := by
      simpa [SortedMap.lookup_cons_ite, eq_comm] using hu
    obtain rfl : w = y (.ofInt 2) := by simpa [eq_comm] using hw
    -- the two sections have no key in common
    rw [Json.not_conflicts_object_iff]
    intro name u w hu hw
    obtain ⟨rfl, -⟩ : name = "x" ∧ u = .ofInt 1 := by
      simpa [SortedMap.lookup_cons_ite, eq_comm] using hu
    cases hw
  have hconflict : (x (.ofInt 1)).Conflicts (x .null) :=
    ⟨["x"], .ofInt 1, .null, rfl, rfl, Json.noConfusion, by simp [Json.isObject]⟩
  obtain ⟨hexchange, -⟩ := ofTexts_exchange ["data: 5\n"] [""] hx hy
  obtain ⟨-, c, c', hc, hc', hsame⟩ := ofTexts_exchange [] [] hint hnull
  exact ⟨⟨_, hload, (hexchange hagree).2 _ hload⟩, c, c', hc, hc', fun h => hsame.mp h hconflict⟩

end LoadedConfig
end LedgerCheck
