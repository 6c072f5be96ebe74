import LedgerCheck.Proofs.Config.Settings
import LedgerCheck.Proofs.Json.Record

/-!
# Strict configurations

Which keys are unused is decided by a list of pointers, and which settings there are by the records
that they are read as.  A record may also be given by the values of its fields in their order, which
no pointer of the list speaks of; so the two agree on documents without unused keys.

* `Json.TakenOver` — a setting is the leaf at its path, or the default where there is nothing.
* `UnusedKeys.takenOver_of_isClean` — every setting of a document without unused keys is taken over.
* `CheckConfig.leafPointers_arranged` — written settings have leaves at consumed pointers only.
* **`UnusedKeys.check_fail_settings`** — what strictness about unused keys ensures.
-/

namespace LedgerCheck

/-! ## Settings that are taken over -/

namespace Json

/-- **The setting at a path is taken over**: it is the leaf that the document has there, or where
the document has nothing, the default. -/
def TakenOver (v settings default : Json) (path : List String) : Prop :=
  (v.atKeys? path = none ∧ settings.atKeys? path = default.atKeys? path) ∨
    ∃ x, v.atKeys? path = some x ∧ x.isLeaf = true ∧ settings.atKeys? path = some x

end Json

/-! ## Documents without unused keys -/

namespace UnusedKeys

/-- No consumed pointer covers a place of a setting but the one that names the setting. -/
lemma eq_ofKeys_of_prefix : ∀ fields ∈ CheckConfig.settings, ∀ place ∈ Record.places fields,
    ∀ path ∈ consumedPaths, Location.ofKeys path <+: place →
      place = Location.ofKeys (fields.map Prod.snd) := by
  decide +kernel

lemma check_fail_eq_ok_iff {v : Json} :
    (∃ report, check .fail v = .ok report) ↔ (of v).isClean = true := by
  rw [check]
  split_ifs with h
  · simp [h.2]
  · simpa using h

/-- The settings of a document without unused keys are taken over. -/
lemma takenOver_of_isClean {v : Json} {cfg : CheckConfig} (hclean : (of v).isClean = true)
    (h : CheckConfig.ofJson? v = some cfg) :
    ∀ path ∈ consumedPaths, v.TakenOver cfg.toJson ({} : CheckConfig).toJson path := by
  intro path hpath
  obtain ⟨fields, hfields, rfl⟩ := List.mem_map.mp (CheckConfig.consumedPaths_eq ▸ hpath)
  have hsetting := CheckConfig.atKeys?_toJson h fields hfields
  cases hfind : (Record.places fields).findSome? (Json.at? · v) with
  | none =>
      have habsent := List.findSome?_eq_none_iff.mp hfind _ (Record.ofKeys_mem_places fields)
      rw [hfind, Option.none_or] at hsetting
      rw [Json.at?_ofKeys] at habsent
      exact Or.inl ⟨habsent, hsetting⟩
  | some x =>
      rw [hfind, Option.some_or] at hsetting
      have hleaf := CheckConfig.isLeaf_of_atKeys?_toJson hpath hsetting
      obtain ⟨place, hplace, hx⟩ := List.exists_of_findSome?_eq_some hfind
      -- The leaf is covered by a consumed pointer, which is that of the setting.
      obtain ⟨path, hconsumed, rest, hrest⟩ := exists_path_of_isClean hclean hx hleaf
      obtain rfl := eq_ofKeys_of_prefix fields hfields place hplace path hconsumed ⟨rest, hrest.symm⟩
      rw [Json.at?_ofKeys] at hx
      exact Or.inr ⟨x, hx, hleaf, hsetting⟩

end UnusedKeys

/-! ## Written settings -/

/-- A leaf of an object with its fields in order is a leaf of one of the fields. -/
lemma Json.exists_field_of_mem_leavesFrom {fields : List (String × Json)} (place : Location)
    {leaf : String}
    (h : leaf ∈ (Json.object fields).arranged.leavesFrom (Pointer.extend "" place)) :
    ∃ field ∈ fields,
      leaf ∈ field.2.arranged.leavesFrom (Pointer.extend "" (place ++ [.key field.1])) := by
  rw [arranged, leavesFrom] at h
  obtain ⟨entry, hentry, hleaf⟩ := exists_field_of_mem_fieldLeaves h
  obtain ⟨field, hfield, rfl⟩ := exists_field_of_mem_ofList hentry
  refine ⟨field, hfield, ?_⟩
  rw [Pointer.extend, List.foldl_append]
  exact hleaf

lemma Json.isLeaf_arranged (v : Json) : v.arranged.isLeaf = v.isLeaf := by
  cases v <;> rw [arranged] <;> rfl

/-- A leaf at the keys of a consumed pointer has that pointer. -/
lemma mem_consumedPointers (path : List String) (hpath : path ∈ consumedPaths) {v : Json}
    (hv : v.isLeaf = true) {leaf : String}
    (h : leaf ∈ v.arranged.leavesFrom (Pointer.extend "" (Location.ofKeys path))) :
    leaf ∈ consumedPointers := by
  rw [← Json.isLeaf_arranged] at hv
  rw [Json.eq_ofLocation_of_mem_leavesFrom hv h]
  exact ofLocation_mem_consumedPointers hpath

namespace CheckConfig

/-- **The written settings have leaves at the consumed pointers only.** -/
lemma leafPointers_arranged (cfg : CheckConfig) :
    ∀ leaf ∈ cfg.toJson.arranged.leafPointers, leaf ∈ consumedPointers := by
  intro leaf h
  obtain ⟨field, hfield, hleaf⟩ := Json.exists_field_of_mem_leavesFrom [] h
  simp only [List.mem_cons, List.not_mem_nil, or_false] at hfield
  rcases hfield with rfl | rfl | rfl | rfl
  · exact mem_consumedPointers ["online_url"] (by decide) rfl hleaf
  · obtain ⟨inner, hinner, hleaf⟩ := Json.exists_field_of_mem_leavesFrom _ hleaf
    simp only [List.mem_cons, List.not_mem_nil, or_false] at hinner
    rcases hinner with rfl | rfl
    · exact mem_consumedPointers ["network", "blockchain"] (by decide) rfl hleaf
    · exact mem_consumedPointers ["network", "network"] (by decide) rfl hleaf
  · exact mem_consumedPointers ["http_timeout_secs"] (by decide) rfl hleaf
  · obtain ⟨inner, hinner, hleaf⟩ := Json.exists_field_of_mem_leavesFrom _ hleaf
    simp only [List.mem_cons, List.not_mem_nil, or_false] at hinner
    rcases hinner with rfl | rfl | rfl | rfl
    · exact mem_consumedPointers ["data", "balance_tracking_disabled"] (by decide) rfl hleaf
    · exact mem_consumedPointers ["data", "reconciliation_disabled"] (by decide) rfl hleaf
    · exact mem_consumedPointers ["data", "ignore_reconciliation_error"] (by decide) rfl hleaf
    · exact mem_consumedPointers ["data", "results_output_file"] (by decide) rfl hleaf

end CheckConfig

/-- A consumed pointer covers itself, so written settings have no unused keys. -/
lemma UnusedKeys.isClean_arranged (cfg : CheckConfig) :
    (of cfg.toJson.arranged).isClean = true := by
  refine isClean_iff.mpr fun leaf hleaf => ?_
  exact ⟨leaf, cfg.leafPointers_arranged leaf hleaf, Pointer.covers_self leaf⟩

lemma NetworkIdentifier.ofJson?_arranged (n : NetworkIdentifier) :
    ofJson? n.toJson.arranged = some n := by
  rw [ofJson?, Record.ofJson?_arranged record n.toJson rfl rfl (by decide : record.names.Nodup)]
  rfl

lemma DataConfig.ofJson?_arranged (d : DataConfig) : ofJson? d.toJson.arranged = some d := by
  rw [ofJson?, Record.ofJson?_arranged record d.toJson rfl rfl (by decide : record.names.Nodup)]
  rfl

lemma Json.uint64?_arranged (n : UInt64) : (ofInt n.toNat).arranged.uint64? = some n := by
  have hrange := integerRange_toNat n
  rw [ofInt, arranged, uint64?, if_pos ⟨Int.natCast_nonneg _, hrange.2⟩, Int.toNat_natCast,
    UInt64.ofNat_toNat]

namespace CheckConfig

/-- The settings, given the values of their fields. -/
lemma ofJson?_of_fields {v : Json} {cfg : CheckConfig} {u n t d : Option Json}
    (h : record.ofJson? v = some [u, n, t, d])
    (hu : Json.orDefault ({} : CheckConfig).onlineUrl Json.string? u = some cfg.onlineUrl)
    (hn : Json.orDefault ({} : CheckConfig).network NetworkIdentifier.ofJson? n = some cfg.network)
    (ht : Json.orDefault ({} : CheckConfig).httpTimeoutSecs Json.uint64? t
      = some cfg.httpTimeoutSecs)
    (hd : Json.orDefault ({} : CheckConfig).data DataConfig.ofJson? d = some cfg.data) :
    ofJson? v = some cfg := by
  rw [ofJson?, h, Option.bind_eq_bind, Option.bind_some]
  simp only [hu, hn, ht, hd]
  rfl

/-- **Settings are read from what they are written as.** -/
lemma ofJson?_arranged (cfg : CheckConfig) : ofJson? cfg.toJson.arranged = some cfg := by
  have hfields : record.ofJson? cfg.toJson.arranged
      = some [some (Json.string cfg.onlineUrl), some cfg.network.toJson.arranged,
          some (Json.ofInt cfg.httpTimeoutSecs.toNat).arranged, some cfg.data.toJson.arranged] := by
    rw [Record.ofJson?_arranged record cfg.toJson rfl rfl (by decide : record.names.Nodup)]
    rfl
  exact ofJson?_of_fields hfields (Json.orDefault_some rfl)
    (Json.orDefault_some cfg.network.ofJson?_arranged)
    (Json.orDefault_some (Json.uint64?_arranged cfg.httpTimeoutSecs))
    (Json.orDefault_some cfg.data.ofJson?_arranged)

lemma plainWithin_toJson (depth : Nat) (cfg : CheckConfig) :
    cfg.toJson.PlainWithin (depth + 2) := by
  have hnetwork : cfg.network.toJson.PlainWithin (depth + 1) := by
    refine Json.plainWithin_object ?_
    simp only [List.forall_mem_cons, Json.plainWithin_string, true_and]
    exact List.forall_mem_nil _
  have hdata : cfg.data.toJson.PlainWithin (depth + 1) := by
    refine Json.plainWithin_object ?_
    simp only [List.forall_mem_cons, Json.plainWithin_string, Json.plainWithin_bool, true_and]
    exact List.forall_mem_nil _
  refine Json.plainWithin_object ?_
  simp only [List.forall_mem_cons, Json.plainWithin_string, hnetwork, hdata,
    Json.plainWithin_ofInt _ (Json.integerRange_toNat cfg.httpTimeoutSecs), true_and]
  exact List.forall_mem_nil _

end CheckConfig

/-- **Strictness leaves nothing ignored.**  If a document passes the strict check and has settings,
each of its leaves stands at a consumed pointer and is the setting there, and at every consumed
pointer without a leaf the setting is the default.  Conversely all settings, written as a document,
pass the strict check and are read from it again. -/
theorem UnusedKeys.check_fail_settings :
    (∀ (v : Json) (report : UnusedKeys) (cfg : CheckConfig),
      check .fail v = .ok report → (LoadedConfig.mk v).checkConfig = .ok cfg →
      (∀ (place : Location) (x : Json), v.at? place = some x → x.isLeaf = true →
        Pointer.ofLocation place ∈ consumedPointers ∧ cfg.toJson.at? place = some x) ∧
      ∀ place : Location, Pointer.ofLocation place ∈ consumedPointers →
        (∀ x, v.at? place = some x → x.isLeaf = false) →
        cfg.toJson.at? place = ({} : CheckConfig).toJson.at? place) ∧
    ∀ cfg : CheckConfig, ∃ v, Json.read? cfg.toJson.compact = some v ∧
      (∃ report, check .fail v = .ok report) ∧ (LoadedConfig.mk v).checkConfig = .ok cfg := by
  refine ⟨?_, ?_⟩
  · intro v report cfg hcheck hsettings
    have hclean := check_fail_eq_ok_iff.mp ⟨report, hcheck⟩
    have htaken := takenOver_of_isClean hclean (LoadedConfig.checkConfig_eq_ok_iff.mp hsettings)
    refine ⟨?_, ?_⟩
    · intro place x hplace hleaf
      obtain ⟨path, hpath, rest, rfl⟩ := exists_path_of_isClean hclean hplace hleaf
      rw [Json.at?_append, Json.at?_ofKeys] at hplace
      rcases htaken path hpath with ⟨habsent, -⟩ | ⟨y, hy, hyleaf, hsetting⟩
      · rw [habsent] at hplace
        cases hplace
      -- The setting is a leaf, so that nothing stands below it.
      · rw [hy, Option.bind_some] at hplace
        obtain ⟨rfl, rfl⟩ := Json.at?_of_isLeaf hyleaf hplace
        rw [List.append_nil, Json.at?_ofKeys]
        exact ⟨ofLocation_mem_consumedPointers hpath, hsetting⟩
    · intro place hplace hnone
      obtain ⟨path, hpath, rfl⟩ := exists_path_of_ofLocation_mem hplace
      simp only [Json.at?_ofKeys] at hnone ⊢
      rcases htaken path hpath with ⟨-, hdefault⟩ | ⟨y, hy, hyleaf, -⟩
      · exact hdefault
      · rw [hnone y hy] at hyleaf
        cases hyleaf
  · intro cfg
    have hplain : cfg.toJson.PlainWithin Document.depthLimit := cfg.plainWithin_toJson 125
    exact ⟨_, Json.read?_compact hplain, check_fail_eq_ok_iff.mpr (isClean_arranged cfg),
      LoadedConfig.checkConfig_eq_ok_iff.mpr cfg.ofJson?_arranged⟩

end LedgerCheck
