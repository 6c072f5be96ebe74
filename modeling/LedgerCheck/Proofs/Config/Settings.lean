import LedgerCheck.Config.Load
import LedgerCheck.Proofs.Config.Location

/-!
# What settings are read from

The value of a field is found under its name.  But a record may also be given by the values of its
fields in their order, and then the value of a field is found at its position.  So a setting can be
at more than one place of a document, and it depends on nothing but what is at these places.

* `Record.value?` — the value of a field, under its name or at its position.
* `Record.places` — the places at which a field of nested records can be.
* `CheckConfig.atKeys?_toJson` — every setting is what is at one of its places, or the default.
* **`LoadedConfig.checkConfig_congr`** — documents that hold the same at all these places have the
  same settings.
* `LoadedConfig.checkConfig_listed` — the consumed pointers lead to some of these places only.
-/

namespace LedgerCheck

/-! ## Fields by name or by position -/

namespace Record

/-- The value of a field: what a value holds under the name of the field or at its position. -/
def value? (r : Record) (name : String) (v : Json) : Option Json :=
  (v.field? name).or (v.child? (.index (r.names.idxOf name)))

/-- **The values of a record are those of its fields**, in either form of the record. -/
lemma eq_of_ofJson? {r : Record} (hnames : r.names.Nodup) {v : Json} {values : List (Option Json)}
    (h : r.ofJson? v = some values) : values = r.names.map fun name => r.value? name v := by
  cases v with
  | array items =>
      rw [ofJson?, ofItems?] at h
      split_ifs at h with hlength
      cases h
      refine List.ext_getElem (by simp; omega) fun i hi hi' => ?_
      rw [List.length_map] at hi'
      have hvalue : (Json.array items).child? (.index i) = items[i]? := rfl
      rw [List.getElem_map, value?, hnames.idxOf_getElem i hi', hvalue]
      by_cases hitem : i < items.length
      · rw [List.getElem_append_left (by simpa using hitem), List.getElem_map,
          List.getElem?_eq_getElem hitem]
        rfl
      · rw [List.getElem_append_right (by simpa using hitem), List.getElem_replicate,
          List.getElem?_eq_none (by omega)]
        rfl
  | object fields =>
      rw [ofJson?, ofFields?] at h
      split_ifs at h
      cases h
      exact List.map_congr_left fun name _ => (Option.or_none).symm
  | _ => cases h

/-- The value at the end of a way through the fields of nested records. -/
def valueAt? : List (Record × String) → Json → Option Json
  | [], v => some v
  | (r, name) :: rest, v => (r.value? name v).bind (valueAt? rest)

/-- The places at which the field at the end of such a way can be. -/
def places : List (Record × String) → List Location
  | [] => [[]]
  | (r, name) :: rest =>
    (places rest).map (.key name :: ·) ++ (places rest).map (.index (r.names.idxOf name) :: ·)

/-- Behind a step there is what is in the value one step into a value. -/
lemma findSome?_at?_map (places : List Location) (step : Step) (v : Json) :
    (places.map (step :: ·)).findSome? (Json.at? · v)
      = (v.child? step).bind fun w => places.findSome? (Json.at? · w) := by
  rw [List.findSome?_map]
  cases hchild : v.child? step with
  | none => simp [Function.comp_def, Json.at?, hchild]
  | some w => simp [Function.comp_def, Json.at?, hchild]

/-- **The value of a field is at one of its places.** -/
lemma valueAt?_eq (fields : List (Record × String)) (v : Json) :
    valueAt? fields v = (places fields).findSome? (Json.at? · v) := by
  induction fields generalizing v with
  | nil => rfl
  | cons field rest ih =>
      obtain ⟨r, name⟩ := field
      rw [valueAt?, value?, places, List.findSome?_append, findSome?_at?_map, findSome?_at?_map,
        funext ih]
      -- An object has no positions, and what is no object has no names.
      cases v with
      | object fields => exact (congrArg (Option.bind · _) Option.or_none).trans Option.or_none.symm
      | _ => rfl

end Record

/-! ## Values of settings -/

namespace Json

lemma orDefault_some {α : Type} {read : Json → Option α} {d a : α} {x : Json}
    (h : read x = some a) : orDefault d read (some x) = some a := h

lemma eq_of_bool? (x : Json) (b : Bool) (h : x.bool? = some b) : x = .bool b := by
  cases x <;> simp [bool?] at h
  rw [h]

lemma eq_of_string? (x : Json) (s : String) (h : x.string? = some s) : x = .string s := by
  cases x <;> simp [string?] at h
  rw [h]

lemma eq_of_uint64? (x : Json) (n : UInt64) (h : x.uint64? = some n) : x = ofInt n.toNat := by
  rw [uint64?.eq_def] at h
  split at h
  · split_ifs at h with hrange
    obtain ⟨hlow, hhigh⟩ := hrange
    cases h
    have hbound : Int.pow 2 64 = 2 ^ 64 := rfl
    rw [ofInt, UInt64.toNat_ofNat']
    congr 2
    omega
  · cases h

/-- A setting of one value is the value that is there, or the default. -/
lemma some_eq_of_orDefault {α : Type} {read : Json → Option α} {write : α → Json} {d a : α}
    (hread : ∀ x a, read x = some a → x = write a) {o : Option Json}
    (h : orDefault d read o = some a) : some (write a) = o.or (some (write d)) := by
  cases o with
  | none =>
      cases h
      rfl
  | some x => rw [hread x a h, Option.some_or]

/-- A setting of a section is the one in the section that is there, or the default. -/
lemma atKeys?_of_orDefault {α : Type} {read : Json → Option α} {write : α → Json} {d a : α}
    {name : String} {r : Record} {o : Option Json}
    (hread : ∀ w a, read w = some a →
      (write a).atKeys? [name] = (r.value? name w).or ((write d).atKeys? [name]))
    (h : orDefault d read o = some a) :
    (write a).atKeys? [name] = (o.bind (r.value? name)).or ((write d).atKeys? [name]) := by
  cases o with
  | none =>
      cases h
      rfl
  | some w => exact hread w a h

end Json

/-! ## The records of the settings -/

namespace NetworkIdentifier

lemma atKeys?_toJson (v : Json) (n : NetworkIdentifier) (h : ofJson? v = some n) :
    ∀ name ∈ record.names, n.toJson.atKeys? [name]
      = (record.value? name v).or (({} : NetworkIdentifier).toJson.atKeys? [name]) := by
  simp only [ofJson?, Option.bind_eq_bind, Option.bind_eq_some_iff] at h
  obtain ⟨values, hvalues, h⟩ := h
  obtain rfl := Record.eq_of_ofJson? (by decide) hvalues
  split at h
  · rename_i blockchain network hfields
    simp only [Option.bind_eq_some_iff] at h
    obtain ⟨b, hb, m, hm, h⟩ := h
    cases h
    simp only [record, List.map_cons, List.map_nil, List.cons.injEq] at hfields
    simp only [record, List.forall_mem_cons]
    refine ⟨?_, ?_, List.forall_mem_nil _⟩
    · rw [hfields.1, Json.eq_of_string? _ b hb]
      rfl
    · rw [hfields.2.1, Json.eq_of_string? _ m hm]
      rfl
  · cases h

end NetworkIdentifier

namespace DataConfig

lemma atKeys?_toJson (v : Json) (d : DataConfig) (h : ofJson? v = some d) :
    ∀ name ∈ record.names, d.toJson.atKeys? [name]
      = (record.value? name v).or (({} : DataConfig).toJson.atKeys? [name]) := by
  simp only [ofJson?, Option.bind_eq_bind, Option.bind_eq_some_iff] at h
  obtain ⟨values, hvalues, h⟩ := h
  obtain rfl := Record.eq_of_ofJson? (by decide) hvalues
  split at h
  · rename_i hfields
    simp only [Option.bind_eq_some_iff] at h
    obtain ⟨b, hb, r, hr, i, hi, o, ho, h⟩ := h
    cases h
    simp only [record, List.map_cons, List.map_nil, List.cons.injEq] at hfields
    obtain ⟨rfl, rfl, rfl, rfl, -⟩ := hfields
    simp only [record, List.forall_mem_cons]
    refine ⟨?_, ?_, ?_, ?_, List.forall_mem_nil _⟩
    · exact Json.some_eq_of_orDefault Json.eq_of_bool? hb
    · exact Json.some_eq_of_orDefault Json.eq_of_bool? hr
    · exact Json.some_eq_of_orDefault Json.eq_of_bool? hi
    · exact Json.some_eq_of_orDefault Json.eq_of_string? ho
  · cases h

end DataConfig

namespace CheckConfig

/-- Every setting, as the way to it through the fields of the records. -/
def settings : List (List (Record × String)) :=
  [[(record, "data"), (DataConfig.record, "balance_tracking_disabled")],
    [(record, "data"), (DataConfig.record, "ignore_reconciliation_error")],
    [(record, "data"), (DataConfig.record, "reconciliation_disabled")],
    [(record, "data"), (DataConfig.record, "results_output_file")],
    [(record, "http_timeout_secs")],
    [(record, "network"), (NetworkIdentifier.record, "blockchain")],
    [(record, "network"), (NetworkIdentifier.record, "network")],
    [(record, "online_url")]]

/-- The consumed pointers name the fields of every setting. -/
lemma consumedPaths_eq : consumedPaths = settings.map fun fields => fields.map Prod.snd := rfl

/-- **Every setting is what is at one of its places**, or the default if there is nothing. -/
theorem atKeys?_toJson {v : Json} {cfg : CheckConfig} (h : ofJson? v = some cfg) :
    ∀ fields ∈ settings, cfg.toJson.atKeys? (fields.map Prod.snd)
      = ((Record.places fields).findSome? (Json.at? · v)).or
          (({} : CheckConfig).toJson.atKeys? (fields.map Prod.snd)) := by
  simp only [ofJson?, Option.bind_eq_bind, Option.bind_eq_some_iff] at h
  obtain ⟨values, hvalues, h⟩ := h
  obtain rfl := Record.eq_of_ofJson? (by decide) hvalues
  have hnames : record.names = ["online_url", "network", "http_timeout_secs", "data"] := rfl
  split at h
  · rename_i hfields
    simp only [Option.bind_eq_some_iff] at h
    obtain ⟨u, hu, n, hn, t, ht, d, hd, h⟩ := h
    cases h
    simp only [hnames, List.map_cons, List.map_nil, List.cons.injEq] at hfields
    obtain ⟨rfl, rfl, rfl, rfl, -⟩ := hfields
    have hnetwork (name : String) (hname : name ∈ NetworkIdentifier.record.names) :=
      Json.atKeys?_of_orDefault (fun w n hw => NetworkIdentifier.atKeys?_toJson w n hw name hname) hn
    have hdata (name : String) (hname : name ∈ DataConfig.record.names) :=
      Json.atKeys?_of_orDefault (fun w d hw => DataConfig.atKeys?_toJson w d hw name hname) hd
    simp only [← Record.valueAt?_eq, settings, List.forall_mem_cons, Record.valueAt?,
      Option.bind_fun_some]
    exact ⟨hdata "balance_tracking_disabled" (by decide),
      hdata "ignore_reconciliation_error" (by decide),
      hdata "reconciliation_disabled" (by decide),
      hdata "results_output_file" (by decide),
      Json.some_eq_of_orDefault Json.eq_of_uint64? ht,
      hnetwork "blockchain" (by decide),
      hnetwork "network" (by decide),
      Json.some_eq_of_orDefault Json.eq_of_string? hu,
      List.forall_mem_nil _⟩
  · cases h

/-- The written settings at the consumed pointers. -/
lemma map_atKeys?_toJson (c : CheckConfig) :
    consumedPaths.map (fun path => c.toJson.atKeys? path)
      = [some (.bool c.data.balanceTrackingDisabled), some (.bool c.data.ignoreReconciliationError),
          some (.bool c.data.reconciliationDisabled), some (.string c.data.resultsOutputFile),
          some (.ofInt c.httpTimeoutSecs.toNat), some (.string c.network.blockchain),
          some (.string c.network.network), some (.string c.onlineUrl)] := rfl

/-- Every written setting is a leaf. -/
lemma isLeaf_of_atKeys?_toJson {c : CheckConfig} {path : List String} (hpath : path ∈ consumedPaths)
    {x : Json} (h : c.toJson.atKeys? path = some x) : x.isLeaf = true := by
  have hmem : some x ∈ consumedPaths.map fun path => c.toJson.atKeys? path :=
    h ▸ List.mem_map_of_mem hpath
  rw [map_atKeys?_toJson] at hmem
  simp only [List.mem_cons, List.not_mem_nil, or_false, Option.some.injEq] at hmem
  rcases hmem with rfl | rfl | rfl | rfl | rfl | rfl | rfl | rfl <;> rfl

/-- **Settings are determined by what is written** at the consumed pointers. -/
lemma eq_of_atKeys?_toJson {c c' : CheckConfig}
    (h : ∀ path ∈ consumedPaths, c.toJson.atKeys? path = c'.toJson.atKeys? path) : c = c' := by
  have hall := List.map_congr_left h
  rw [map_atKeys?_toJson, map_atKeys?_toJson] at hall
  obtain ⟨u, ⟨b, n⟩, t, ⟨d, r, i, o⟩⟩ := c
  obtain ⟨u', ⟨b', n'⟩, t', ⟨d', r', i', o'⟩⟩ := c'
  simp only [List.cons.injEq, Option.some.injEq, Json.bool.injEq, Json.string.injEq, Json.ofInt,
    Json.number.injEq, JsonNumber.int.injEq, Int.natCast_inj, UInt64.toNat_inj, and_true] at hall
  obtain ⟨rfl, rfl, rfl, rfl, rfl, rfl, rfl, rfl⟩ := hall
  rfl

end CheckConfig

/-! ## What settings depend on -/

namespace Record

/-- A place of a field leads over the names of fields, unless a position is on the way. -/
lemma eq_ofKeys_or_of_mem_places {fields : List (Record × String)} {place : Location}
    (h : place ∈ places fields) :
    place = Location.ofKeys (fields.map Prod.snd) ∨ place.any Step.isIndex = true := by
  induction fields generalizing place with
  | nil => exact Or.inl (List.mem_singleton.mp h)
  | cons field rest ih =>
      obtain ⟨r, name⟩ := field
      rw [places, List.mem_append, List.mem_map, List.mem_map] at h
      rcases h with ⟨place, hplace, rfl⟩ | ⟨place, -, rfl⟩
      · rcases ih hplace with rfl | hindex
        · exact Or.inl rfl
        · exact Or.inr (by simp [hindex])
      · exact Or.inr rfl

/-- The names of the fields lead to one of the places. -/
lemma ofKeys_mem_places (fields : List (Record × String)) :
    Location.ofKeys (fields.map Prod.snd) ∈ places fields := by
  induction fields with
  | nil => exact List.mem_singleton_self _
  | cons field rest ih => exact List.mem_append_left _ (List.mem_map_of_mem ih)

end Record

namespace CheckConfig

/-- The places at which a setting can be although no consumed pointer leads there: some record on
the way is given by the values of its fields in their order. -/
def listedPlaces : List Location :=
  (settings.flatMap Record.places).filter fun place => place.any Step.isIndex

lemma mem_places {fields : List (Record × String)} (hfields : fields ∈ settings)
    {place : Location} (hplace : place ∈ Record.places fields) :
    Pointer.ofLocation place ∈ consumedPointers ∨ place ∈ listedPlaces := by
  rcases Record.eq_ofKeys_or_of_mem_places hplace with rfl | hindex
  · refine Or.inl (ofLocation_mem_consumedPointers ?_)
    rw [consumedPaths_eq]
    exact List.mem_map_of_mem hfields
  · exact Or.inr (List.mem_filter.mpr ⟨List.mem_flatMap.mpr ⟨fields, hfields, hplace⟩, hindex⟩)

end CheckConfig

namespace LoadedConfig

lemma checkConfig_eq_ok_iff {v : Json} {cfg : CheckConfig} :
    (LoadedConfig.mk v).checkConfig = .ok cfg ↔ CheckConfig.ofJson? v = some cfg := by
  rw [checkConfig]
  cases CheckConfig.ofJson? v <;> simp

/-- **The settings of a document are determined by what it holds at the consumed pointers and at the
listed places.**  So no other part of a document has any influence on them; where no record is given
by the values of its fields in their order, nothing but the consumed pointers counts. -/
theorem checkConfig_congr {v w : Json} {cfg cfg' : CheckConfig}
    (hv : (LoadedConfig.mk v).checkConfig = .ok cfg)
    (hw : (LoadedConfig.mk w).checkConfig = .ok cfg')
    (hconsumed : ∀ place, Pointer.ofLocation place ∈ consumedPointers → v.at? place = w.at? place)
    (hlisted : ∀ place ∈ CheckConfig.listedPlaces, v.at? place = w.at? place) : cfg = cfg' := by
  refine CheckConfig.eq_of_atKeys?_toJson fun path hpath => ?_
  rw [CheckConfig.consumedPaths_eq] at hpath
  obtain ⟨fields, hfields, rfl⟩ := List.mem_map.mp hpath
  have hplaces : ∀ place ∈ Record.places fields, v.at? place = w.at? place := by
    intro place hplace
    rcases CheckConfig.mem_places hfields hplace with hpointer | hmem
    · exact hconsumed place hpointer
    · exact hlisted place hmem
  rw [CheckConfig.atKeys?_toJson (checkConfig_eq_ok_iff.mp hv) fields hfields,
    CheckConfig.atKeys?_toJson (checkConfig_eq_ok_iff.mp hw) fields hfields,
    ← List.head?_filterMap, ← List.head?_filterMap, List.filterMap_congr hplaces]

/-- Documents that hold the same at the consumed keys hold the same at the consumed pointers. -/
lemma at?_eq_of_map_eq {v w : Json}
    (h : consumedPaths.map (Json.atKeys? · v) = consumedPaths.map (Json.atKeys? · w)) :
    ∀ place, Pointer.ofLocation place ∈ consumedPointers → v.at? place = w.at? place := by
  intro place hplace
  obtain ⟨path, hpath, rfl⟩ := exists_path_of_ofLocation_mem hplace
  rw [Json.at?_ofKeys, Json.at?_ofKeys]
  exact List.map_inj_left.mp h path hpath

/-- Two documents with the same flag under a key, next to different unused keys. -/
theorem checkConfig_congr_beside_unused :
    ∃ (v w : Json) (cfg cfg' : CheckConfig),
      (UnusedKeys.of v).pointers = ["/data/retries/0"] ∧
      (UnusedKeys.of w).pointers = ["/network~1network"] ∧
      (LoadedConfig.mk v).checkConfig = .ok cfg ∧ (LoadedConfig.mk w).checkConfig = .ok cfg' ∧
      cfg.data.reconciliationDisabled = true ∧ cfg = cfg' := by
  let flag : String × Json := ("reconciliation_disabled", .bool true)
  let v : Json := .object [("data", .object [flag, ("retries", .array [.ofInt 3])])]
  let w : Json := .object [("data", .object [flag]), ("network/network", .string "Mainnet")]
  refine ⟨v, w, _, _, by decide +kernel, by decide +kernel, rfl, rfl, rfl, ?_⟩
  refine checkConfig_congr (v := v) (w := w) rfl rfl ?_ ?_
  · exact at?_eq_of_map_eq rfl
  · have hlists : CheckConfig.listedPlaces.map (Json.at? · v)
        = CheckConfig.listedPlaces.map (Json.at? · w) := rfl
    exact List.map_inj_left.mp hlists

/-- The data check configured by a list that holds one flag, the first of its settings. -/
def listedFlag (flag : Bool) : Json := .object [("data", .array [.bool flag])]

/-- **The consumed pointers are not all that counts.**  A flag in a list is reported as unused, and
yet it switches balance tracking off. -/
theorem checkConfig_listed :
    ∃ (v w : Json) (cfg cfg' : CheckConfig),
      (ofLayers [v]).document = v ∧ (ofLayers [w]).document = w ∧
      (UnusedKeys.of v).pointers = ["/data/0"] ∧ (UnusedKeys.of w).pointers = ["/data/0"] ∧
      (LoadedConfig.mk v).checkConfig = .ok cfg ∧ (LoadedConfig.mk w).checkConfig = .ok cfg' ∧
      (∀ place, Pointer.ofLocation place ∈ consumedPointers → v.at? place = w.at? place) ∧
      cfg.data.balanceTrackingDisabled = true ∧ cfg'.data.balanceTrackingDisabled = false := by
  exact ⟨listedFlag true, listedFlag false, _, _, rfl, rfl, by decide +kernel, by decide +kernel,
    rfl, rfl, at?_eq_of_map_eq rfl, rfl, rfl⟩

end LoadedConfig
end LedgerCheck
