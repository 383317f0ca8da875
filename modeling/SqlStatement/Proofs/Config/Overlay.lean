import SqlStatement.Config.Basic
import SqlStatement.Proofs.Decode.Overlay

/-!
# Settings in JSON

Reading settings lays what is given over the defaults: `ExecutorConfig.overlay` and
`QueryConfig.overlay` have the chosen fields of the settings that were written and the defaults of
the others. A mode in them is its name, alone or with `null` (`JournalMode.decode_eq_ok_iff`,
`ErrorMode.decode_eq_ok_iff`), and `refusal_eq_none_iff_accepts` says which values each field takes.
`reading_overlays_defaults` puts these together.
-/

namespace SqlStatement

/-! ## Modes -/

namespace JournalMode

theorem mem_all (mode : JournalMode) : mode ∈ all := by cases mode <;> decide

def names : List (String × JournalMode) :=
  [ ("DELETE", .delete), ("TRUNCATE", .truncate), ("PERSIST", .persist), ("MEMORY", .memory),
    ("WAL", .wal), ("OFF", .off) ]

theorem mem_names_iff {name : String} {mode : JournalMode} :
    (name, mode) ∈ names ↔ name = mode.keyword := by
  cases mode <;> simp [names, keyword]

theorem decode_eq_ok_iff {json : Json} {mode : JournalMode} :
    decode json = .ok mode ↔ ∃ name, (name, mode) ∈ names ∧ Variant.Named name json := by
  have hread : decode json = .ok mode ↔ Variant.Named mode.keyword json :=
    Variant.read_plain_eq_ok_iff (by decide : (all.map keyword).Nodup) mem_all
  simp only [hread, mem_names_iff, exists_eq_left]

theorem decode_encode (mode : JournalMode) : decode mode.encode = .ok mode :=
  decode_eq_ok_iff.mpr ⟨_, mem_names_iff.mpr rfl, .inl rfl⟩

end JournalMode

namespace ErrorMode

theorem mem_all (mode : ErrorMode) : mode ∈ all := by cases mode <;> decide

def names : List (String × ErrorMode) := [("wrap", .wrap), ("propagate", .propagate)]

theorem mem_names_iff {name : String} {mode : ErrorMode} :
    (name, mode) ∈ names ↔ name = mode.name := by
  cases mode <;> simp [names, ErrorMode.name]

theorem decode_eq_ok_iff {json : Json} {mode : ErrorMode} :
    decode json = .ok mode ↔ ∃ name, (name, mode) ∈ names ∧ Variant.Named name json := by
  have hread : decode json = .ok mode ↔ Variant.Named mode.name json :=
    Variant.read_plain_eq_ok_iff (by decide : (all.map name).Nodup) mem_all
  simp only [hread, mem_names_iff, exists_eq_left]

theorem decode_encode (mode : ErrorMode) : decode mode.encode = .ok mode :=
  decode_eq_ok_iff.mpr ⟨_, mem_names_iff.mpr rfl, .inl rfl⟩

end ErrorMode

/-! ## How to connect -/

namespace ExecutorConfig

/-- The members that the settings are written with. -/
def written (config : ExecutorConfig) : Members Json :=
  [ ("url", .str config.url),
    ("journal_mode", config.journalMode.encode),
    ("max_connections", .ofUInt32 config.maxConnections),
    ("default_table", Json.ofOption .str config.defaultTable) ]

def names : List String := ["url", "journal_mode", "max_connections", "default_table"]

theorem nodup_names : (fields.map Field.name).Nodup := by decide

def defaults : ExecutorConfig where
  url := "sqlite::memory:"
  journalMode := .wal
  maxConnections := 1
  defaultTable := none

/-- The defaults with the chosen fields of these settings. -/
def overlay (config : ExecutorConfig) (chosen : String → Bool) : ExecutorConfig where
  url := if chosen "url" then config.url else defaults.url
  journalMode := if chosen "journal_mode" then config.journalMode else defaults.journalMode
  maxConnections :=
    if chosen "max_connections" then config.maxConnections else defaults.maxConnections
  defaultTable := if chosen "default_table" then config.defaultTable else defaults.defaultTable

theorem overlay_congr (config : ExecutorConfig) (chosen chosen' : String → Bool)
    (h : ∀ name ∈ names, chosen name = chosen' name) :
    config.overlay chosen = config.overlay chosen' := by
  simp only [names, List.mem_cons, List.not_mem_nil, or_false, forall_eq_or_imp, forall_eq] at h
  obtain ⟨hurl, hmode, hmax, htable⟩ := h
  simp only [overlay, hurl, hmode, hmax, htable]

theorem visit_written (config : ExecutorConfig) {m : String × Json} (hm : m ∈ config.written)
    (chosen : String → Bool) :
    Field.visit fields (config.overlay chosen) m =
      .ok (config.overlay fun name => chosen name || m.1 == name) := by
  simp only [written, List.mem_cons, List.not_mem_nil, or_false] at hm
  obtain rfl | rfl | rfl | rfl := hm
  · rw [Field.visit_of nodup_names (.head _) (Decode.string_eq_ok_iff.mpr rfl)]
    simp [overlay]
  · rw [Field.visit_of nodup_names (.tail _ (.head _)) (JournalMode.decode_encode _)]
    simp [overlay]
  · rw [Field.visit_of nodup_names (.tail _ (.tail _ (.head _))) (Decode.decode_ofUInt32 _)]
    simp [overlay]
  · rw [Field.visit_of nodup_names (.tail _ (.tail _ (.tail _ (.head _))))
      (Decode.decode_ofOption_str _)]
    simp [overlay]

theorem overlays : Field.Overlays fields defaults written overlay where
  nodup_names := nodup_names
  keys_written _ := rfl
  overlay_none _ := rfl
  overlay_all _ := rfl
  congr := overlay_congr
  visit_written config _ hm := config.visit_written hm

/-- The value is one that the field of this name takes. Under any other name every value is fine. -/
def Accepts (key : String) (json : Json) : Prop :=
  match key with
  | "url" => ∃ text, json = .str text
  | "journal_mode" => ∃ mode name, (name, mode) ∈ JournalMode.names ∧ Variant.Named name json
  | "max_connections" => ∃ n : Json.Integer, json = .int n ∧ 0 ≤ n.val ∧ n.val < 0x100000000
  | "default_table" => json = .null ∨ ∃ text, json = .str text
  | _ => True

theorem refusal_eq_none_iff_accepts (m : String × Json) :
    Field.refusal fields m = none ↔ Accepts m.1 m.2 := by
  obtain ⟨key, json⟩ := m
  by_cases hkey : key ∈ names
  · simp only [names, List.mem_cons, List.not_mem_nil, or_false] at hkey
    obtain rfl | rfl | rfl | rfl := hkey
    · rw [Field.refusal_of_eq_none_iff nodup_names (.head _)]
      simp only [Decode.string_eq_ok_iff, Accepts]
    · rw [Field.refusal_of_eq_none_iff nodup_names (.tail _ (.head _))]
      simp only [JournalMode.decode_eq_ok_iff, Accepts]
    · rw [Field.refusal_of_eq_none_iff nodup_names (.tail _ (.tail _ (.head _)))]
      exact Decode.exists_uint32_iff
    · rw [Field.refusal_of_eq_none_iff nodup_names (.tail _ (.tail _ (.tail _ (.head _))))]
      exact Decode.exists_optionString_iff
  · refine iff_of_true (Field.refusal_of_unknown hkey) ?_
    change Accepts key json
    unfold Accepts
    split <;> trivial

end ExecutorConfig

/-! ## How a query behaves -/

namespace QueryConfig

def written (config : QueryConfig) : Members Json := [("error_mode", config.errorMode.encode)]

def names : List String := ["error_mode"]

theorem nodup_names : (fields.map Field.name).Nodup := by decide

def defaults : QueryConfig where
  errorMode := .wrap

def overlay (config : QueryConfig) (chosen : String → Bool) : QueryConfig where
  errorMode := if chosen "error_mode" then config.errorMode else defaults.errorMode

theorem overlay_congr (config : QueryConfig) (chosen chosen' : String → Bool)
    (h : ∀ name ∈ names, chosen name = chosen' name) :
    config.overlay chosen = config.overlay chosen' := by
  simp only [overlay, h "error_mode" (.head _)]

theorem visit_written (config : QueryConfig) {m : String × Json} (hm : m ∈ config.written)
    (chosen : String → Bool) :
    Field.visit fields (config.overlay chosen) m =
      .ok (config.overlay fun name => chosen name || m.1 == name) := by
  obtain rfl := List.mem_singleton.mp hm
  rw [Field.visit_of nodup_names (.head _) (ErrorMode.decode_encode _)]
  simp [overlay]

theorem overlays : Field.Overlays fields defaults written overlay where
  nodup_names := nodup_names
  keys_written _ := rfl
  overlay_none _ := rfl
  overlay_all _ := rfl
  congr := overlay_congr
  visit_written config _ hm := config.visit_written hm

def Accepts (key : String) (json : Json) : Prop :=
  match key with
  | "error_mode" => ∃ mode name, (name, mode) ∈ ErrorMode.names ∧ Variant.Named name json
  | _ => True

theorem refusal_eq_none_iff_accepts (m : String × Json) :
    Field.refusal fields m = none ↔ Accepts m.1 m.2 := by
  obtain ⟨key, json⟩ := m
  by_cases hkey : key = "error_mode"
  · subst hkey
    rw [Field.refusal_of_eq_none_iff nodup_names (.head _)]
    simp only [ErrorMode.decode_eq_ok_iff, Accepts]
  · refine iff_of_true (Field.refusal_of_unknown (by simpa [fields, Field.of] using hkey)) ?_
    change Accepts key json
    unfold Accepts
    split <;> trivial

end QueryConfig

/-! ## Reading settings -/

/-- **Reading lays what is given over the defaults**, for both kinds of settings, as `ReadsOver`
says. What was written in full is read back. A mode is read from exactly its name, alone or with
`null`. -/
theorem reading_overlays_defaults :
    (Field.ReadsOver decode ExecutorConfig.names ExecutorConfig.written ExecutorConfig.overlay
        ExecutorConfig.Accepts ∧
      ∀ config : ExecutorConfig, config.encode = .obj config.written ∧
        decode config.encode = .ok config) ∧
    (Field.ReadsOver decode QueryConfig.names QueryConfig.written QueryConfig.overlay
        QueryConfig.Accepts ∧
      ∀ config : QueryConfig, config.encode = .obj config.written ∧
        decode config.encode = .ok config) ∧
    (∀ (json : Json) (mode : JournalMode), decode json = .ok mode ↔
      ∃ name, (name, mode) ∈ JournalMode.names ∧ Variant.Named name json) ∧
    ∀ (json : Json) (mode : ErrorMode), decode json = .ok mode ↔
      ∃ name, (name, mode) ∈ ErrorMode.names ∧ Variant.Named name json := by
  have hconnecting := ExecutorConfig.overlays.readsOver ExecutorConfig.refusal_eq_none_iff_accepts
    "ExecutorConfig"
  have hquerying := QueryConfig.overlays.readsOver QueryConfig.refusal_eq_none_iff_accepts
    "QueryConfig"
  refine ⟨⟨hconnecting, fun config => ⟨rfl, (hconnecting.whole config).1⟩⟩,
    ⟨hquerying, fun config => ⟨rfl, (hquerying.whole config).1⟩⟩,
    fun json mode => JournalMode.decode_eq_ok_iff, fun json mode => ErrorMode.decode_eq_ok_iff⟩

end SqlStatement
