-- SUMMARY: A list of plugins crosses whole, in order, or fails as its first plugin whose options are bytes.
import HostBoundary.Plugin
import HostBoundary.Proofs.Payload.TextAndBytes
import HostBoundary.Proofs.Trace.Crossings

/-!
# Lists of plugins

Options of any kind have a wire form, with one exception: bytes are rejected. There is nothing else that can
go wrong, since every structured value has a compact form. So a list of plugins crosses whole if no plugin has
bytes for its options. Otherwise the first such plugin decides how the list fails.
-/

namespace HostBoundary

namespace Payload

variable {payload : Option Payload}

/-- The payloads that are sent as no bytes at all. -/
def IsBlank (payload : Option Payload) : Prop :=
  payload = none ∨ payload = some undefined ∨ payload = some null ∨ payload = some (text "")

/-- The error of a payload that cannot be sent. -/
def rejectedBytes : BoundaryError := .unexpectedKind "text or object" "byte sequence"

/-- Bytes are rejected. Everything else is sent, and only what is blank as no bytes at all. -/
theorem toWire_cases (payload : Option Payload) :
    ((∃ content, payload = some (bytes content)) ∧
        (toWire payload).run.result = .error rejectedBytes) ∨
      (¬ ∃ content, payload = some (bytes content)) ∧
        ∃ wire, (toWire payload).run.result = .ok wire ∧ (wire = none ↔ IsBlank payload) := by
  cases payload with
  | none => exact .inr ⟨by simp, none, rfl, by simp [IsBlank]⟩
  | some payload =>
    cases payload with
    | bytes content => exact .inl ⟨⟨content, rfl⟩, rfl⟩
    | undefined | null => exact .inr ⟨by simp, none, rfl, by simp [IsBlank]⟩
    | bool | number | array | object => exact .inr ⟨by simp, some _, rfl, by simp [IsBlank]⟩
    | text content =>
      by_cases hempty : content = ""
      · subst hempty
        exact .inr ⟨by simp, none, rfl, by simp [IsBlank]⟩
      · refine .inr ⟨by simp, some (utf8 content), ?_, by simp [IsBlank, hempty]⟩
        rw [toWire_text hempty]
        rfl

theorem result_toWire_eq_error_iff {e : BoundaryError} :
    (toWire payload).run.result = .error e ↔
      (∃ content, payload = some (bytes content)) ∧ e = rejectedBytes := by
  obtain ⟨hbytes, hresult⟩ | ⟨hbytes, wire, hresult, -⟩ := toWire_cases payload
  · rw [hresult, and_iff_right hbytes, Except.error.injEq, eq_comm]
  · simp [hresult, hbytes]

theorem eq_none_iff_of_result_toWire {wire : Option Bytes}
    (h : (toWire payload).run.result = .ok wire) : wire = none ↔ IsBlank payload := by
  obtain ⟨-, hresult⟩ | ⟨-, other, hresult, hiff⟩ := toWire_cases payload
  · cases hresult.symm.trans h
  · cases hresult.symm.trans h
    exact hiff

end Payload

namespace Plugin

variable {plugin : Plugin}

/-- The options of a plugin are bytes. -/
def HasBytes (plugin : Plugin) : Prop := ∃ content, plugin.options = some (.bytes content)

/-- The wire form of a plugin has its name and its options as they are sent. -/
def CrossesAs (plugin : Plugin) (wire : WirePlugin) : Prop :=
  wire.name = plugin.name ∧ (Payload.toWire plugin.options).run.result = .ok wire.options ∧
    (wire.options = none ↔ Payload.IsBlank plugin.options)

theorem result_toWire (plugin : Plugin) :
    plugin.toWire.run.result = (Payload.toWire plugin.options).run.result >>= fun options =>
      .ok { name := plugin.name, options } :=
  Crossing.result_bind (Payload.toWire plugin.options) _

theorem result_toWire_eq_ok_iff {wire : WirePlugin} :
    plugin.toWire.run.result = .ok wire ↔ plugin.CrossesAs wire := by
  obtain ⟨name, options⟩ := wire
  rw [result_toWire, CrossesAs]
  cases hresult : (Payload.toWire plugin.options).run.result with
  | error e => simp [bind, Except.bind]
  | ok sent =>
    have hblank := Payload.eq_none_iff_of_result_toWire hresult
    constructor
    · rintro ⟨rfl⟩
      exact ⟨rfl, rfl, hblank⟩
    · rintro ⟨rfl, ⟨rfl⟩, -⟩
      rfl

theorem result_toWire_eq_error_iff {e : BoundaryError} :
    plugin.toWire.run.result = .error e ↔ plugin.HasBytes ∧ e = Payload.rejectedBytes := by
  rw [HasBytes, ← Payload.result_toWire_eq_error_iff, result_toWire]
  cases (Payload.toWire plugin.options).run.result with
  | error cause => simp [bind, Except.bind]
  | ok sent => simp [bind, Except.bind]

theorem exists_result_toWire_iff : (∃ wire, plugin.toWire.run.result = .ok wire) ↔ ¬ plugin.HasBytes := by
  cases hresult : plugin.toWire.run.result with
  | ok wire =>
    have hnot : ¬ plugin.HasBytes := by
      intro hbytes
      rw [result_toWire_eq_error_iff.mpr ⟨hbytes, rfl⟩] at hresult
      cases hresult
    simp [hnot]
  | error e => simp [(result_toWire_eq_error_iff.mp hresult).1]

theorem result_allToWire (plugins : ItemOrList Plugin) :
    (allToWire plugins).run.result = plugins.toList.mapM fun plugin => plugin.toWire.run.result :=
  Crossing.result_mapM toWire plugins.toList

/-- A list fails as its first plugin with bytes for its options does. -/
theorem result_allToWire_eq_error_iff {plugins : ItemOrList Plugin} {e : BoundaryError} :
    (allToWire plugins).run.result = .error e ↔ ∃ before plugin after,
      plugins.toList = before ++ plugin :: after ∧ (∀ passed ∈ before, ¬ passed.HasBytes) ∧
        plugin.HasBytes ∧ e = .unexpectedKind "text or object" "byte sequence" := by
  rw [result_allToWire, Except.mapM_eq_error_iff]
  simp only [exists_result_toWire_iff, result_toWire_eq_error_iff]
  rfl

/-- A list crosses if each of its plugins does. -/
theorem result_allToWire_eq_ok_iff {plugins : ItemOrList Plugin} {wires : List WirePlugin} :
    (allToWire plugins).run.result = .ok wires ↔ List.Forall₂ CrossesAs plugins.toList wires := by
  rw [result_allToWire, Except.mapM_eq_ok_iff]
  simp only [result_toWire_eq_ok_iff]

/-- Of a list that crosses no plugin has bytes for its options. -/
theorem not_hasBytes_of_forall₂ {plugins : List Plugin} {wires : List WirePlugin}
    (h : List.Forall₂ CrossesAs plugins wires) : ∀ plugin ∈ plugins, ¬ plugin.HasBytes := by
  induction h with
  | nil => exact List.forall_mem_nil _
  | cons hfirst _ ih =>
    exact List.forall_mem_cons.mpr ⟨exists_result_toWire_iff.mp ⟨_, result_toWire_eq_ok_iff.mpr hfirst⟩, ih⟩

theorem exists_error_iff {plugins : ItemOrList Plugin} :
    (∃ e, (allToWire plugins).run.result = .error e) ↔ ∃ plugin ∈ plugins.toList, plugin.HasBytes := by
  constructor
  · rintro ⟨e, herror⟩
    obtain ⟨before, plugin, after, hplugins, -, hbytes, -⟩ := result_allToWire_eq_error_iff.mp herror
    refine ⟨plugin, ?_, hbytes⟩
    rw [hplugins]
    exact List.mem_append_right before List.mem_cons_self
  · rintro ⟨plugin, hplugin, hbytes⟩
    cases hresult : (allToWire plugins).run.result with
    | error e => exact ⟨e, rfl⟩
    | ok wires =>
      exact absurd hbytes (not_hasBytes_of_forall₂ (result_allToWire_eq_ok_iff.mp hresult) plugin hplugin)

/-- Two lists in a row cross as both of them do. -/
theorem result_allToWire_append (plugins more : ItemOrList Plugin) :
    (allToWire (.list (plugins.toList ++ more.toList))).run.result =
      match (allToWire plugins).run.result, (allToWire more).run.result with
      | .error e, _ => .error e
      | .ok _, .error e => .error e
      | .ok wires, .ok later => .ok (wires ++ later) := by
  rw [result_allToWire, result_allToWire, result_allToWire, ItemOrList.toList, List.mapM_append]
  cases plugins.toList.mapM fun plugin => plugin.toWire.run.result with
  | error e => rfl
  | ok wires =>
    cases more.toList.mapM fun plugin => plugin.toWire.run.result with
    | error e => rfl
    | ok later => rfl

/-- One plugin alone crosses or fails as it does by itself. -/
theorem result_allToWire_item (plugin : Plugin) :
    (allToWire (.item plugin)).run.result = plugin.toWire.run.result.map ([·]) := by
  rw [result_allToWire, ItemOrList.toList, List.mapM_cons, List.mapM_nil]
  cases plugin.toWire.run.result with
  | error e => rfl
  | ok wire => rfl

/-- A list of plugins, or one plugin, fails exactly if some options are bytes. It then fails as the first
plugin with such options does, whatever comes behind it. Otherwise there is one wire form for each plugin, in
order, with the name of the plugin and the wire bytes of its options, of which there are none exactly for
blank options. That is so for one plugin alone, which fails or crosses as it does by itself, and for the
plugins of a list. Two lists in a row fail as the first of them that fails, and else cross as both of them
do. -/
theorem list_crosses_whole_or_not (plugins : ItemOrList Plugin) :
    ((∃ e, (allToWire plugins).run.result = .error e) ↔ ∃ plugin ∈ plugins.toList, plugin.HasBytes) ∧
      (∀ e, (allToWire plugins).run.result = .error e ↔ ∃ before plugin after,
        plugins.toList = before ++ plugin :: after ∧ (∀ passed ∈ before, ¬ passed.HasBytes) ∧
          plugin.HasBytes ∧ plugin.toWire.run.result = .error e ∧
          e = .unexpectedKind "text or object" "byte sequence") ∧
      (∀ wires, (allToWire plugins).run.result = .ok wires ↔
        List.Forall₂ CrossesAs plugins.toList wires) ∧
      (∀ plugin, plugins = .item plugin →
        (allToWire plugins).run.result = plugin.toWire.run.result.map ([·])) ∧
      (∀ items, plugins = .list items →
        ((∃ e, (allToWire plugins).run.result = .error e) ↔ ∃ plugin ∈ items, plugin.HasBytes) ∧
          ∀ wires, (allToWire plugins).run.result = .ok wires ↔ List.Forall₂ CrossesAs items wires) ∧
      ∀ more : ItemOrList Plugin, (allToWire (.list (plugins.toList ++ more.toList))).run.result =
        match (allToWire plugins).run.result, (allToWire more).run.result with
        | .error e, _ => .error e
        | .ok _, .error e => .error e
        | .ok wires, .ok later => .ok (wires ++ later) := by
  refine ⟨exists_error_iff, fun e => ?_, fun _ => result_allToWire_eq_ok_iff, ?_, ?_,
    result_allToWire_append plugins⟩
  · rw [result_allToWire_eq_error_iff]
    constructor
    · rintro ⟨before, plugin, after, hplugins, hbefore, hbytes, rfl⟩
      exact ⟨before, plugin, after, hplugins, hbefore, hbytes, result_toWire_eq_error_iff.mpr ⟨hbytes, rfl⟩,
        rfl⟩
    · rintro ⟨before, plugin, after, hplugins, hbefore, hbytes, -, rfl⟩
      exact ⟨before, plugin, after, hplugins, hbefore, hbytes, rfl⟩
  · rintro plugin rfl
    exact result_allToWire_item plugin
  · rintro items rfl
    exact ⟨exists_error_iff, fun _ => result_allToWire_eq_ok_iff⟩

/-- Two plugins cross in order, one of them without options. With a third one behind them whose options are
bytes, nothing crosses. -/
theorem two_plugins_cross_and_three_fail :
    let plain : Plugin := { name := "NoEmitOnErrorsPlugin" }
    let banner : Plugin := { name := "BannerPlugin", options := some (.text "\x7b\x7d") }
    let raw : Plugin := { name := "RawPlugin", options := some (.bytes [0x7B, 0x7D]) }
    (allToWire (.list [plain, banner])).run.result =
        .ok [{ name := "NoEmitOnErrorsPlugin" }, { name := "BannerPlugin", options := some [0x7B, 0x7D] }] ∧
      (allToWire (.list [plain, banner, raw])).run.result =
        .error (.unexpectedKind "text or object" "byte sequence") := by
  intro plain banner raw
  have hplain : plain.CrossesAs { name := "NoEmitOnErrorsPlugin" } :=
    result_toWire_eq_ok_iff.mp rfl
  have hbanner : banner.CrossesAs { name := "BannerPlugin", options := some [0x7B, 0x7D] } :=
    result_toWire_eq_ok_iff.mp rfl
  have hraw : raw.HasBytes := ⟨[0x7B, 0x7D], rfl⟩
  have hbefore : ∀ passed ∈ [plain, banner], ¬ passed.HasBytes :=
    not_hasBytes_of_forall₂ (.cons hplain (.cons hbanner .nil))
  exact ⟨((list_crosses_whole_or_not (.list [plain, banner])).2.2.1 _).mpr (.cons hplain (.cons hbanner .nil)),
    ((list_crosses_whole_or_not (.list [plain, banner, raw])).2.1 _).mpr
      ⟨[plain, banner], raw, [], rfl, hbefore, hraw, rfl, rfl⟩⟩

end Plugin

end HostBoundary
