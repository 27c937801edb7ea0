import GameBoy.Proofs.Toml.Omission
import GameBoy.Settings.Document

/-!
# Settings are read back, and missing keys have defaults

Settings are written with all their keys but a missing frame limit, and reading the text gives the
same settings. If lines are taken out of the text, then the fields of their keys have their default
values and all others are as before, whichever keys are gone: a text is a list of changes to the
default settings, and each change sets its own field only.
-/

namespace GameBoy

open Toml (Entries Scalar Value)

/-! ## Changes in a row -/

section Changes

variable {σ : Type} {change : σ → String → Value → Except SettingsError σ}
  {keep : String × Scalar → Bool} {key : String} {v : Scalar} {es : Entries} {s t : σ}

/-- The change of a first entry, if the entry is kept, and the changes of the others. -/
lemma foldlM_filter_cons (first : change s key v.value = .ok t) :
    (Entries.table (((key, v) :: es).filter keep)).foldlM (fun s (key, v) => change s key v) s =
      (Entries.table (es.filter keep)).foldlM (fun s (key, v) => change s key v)
        (if keep (key, v) then t else s) := by
  rw [List.filter_cons]
  by_cases kept : keep (key, v)
  · rw [if_pos kept, if_pos kept, Entries.table_cons, List.foldlM_cons]
    simp only [first]
    rfl
  · rw [if_neg kept, if_neg kept]

end Changes

/-! ## The driving of the console -/

namespace ConsoleConfig

variable (c : ConsoleConfig) (gone : String → Bool)

/-- Settings with the default values of some keys. -/
def reset : ConsoleConfig where
  frameCycles :=
    if gone "frame_cycles" then ({} : ConsoleConfig).frameCycles else c.frameCycles
  serviceInterrupts :=
    if gone "service_interrupts" then ({} : ConsoleConfig).serviceInterrupts
    else c.serviceInterrupts

/-- A number of clock cycles is taken. -/
lemma change_frameCycles (d : ConsoleConfig) (n : UInt32) :
    d.change "frame_cycles" (Scalar.number n.toNat).value = .ok { d with frameCycles := n } := by
  rw [change, if_pos rfl, Scalar.toUInt32?_value]
  rfl

/-- Whether interrupts are dispatched is taken. -/
lemma change_serviceInterrupts (d : ConsoleConfig) (b : Bool) :
    d.change "service_interrupts" (Scalar.boolean b).value =
      .ok { d with serviceInterrupts := b } := rfl

lemma legible_entries : c.entries.Legible := by
  have bare : (∀ key ∈ keys, Toml.IsBareKey key) ∧ keys.Nodup := by decide
  refine .of_keys rfl bare.1 bare.2 ?_
  refine List.forall_mem_cons.2 ⟨?_, List.forall_mem_singleton.2 trivial⟩
  exact Nat.le_trans (Nat.le_of_lt c.frameCycles.toNat_lt) (by decide)

/-- Without some entries, their fields have default values. -/
lemma ofTable_filter :
    ofTable (Entries.table (c.entries.filter fun e => !gone e.1)) = .ok (c.reset gone) := by
  rw [ofTable, entries, foldlM_filter_cons (change_frameCycles _ _),
    foldlM_filter_cons (change_serviceInterrupts _ _), reset]
  cases gone "frame_cycles" <;> cases gone "service_interrupts" <;> rfl

end ConsoleConfig

/-! ## All settings -/

namespace Settings

variable (s : Settings) (gone : List String → Bool)

/-- Settings with the default values of some keys. -/
def reset : Settings where
  frameLimit := if gone ["frame_limit"] then ({} : Settings).frameLimit else s.frameLimit
  realtime := if gone ["realtime"] then ({} : Settings).realtime else s.realtime
  sink := if gone ["serial_sink"] then ({} : Settings).sink else s.sink
  stopOnResult := if gone ["stop_on_result"] then ({} : Settings).stopOnResult else s.stopOnResult
  console :=
    if gone ["emulation"] then ({} : Settings).console
    else s.console.reset fun key => gone ["emulation", key]

/-- The name of a sink names it: the writer and the reader of the name agree. -/
lemma sinkOf_name (k : Sink) : sinkOf (Scalar.string k.name).value = .ok k := by
  cases k <;> decide +kernel

lemma change_frameLimit (n : UInt64) :
    s.change "frame_limit" (Scalar.number n.toNat).value = .ok { s with frameLimit := some n } := by
  rw [change, if_pos rfl, Scalar.toUInt64?_value]
  rfl

lemma change_realtime (b : Bool) :
    s.change "realtime" (Scalar.boolean b).value = .ok { s with realtime := b } := rfl

lemma change_sink (k : Sink) :
    s.change "serial_sink" (Scalar.string k.name).value = .ok { s with sink := k } := by
  rw [change, if_neg (by decide), if_neg (by decide), if_pos rfl, sinkOf_name]
  rfl

lemma change_stopOnResult (b : Bool) :
    s.change "stop_on_result" (Scalar.boolean b).value = .ok { s with stopOnResult := b } := rfl

lemma change_console {t : Toml.Table} {c : ConsoleConfig} (h : ConsoleConfig.ofTable t = .ok c) :
    s.change "emulation" (.table t) = .ok { s with console := c } := by
  have found : consoleOf (.table t) = .ok c := h
  rw [change, if_neg (by decide), if_neg (by decide), if_neg (by decide), if_neg (by decide),
    if_pos rfl, found]
  rfl

/-! ## The document -/

/-- The keys of settings, with or without the one of the frame limit. -/
def keys (limited : Bool) : List String :=
  (if limited then ["frame_limit"] else []) ++
    ["realtime", "serial_sink", "stop_on_result", "emulation"]

/-- The keys need no quotes, and none is given twice. -/
lemma bare_keys : ∀ limited,
    (∀ key ∈ keys limited, Toml.IsBareKey key) ∧ (keys limited).Nodup := by
  decide

lemma map_fst_document :
    s.document.entries.map Prod.fst ++ s.document.sections.map Prod.fst =
      keys s.frameLimit.isSome := by
  rw [document, limitEntries]
  cases s.frameLimit <;> rfl

variable {s}

/-- The document of settings is legible if the frame limit has 63 bits. -/
lemma legible_document (limit : ∀ n, s.frameLimit = some n → n.toNat ≤ 0x7FFFFFFFFFFFFFFF) :
    s.document.Legible := by
  obtain ⟨bare, nodup⟩ := bare_keys s.frameLimit.isSome
  have limits : ∀ e ∈ s.limitEntries, e.2.Legible := by
    rw [limitEntries]
    rcases e : s.frameLimit with _ | n
    · exact List.forall_mem_nil _
    · exact List.forall_mem_singleton.2 (limit n e)
  have sinks : (Scalar.string s.sink.name).Legible := by
    cases s.sink <;> exact Scalar.legible_string (by decide)
  have scalars : ∀ e ∈ s.document.entries, e.2.Legible := by
    rw [document, List.forall_mem_append]
    simp only [List.forall_mem_cons]
    exact ⟨limits, trivial, sinks, trivial, List.forall_mem_nil _⟩
  exact .of_keys s.map_fst_document bare nodup scalars
    (List.forall_mem_singleton.2 s.console.legible_entries)

variable (s)

/-- Changes in two rows. -/
lemma ofTable_append {t u : Toml.Table} {s : Settings} (h : ofTable t = .ok s) :
    ofTable (t ++ u) = u.foldlM (fun s (key, v) => s.change key v) s := by
  rw [ofTable, List.foldlM_append, ← ofTable, h]
  rfl

/-- The frame limit has its default value if its entry is gone or was never there. -/
lemma ofTable_limit :
    ofTable (Entries.table (s.limitEntries.filter fun e => !gone [e.1])) =
      .ok { ({} : Settings) with frameLimit := (s.reset gone).frameLimit } := by
  obtain ⟨limit, realtime, sink, stopOnResult, console⟩ := s
  cases limit with
  | none =>
    have unlimited : (if gone ["frame_limit"] then ({} : Settings).frameLimit else none) = none :=
      ite_self _
    rw [reset, unlimited]
    rfl
  | some n =>
    rw [limitEntries, ofTable, foldlM_filter_cons (change_frameLimit _ n), reset]
    cases gone ["frame_limit"] <;> rfl

/-- Without some entries, their fields have default values, and so has the section. -/
lemma ofTable_entries :
    ofTable (Entries.table (s.document.entries.filter fun e => !gone [e.1])) =
      .ok { s.reset gone with console := ({} : Settings).console } := by
  rw [document, List.filter_append, Entries.table_append, ofTable_append (s.ofTable_limit gone),
    foldlM_filter_cons (change_realtime _ s.realtime), foldlM_filter_cons (change_sink _ s.sink),
    foldlM_filter_cons (change_stopOnResult _ s.stopOnResult)]
  simp only [reset]
  cases gone ["realtime"] <;> cases gone ["serial_sink"] <;> cases gone ["stop_on_result"] <;> rfl

/-- Without some keys, their fields have default values. -/
lemma ofTable_without : ofTable (s.document.without gone).table = .ok (s.reset gone) := by
  have console := change_console { s.reset gone with console := ({} : Settings).console }
    (s.console.ofTable_filter fun key => gone ["emulation", key])
  rw [Toml.Document.table]
  refine (ofTable_append (s.ofTable_entries gone)).trans ?_
  cases whole : gone ["emulation"] with
  | true =>
    have sections : (s.document.without gone).sections = [] := by
      simp [Toml.Document.without, document, whole]
    have default : (s.reset gone).console = ({} : Settings).console := if_pos whole
    rw [sections, ← default]
    rfl
  | false =>
    have sections : (s.document.without gone).sections =
        [("emulation", s.console.entries.filter fun e => !gone ["emulation", e.1])] := by
      simp [Toml.Document.without, document, whole]
    have kept : (s.reset gone).console = s.console.reset fun key => gone ["emulation", key] :=
      if_neg (by rw [whole]; decide)
    rw [sections, List.map_singleton, List.foldlM_cons]
    simp only [console, ← kept]
    rfl

/-- No key is gone. -/
lemma reset_nothing : s.reset (fun _ => false) = s := rfl

end Settings

/-- **Settings round-trip, and missing keys have defaults.** If the frame limit of some settings has
63 bits, then reading the text that they are written as gives them again. If the lines of some keys
are taken out of the text, be it keys outside or inside of the section or the section as a whole,
then exactly the fields of these keys have their default values. -/
theorem ofToml_textWithout (s : Settings)
    (limit : ∀ n, s.frameLimit = some n → n.toNat ≤ 0x7FFFFFFFFFFFFFFF) :
    Settings.ofToml s.toml = .ok s ∧
      ∀ gone, Settings.ofToml (s.document.textWithout gone) = .ok (s.reset gone) := by
  have without (gone : List String → Bool) :
      Settings.ofToml (s.document.textWithout gone) = .ok (s.reset gone) := by
    have legible := (Settings.legible_document limit).without gone
    rw [Settings.ofToml, Toml.Document.textWithout_eq, Toml.Table.ofText?_text legible]
    exact s.ofTable_without gone
  refine ⟨?_, without⟩
  have all := without fun _ => false
  rwa [Toml.Document.textWithout_nothing, Settings.reset_nothing] at all

/-- Settings none of which has its default value, with the greatest frame limit that is read. -/
def Settings.unusual : Settings where
  frameLimit := some 0x7FFFFFFFFFFFFFFF
  realtime := true
  sink := .log
  stopOnResult := false
  console := ⟨0, false⟩

/-- The sink and the clock cycles of a frame are left out, and have their default values. -/
theorem ofToml_textWithout_unusual :
    (∀ n, Settings.unusual.frameLimit = some n → n.toNat ≤ 0x7FFFFFFFFFFFFFFF) ∧
      Settings.ofToml
          ("frame_limit = 9223372036854775807\nrealtime = true\nstop_on_result = false\n\n" ++
            "[emulation]\nservice_interrupts = false\n") =
        .ok { Settings.unusual with sink := .stdout, console := ⟨cyclesPerFrame, false⟩ } := by
  have limit : ∀ n, Settings.unusual.frameLimit = some n → n.toNat ≤ 0x7FFFFFFFFFFFFFFF := by
    rintro n ⟨⟩
    decide
  have text : Settings.unusual.document.textWithout
      (fun path => [["serial_sink"], ["emulation", "frame_cycles"]].contains path) =
        "frame_limit = 9223372036854775807\nrealtime = true\nstop_on_result = false\n\n" ++
          "[emulation]\nservice_interrupts = false\n" := by
    decide +kernel
  refine ⟨limit, ?_⟩
  rw [← text, (ofToml_textWithout Settings.unusual limit).2]
  rfl

end GameBoy
