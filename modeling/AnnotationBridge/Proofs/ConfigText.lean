import AnnotationBridge.Proofs.ConfigOverlay
import AnnotationBridge.Proofs.TomlLines
import AnnotationBridge.Proofs.Utf8

/-!
# Configuration as text

Settings that are written as TOML, with all their keys, are read back as they are.

* `Config.toToml`: the text of settings. `Config.toEntries`: what it says.
* `Config.leads_servers`: the sections of the servers, one by one.
* `Config.ofTable?_toEntries`, `Config.ofText?_toToml`: both are read back.
* `Config.file_overrides_what_it_names`: what a file says is what counts, and everything can be
  said.
-/

namespace AnnotationBridge

open Toml (Value Table Entry Reading Setting Leads Spells)

/-! ### Writing -/

/-- The settings of the annotator. -/
def AnnotatorConfig.settings (a : AnnotatorConfig) : List Setting :=
  [⟨"code_action_timeout_ms", Nat.toDigits 10 a.codeActionTimeoutMs.toNat,
      .integer a.codeActionTimeoutMs.toNat⟩,
    ⟨"render_on_publish", (toString a.renderOnPublish).toList, .boolean a.renderOnPublish⟩]

/-- The definition of a server. A command that there is not has no key. -/
def ServerConfig.settings (s : ServerConfig) : List Setting :=
  ⟨"languages", Toml.list s.languages, .array (s.languages.map .string)⟩ ::
    (s.command.toList.map fun c => ⟨"command", Toml.quoted c, .string c⟩) ++
    [⟨"args", Toml.list s.args, .array (s.args.map .string)⟩]

namespace Config

/-- The section of a server. -/
def serverSection (d : String × ServerConfig) : List Char :=
  Toml.header ("servers.".toList ++ Toml.quoted d.1) ++ Setting.lines d.2.settings

/-- The text of settings, with all their keys. -/
def toToml (c : Config) : String :=
  String.ofList
    (Toml.header "annotator".toList ++ Setting.lines c.annotator.settings ++
      Toml.header "servers".toList ++ c.servers.flatMap serverSection)

/-- What the text of settings says. -/
def toEntries (c : Config) : List (String × Value) :=
  [("annotator", .table (c.annotator.settings.map Setting.entry)),
    ("servers", .table (c.servers.map fun d => (d.1, .table (d.2.settings.map Setting.entry))))]

variable {c : Config}

/-! ### Reading back -/

/-- The settings of the annotator can be written, if the time is not too long for TOML. -/
theorem proper_annotator (h : c.annotator.codeActionTimeoutMs.toNat < 2 ^ 63) :
    ∀ s ∈ c.annotator.settings, s.Proper := by
  rintro s hs
  rcases List.mem_cons.1 hs with rfl | hs
  · exact Setting.proper (by decide) (Toml.spells_integer h)
  · rw [List.mem_singleton.1 hs]
    exact Setting.proper (by decide) (Toml.spells_boolean _)

/-- The settings of a server can be written. -/
theorem proper_server (s : ServerConfig) : ∀ x ∈ s.settings, x.Proper := by
  intro x hx
  simp only [ServerConfig.settings, List.cons_append, List.mem_cons, List.mem_append,
    List.mem_map, Option.mem_toList, List.not_mem_nil, or_false] at hx
  obtain rfl | ⟨command, -, rfl⟩ | rfl := hx
  · exact Setting.proper (by decide) (Toml.spells_list _)
  · exact Setting.proper (by decide) (Toml.spells_quoted _)
  · exact Setting.proper (by decide) (Toml.spells_list _)

/-- The settings of a server have different keys. -/
theorem nodup_server (s : ServerConfig) :
    ((s.settings.map Setting.entry).map Prod.fst).Nodup := by
  obtain ⟨languages, command, args⟩ := s
  cases command <;> simp [ServerConfig.settings, Setting.entry]

/-- The tables that have been read, with the table of servers left open. -/
def frame (c : Config) (s : Table) : Table :=
  .mk .header
    ([("annotator", .table (.ofValues (c.annotator.settings.map Setting.entry)))] ++
      [("servers", .table s)])

/-- The entries of servers that have been read. -/
def sections (servers : List (String × ServerConfig)) : List (String × Entry) :=
  servers.map fun d => (d.1, .table (.ofValues (d.2.settings.map Setting.entry)))

/-- The tables that have been read when some of the servers have. -/
def tables (c : Config) (servers : List (String × ServerConfig)) : Table :=
  c.frame (.mk .header (sections servers))

/-- There is a section for each server, under its own name. -/
theorem map_fst_sections (servers : List (String × ServerConfig)) :
    (sections servers).map Prod.fst = servers.map Prod.fst :=
  List.map_map

/-- The tables with all servers are finished as what the settings say. -/
theorem toValue_tables (c : Config) : (c.tables c.servers).toValue = .table c.toEntries := by
  have hservers : (sections c.servers).map (fun e => (e.1, Table.entryToValue e.2)) =
      c.servers.map fun d => (d.1, .table (d.2.settings.map Setting.entry)) := by
    rw [sections, List.map_map]
    refine List.map_congr_left fun d _ => ?_
    rw [Function.comp_apply, Table.entryToValue, Table.toValue_ofValues]
  simp only [tables, frame, toEntries, Table.toValue, Table.entriesToValues_eq, List.map_cons,
    List.map_nil, List.cons_append, List.nil_append, Table.entryToValue, Table.toValue_ofValues,
    hservers]

/-- The path of the servers leads to their table. -/
theorem leadsTo_servers (c : Config) : Table.LeadsTo ["servers"] c.frame :=
  Table.LeadsTo.here.last (by simp)

/-- The path of a new server leads to a place behind the others. -/
theorem leadsTo_server (c : Config) {done : List (String × ServerConfig)} {id : String}
    (hnew : id ∉ (sections done).map Prod.fst) : Table.LeadsTo ["servers", id] fun s =>
      c.frame (.mk .header (sections done ++ [(id, .table s)])) :=
  (Table.LeadsTo.here.last hnew).last (by simp)

/-- A section leads from the servers before it to those with it. -/
theorem leads_section {done : List (String × ServerConfig)} {d : String × ServerConfig}
    (hnew : d.1 ∉ done.map Prod.fst) (here : List String) :
    Leads (serverSection d) ⟨c.tables done, here⟩ ⟨c.tables (done ++ [d]), ["servers", d.1]⟩ := by
  rw [← map_fst_sections] at hnew
  have hbare : ∀ c ∈ "servers".toList, Toml.isKeyChar c = true :=
    List.all_eq_true.1 (by decide)
  have hkey (rest : List Char) :
      Toml.keyPath? ("servers.".toList ++ Toml.quoted d.1 ++ ']' :: rest) =
        some (["servers"], d.1, ']' :: rest) := by
    rw [List.append_assoc]
    exact Toml.keyPath?_quoted hbare (by decide) d.1 (by rintro rest' ⟨⟩)
  have hheader : Leads (Toml.header ("servers.".toList ++ Toml.quoted d.1)) ⟨c.tables done, here⟩
      ⟨c.frame (.mk .header (sections done ++ [(d.1, .table (.ofValues []))])), ["servers", d.1]⟩ :=
    Toml.leads_header (by simp) hkey (Table.openTable_new c.leadsTo_servers hnew)
  have hsettings : Leads (Setting.lines d.2.settings)
      ⟨c.frame (.mk .header (sections done ++ [(d.1, .table (.ofValues []))])), ["servers", d.1]⟩
      ⟨c.frame (.mk .header (sections done ++
        [(d.1, .table (.ofValues (d.2.settings.map Setting.entry)))])), ["servers", d.1]⟩ :=
    Toml.leads_settings (c.leadsTo_server hnew) (proper_server d.2) (nodup_server d.2)
  have hsections : sections (done ++ [d]) =
      sections done ++ [(d.1, .table (.ofValues (d.2.settings.map Setting.entry)))] :=
    List.map_append
  rw [tables, tables, hsections]
  exact hheader.append hsettings

/-- **The sections of servers are read one by one.** -/
theorem leads_servers {done servers : List (String × ServerConfig)}
    (honce : ((done ++ servers).map Prod.fst).Nodup) (here : List String) :
    ∃ here', Leads (servers.flatMap serverSection) ⟨c.tables done, here⟩
      ⟨c.tables (done ++ servers), here'⟩ := by
  induction servers generalizing done here with
  | nil =>
    rw [List.append_nil]
    exact ⟨here, Leads.refl _⟩
  | cons d servers ih =>
    have hnew : d.1 ∉ done.map Prod.fst := by
      rw [List.map_append] at honce
      exact fun hmem => (List.nodup_append.1 honce).2.2 _ hmem d.1 (by simp) rfl
    rw [List.append_cons] at honce ⊢
    obtain ⟨here', hrest⟩ := ih honce ["servers", d.1]
    exact ⟨here', (leads_section hnew here).append hrest⟩

/-- **The text of settings says all of them.** -/
theorem ofText?_toToml_entries (htimeout : c.annotator.codeActionTimeoutMs.toNat < 2 ^ 63)
    (honce : (c.servers.map Prod.fst).Nodup) : Toml.ofText? c.toToml = some c.toEntries := by
  have hfirst : "annotator" ∉ ([] : List (String × Entry)).map Prod.fst := List.not_mem_nil
  have hplace : Table.LeadsTo ["annotator"] fun s => .mk .header [("annotator", .table s)] :=
    Table.LeadsTo.here.last hfirst
  have hkey (rest : List Char) : Toml.keyPath? ("annotator".toList ++ ']' :: rest) =
      some ([], "annotator", ']' :: rest) := rfl
  have hkey' (rest : List Char) : Toml.keyPath? ("servers".toList ++ ']' :: rest) =
      some ([], "servers", ']' :: rest) := rfl
  have hannotator : Leads (Toml.header "annotator".toList) ⟨.empty .header, []⟩
      ⟨.mk .header [("annotator", .table (.ofValues []))], ["annotator"]⟩ :=
    Toml.leads_header (by decide) hkey rfl
  have hsettings : Leads (Setting.lines c.annotator.settings)
      ⟨.mk .header [("annotator", .table (.ofValues []))], ["annotator"]⟩
      ⟨.mk .header [("annotator", .table (.ofValues (c.annotator.settings.map Setting.entry)))],
        ["annotator"]⟩ :=
    Toml.leads_settings hplace (proper_annotator htimeout) (by simp [AnnotatorConfig.settings,
      Setting.entry])
  have hheader : Leads (Toml.header "servers".toList)
      ⟨.mk .header [("annotator", .table (.ofValues (c.annotator.settings.map Setting.entry)))],
        ["annotator"]⟩ ⟨c.tables [], ["servers"]⟩ :=
    Toml.leads_header (by decide) hkey' rfl
  have hnone : (([] ++ c.servers).map Prod.fst).Nodup := honce
  obtain ⟨here, hservers⟩ := leads_servers hnone ["servers"]
  refine Toml.ofText?_of_leads (r := ⟨c.tables c.servers, here⟩) ?_ c.toValue_tables ?_
  · rw [toToml, String.toList_ofList]
    exact ((hannotator.append hsettings).append hheader).append hservers
  · rw [toToml, String.toList_ofList]
    simp [Toml.header]

/-- A list of strings is decoded as these strings. -/
theorem texts?_map (ts : List String) : texts? (.array (ts.map .string)) = some ts :=
  texts?_eq_some_iff.2 rfl

/-- The settings of a server are decoded as that server. -/
theorem server?_settings (s : ServerConfig) :
    server? (.table (s.settings.map Setting.entry)) = some s := by
  obtain ⟨languages, command, args⟩ := s
  cases command <;>
    simp [ServerConfig.settings, Setting.entry, server?, record?, field?, List.lookup_cons, text?,
      texts?_map]

/-- The settings of the annotator are decoded as these. -/
theorem annotator?_settings (a : AnnotatorConfig) :
    annotator? (.table (a.settings.map Setting.entry)) = some a := by
  have htimeout : milliseconds? (.integer a.codeActionTimeoutMs.toNat) =
      some a.codeActionTimeoutMs := by
    rw [milliseconds?, if_pos (Int.natCast_nonneg _), Int.toNat_natCast, UInt64.ofNat_toNat]
  show (milliseconds? (.integer a.codeActionTimeoutMs.toNat)).bind
    (fun ms => some (AnnotatorConfig.mk ms a.renderOnPublish)) = _
  rw [htimeout]
  rfl

/-- **What the text of settings says are those settings.** -/
theorem ofTable?_toEntries (c : Config) : ofTable? c.toEntries = some c := by
  have hservers : servers? (.table (c.servers.map fun d =>
      (d.1, .table (d.2.settings.map Setting.entry)))) = some c.servers := by
    rw [servers?, mapM_eq_some_iff, List.forall₂_map_left_iff, List.forall₂_same]
    intro d _
    exact congrArg (Option.map (d.1, ·)) (server?_settings d.2)
  simp [ofTable?, toEntries, field?, List.lookup_cons, annotator?_settings, hservers]

/-- **Settings that are written with all their keys are read back.** -/
theorem ofText?_toToml (htimeout : c.annotator.codeActionTimeoutMs.toNat < 2 ^ 63)
    (honce : (c.servers.map Prod.fst).Nodup) : ofText? c.toToml = some c := by
  rw [ofText?, ofText?_toToml_entries htimeout honce]
  exact ofTable?_toEntries c

/-! ### Files -/

/-- Settings come from a file exactly if its text can be read and decoded. -/
theorem ofFile_eq_ok_iff {files : Files} {path : Path} :
    ofFile files path = .ok c ↔ ∃ text, files.readText path = .ok text ∧ ofText? text = some c := by
  unfold ofFile
  cases hread : files.readText path with
  | error e => simp
  | ok text =>
    cases htext : ofText? text with
    | none => simp [htext]
    | some c' => simp [htext]

/-- The servers are those of a table, and each looks at the documents that its definition admits. -/
def HasServers (c : Config) (defs : List (String × Value)) : Prop :=
  ∀ id,
    (∀ v, (id, v) ∈ defs → ∃ s, c.server id = some s ∧
      ∀ language, s.appliesTo language = true ↔ ServerConfig.Admits v language) ∧
    ((∀ v, (id, v) ∉ defs) → c.server id = none)

/-- What is under the key of the servers is a table of these servers. -/
theorem Says.hasServers {entries : List (String × Value)} (h : c.Says entries)
    (hregular : (Value.table entries).Regular) {v : Value} (hv : ("servers", v) ∈ entries) :
    ∃ defs, v = .table defs ∧ c.HasServers defs := by
  have hdefine := h.servers.takes v hv
  obtain ⟨defs, rfl, -⟩ := id hdefine
  have honce : (defs.map Prod.fst).Nodup := by
    cases hregular with
    | table once each =>
      cases each _ hv with
      | table once each => exact once
  refine ⟨defs, rfl, fun id => ?_⟩
  obtain ⟨hdefined, hother⟩ := server_of_define hdefine honce id
  refine ⟨fun v hv => ?_, hother⟩
  obtain ⟨s, hs, hover⟩ := hdefined v hv
  exact ⟨s, hs, hover.appliesTo_iff⟩

/-- **A configuration file overrides exactly what it names.** The settings that are loaded are those
of which the file says what it names, and the defaults of the others, each at its own level. Unknown
keys change nothing; servers of a table are those of the table, with its languages; and all settings
can be said, with a time up to `2 ^ 63 - 1` milliseconds. -/
theorem file_overrides_what_it_names (files : Files) (path : Path) (c : Config) :
    (ofFile files path = .ok c → ∃ text entries,
      files.readText path = .ok text ∧ Toml.ofText? text = some entries ∧ c.Says entries ∧
        (∀ text' entries', Toml.ofText? text' = some entries' → known entries' = known entries →
          ofText? text' = some c) ∧
        ∀ v, ("servers", v) ∈ entries → ∃ defs, v = .table defs ∧ c.HasServers defs) ∧
    (c.annotator.codeActionTimeoutMs.toNat ≤ 2 ^ 63 - 1 → (c.servers.map Prod.fst).Nodup →
      files.readText path = .ok c.toToml → ofFile files path = .ok c) := by
  constructor
  · intro h
    obtain ⟨text, hread, htext⟩ := ofFile_eq_ok_iff.1 h
    obtain ⟨entries, hparse, htable⟩ := Option.bind_eq_some_iff.1 htext
    have hregular := Toml.regular_of_ofText? hparse
    have hsays := (ofTable?_eq_some_iff hregular).1 htable
    refine ⟨text, entries, hread, hparse, hsays, fun text' entries' hparse' hknown => ?_,
      fun v => hsays.hasServers hregular⟩
    rw [ofText?, hparse', ← htable, ← ofTable?_known entries, ← hknown]
    exact (ofTable?_known entries').symm
  · intro htimeout honce hread
    exact ofFile_eq_ok_iff.2 ⟨_, hread, ofText?_toToml (Nat.lt_succ_of_le htimeout) honce⟩

namespace Sample

/-- A file that names one setting of the annotator, one server without languages, and a key that has
no meaning. -/
def text : String :=
  "[annotator]\ncode_action_timeout_ms = 250\n[servers.custom]\nlanguages = []\nport = 1\n"

/-- What the file comes to. -/
def config : Config :=
  ⟨⟨250, true⟩, [("custom", {})]⟩

/-- Settings with the longest time and a name that needs escapes. -/
def longest : Config :=
  ⟨⟨9223372036854775807, false⟩, [("a \"b\"\n", ⟨["java"], some "run", ["-x", ""]⟩), ("", {})]⟩

/-- A view in which each file holds the same text. -/
def holding (text : String) : Files :=
  { Files.empty with read := fun _ => .ok (Text.Utf8.encode text) }

/-- The text of a file that holds a text is that text. -/
theorem readText_holding (text : String) (path : Path) :
    (holding text).readText path = .ok text := by
  unfold Files.readText holding
  simp only [bind, Except.bind]
  rw [Text.Utf8.decode?_encode]

/-- Where the file is. -/
def path : Path :=
  .ofString "/config.toml"

/-- The partial file is read as the settings with defaults. -/
theorem ofFile_text : ofFile (holding text) path = .ok config :=
  ofFile_eq_ok_iff.2 ⟨text, readText_holding text path, by decide +kernel⟩

end Sample

/-- A file that names few keys overrides these only, and the longest time can be written and is
read. -/
theorem partial_file_and_longest_time :
    (∃ text entries, (Sample.holding Sample.text).readText Sample.path = .ok text ∧
      Toml.ofText? text = some entries ∧ Sample.config.Says entries) ∧
    ofFile (Sample.holding Sample.longest.toToml) Sample.path = .ok Sample.longest := by
  constructor
  · obtain ⟨text, entries, hread, hparse, hsays, -⟩ :=
      (file_overrides_what_it_names (Sample.holding Sample.text) Sample.path Sample.config).1
        Sample.ofFile_text
    exact ⟨text, entries, hread, hparse, hsays⟩
  · exact (file_overrides_what_it_names _ Sample.path Sample.longest).2 (by decide) (by decide)
      (Sample.readText_holding _ Sample.path)

end Config

end AnnotationBridge
