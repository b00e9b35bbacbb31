import AnnotationBridge.Config
import AnnotationBridge.Proofs.TomlTables
import Mathlib.Tactic.MkIffOfInductiveProp

/-!
# What a configuration file overrides

A file overrides exactly what it names. Defaults act at three levels: each setting of the annotator
has its own, the table of servers has one as a whole, and a missing key of a server's definition is
empty. What the file says is told without a reader: by the entries of its tables.

* `Config.Gives`: the value that a record gives to one of its keys.
* `Config.Follows`: a setting is the given one, or the default if none is given.
* `AnnotatorConfig.Overlays`, `ServerConfig.Overlays`, `Config.Says`: the settings that a file
  names, over the defaults.
* `Config.known`: a file without the keys that have no meaning.

Main statements: `Config.ofTable?_eq_some_iff`, what is read is what the file says;
`Config.ofTable?_known`, unknown keys change nothing; `Config.server_iff`, `Config.appliesTo_iff`,
the servers of a file are the ones of its table and look at the documents that it tells.
-/

namespace AnnotationBridge

open Toml (Value)

namespace Config

/-! ### What a file says -/

/-- A value gives a value to a key of a record: by its name in a table, by its place in an array. -/
def Gives (names : List String) (key : String) : Value → Value → Prop
  | .table entries, w => (key, w) ∈ entries
  | .array items, w => (key, w) ∈ names.zip items
  | _, _ => False

/-- A value that has the shape of a record. -/
def IsRecord : Value → Prop
  | .table _ | .array _ | .datetime => True
  | _ => False

/-- A setting is the one that is given, or the default if none is given. -/
structure Follows {α : Type} (given : Value → Prop) (reads : Value → α → Prop) (default a : α) :
    Prop where
  takes : ∀ w, given w → reads w a
  keeps : (∀ w, ¬ given w) → a = default

/-- A value is a list of strings. -/
def IsTexts (w : Value) (texts : List String) : Prop :=
  w = .array (texts.map .string)

end Config

open Config (Gives IsRecord Follows IsTexts)

/-- The keys of the annotator's settings. -/
def AnnotatorConfig.keys : List String :=
  ["code_action_timeout_ms", "render_on_publish"]

/-- The keys of a server's definition. -/
def ServerConfig.keys : List String :=
  ["languages", "command", "args"]

/-- Settings of the annotator: those of a record, each over its own default. -/
@[mk_iff]
structure AnnotatorConfig.Overlays (a : AnnotatorConfig) (v : Value) : Prop where
  shape : IsRecord v
  timeout : Follows (Gives AnnotatorConfig.keys "code_action_timeout_ms" v)
    (fun w ms => w = .integer ms.toNat) 10000 a.codeActionTimeoutMs
  publish : Follows (Gives AnnotatorConfig.keys "render_on_publish" v)
    (fun w b => w = .boolean b) true a.renderOnPublish

/-- The definition of a server: that of a record, with nothing for each missing key. -/
@[mk_iff]
structure ServerConfig.Overlays (s : ServerConfig) (v : Value) : Prop where
  shape : IsRecord v
  languages : Follows (Gives ServerConfig.keys "languages" v) IsTexts [] s.languages
  command : Follows (Gives ServerConfig.keys "command" v)
    (fun w c => ∃ text, c = some text ∧ w = .string text) none s.command
  args : Follows (Gives ServerConfig.keys "args" v) IsTexts [] s.args

/-- The definitions of servers are those of a table, in its order. -/
def ServerConfig.Define (servers : List (String × ServerConfig)) (v : Value) : Prop :=
  ∃ defs, v = .table defs ∧
    List.Forall₂ (fun d s => s.1 = d.1 ∧ s.2.Overlays d.2) defs servers

/-- The settings are what a file with the given entries says. -/
@[mk_iff]
structure Config.Says (c : Config) (entries : List (String × Value)) : Prop where
  annotator : Follows (fun v => ("annotator", v) ∈ entries) (fun v a => a.Overlays v)
    ⟨10000, true⟩ c.annotator
  servers : Follows (fun v => ("servers", v) ∈ entries) (fun v ss => ServerConfig.Define ss v)
    builtInServers c.servers

namespace Config

variable {v w : Value} {names : List String} {key : String} {entries : List (String × Value)}

/-! ### Reading what is said -/

/-- Every record can be taken apart. -/
theorem exists_record? (names : List String) (h : IsRecord v) :
    ∃ fields, record? names v = some fields := by
  cases v with
  | table entries => exact ⟨_, rfl⟩
  | array items => exact ⟨_, rfl⟩
  | datetime => exact ⟨_, rfl⟩
  | _ => exact h.elim

/-- What is taken apart is a record. -/
theorem isRecord_of_record? {fields : String → Option Value} (h : record? names v = some fields) :
    IsRecord v := by
  cases v with
  | table entries => trivial
  | array items => trivial
  | datetime => trivial
  | _ => cases h

/-- The fields of a record are those that it gives. -/
theorem record?_gives {fields : String → Option Value} (h : record? names v = some fields)
    (hnames : names.Nodup) (hv : v.Regular) : fields key = some w ↔ Gives names key v w := by
  cases v with
  | table entries =>
    obtain rfl := Option.some.inj h
    cases hv with
    | table once each => exact lookup_eq_some_iff_mem once
  | array items =>
    obtain rfl := Option.some.inj h
    exact lookup_eq_some_iff_mem (hnames.sublist (map_fst_zip_sublist names items))
  | datetime =>
    obtain rfl := Option.some.inj h
    exact ⟨fun h => absurd h (by simp), False.elim⟩
  | _ => cases h

/-- A field that is read follows what is given for it. -/
theorem field?_eq_some_iff {α : Type} {fields : String → Option Value} {given : Value → Prop}
    {decode : Value → Option α} {reads : Value → α → Prop} {default a : α}
    (hfields : ∀ w, fields key = some w ↔ given w)
    (hreads : ∀ w, given w → (decode w = some a ↔ reads w a)) :
    field? fields key default decode = some a ↔ Follows given reads default a := by
  unfold field?
  cases hkey : fields key with
  | none =>
    have hnone (w : Value) : ¬ given w := fun hw => by simp [(hfields w).2 hw] at hkey
    exact ⟨fun h => ⟨fun w hw => absurd hw (hnone w), fun _ => (Option.some.inj h).symm⟩,
      fun h => congrArg some (h.keeps hnone).symm⟩
  | some w =>
    have hw := (hfields w).1 hkey
    refine ⟨fun h => ⟨fun w' hw' => ?_, fun hnone => absurd hw (hnone w)⟩,
      fun h => (hreads w hw).2 (h.takes w hw)⟩
    obtain rfl : w' = w := Option.some.inj (((hfields w').2 hw').symm.trans hkey)
    exact (hreads w' hw').1 h

/-- A string is decoded as its text. -/
theorem text?_eq_some_iff {text : String} : text? w = some text ↔ w = .string text := by
  cases w <;> simp [text?]

/-- A truth value is decoded as itself. -/
theorem flag?_eq_some_iff {b : Bool} : flag? w = some b ↔ w = .boolean b := by
  cases w <;> simp [flag?]

/-- A list of strings is decoded as their texts. -/
theorem texts?_eq_some_iff {texts : List String} : texts? w = some texts ↔ IsTexts w texts := by
  cases w with
  | array items =>
    rw [texts?, mapM_eq_some_iff, IsTexts, Value.array.injEq, ← List.forall₂_eq_eq_eq,
      List.forall₂_map_right_iff]
    exact Iff.of_eq (congrArg (List.Forall₂ · items texts) (by ext; exact text?_eq_some_iff))
  | _ => simp [texts?, IsTexts]

/-- A time is decoded from an integer that is not negative. -/
theorem milliseconds?_eq_some_iff {ms : UInt64} (hw : w.Regular) :
    milliseconds? w = some ms ↔ w = .integer ms.toNat := by
  cases hw with
  | @integer n low high =>
    have hbound : n < 2 ^ 64 := Int.lt_of_le_of_lt high (by decide)
    simp only [milliseconds?, Option.ite_none_right_eq_some, Option.some.injEq, Value.integer.injEq]
    constructor
    · rintro ⟨hn, rfl⟩
      rw [UInt64.toNat_ofNat_of_lt' (by simp; omega)]
      exact (Int.toNat_of_nonneg hn).symm
    · rintro rfl
      exact ⟨Int.natCast_nonneg _, by simp⟩
  | _ => simp [milliseconds?]

/-- What a record gives is regular if the record is. -/
theorem Gives.regular (h : Gives names key v w) (hv : v.Regular) : w.Regular := by
  cases hv with
  | table once each => exact each _ h
  | array each => exact each w (List.of_mem_zip h).2
  | _ => exact h.elim

/-- What is read from the fields of a record is said of what the record gives. -/
theorem exists_record?_iff {P : (String → Option Value) → Prop} {Q : Prop} (hv : v.Regular)
    (hnames : names.Nodup)
    (h : ∀ fields : String → Option Value,
      (∀ key w, fields key = some w ↔ Gives names key v w) → (P fields ↔ Q)) :
    (∃ fields, record? names v = some fields ∧ P fields) ↔ IsRecord v ∧ Q := by
  constructor
  · rintro ⟨fields, hrecord, hP⟩
    exact ⟨isRecord_of_record? hrecord, (h fields fun _ _ => record?_gives hrecord hnames hv).1 hP⟩
  · rintro ⟨hshape, hQ⟩
    obtain ⟨fields, hrecord⟩ := exists_record? names hshape
    exact ⟨fields, hrecord, (h fields fun _ _ => record?_gives hrecord hnames hv).2 hQ⟩

/-- The settings of the annotator that are read are those of the record. -/
theorem annotator?_eq_some_iff {a : AnnotatorConfig} (hv : v.Regular) :
    annotator? v = some a ↔ a.Overlays v := by
  have hfields : annotator? v = some a ↔ ∃ fields, record? AnnotatorConfig.keys v = some fields ∧
      field? fields "code_action_timeout_ms" 10000 milliseconds? = some a.codeActionTimeoutMs ∧
      field? fields "render_on_publish" true flag? = some a.renderOnPublish := by
    cases a
    simp [annotator?, AnnotatorConfig.keys, Option.bind_eq_some_iff]
  rw [hfields, AnnotatorConfig.overlays_iff]
  exact exists_record?_iff hv (by decide) fun fields hgives =>
    and_congr
      (field?_eq_some_iff (hgives _) fun w hw => milliseconds?_eq_some_iff (hw.regular hv))
      (field?_eq_some_iff (hgives _) fun w _ => flag?_eq_some_iff)

/-- The definition of a server that is read is that of the record. -/
theorem server?_eq_some_iff {s : ServerConfig} (hv : v.Regular) :
    server? v = some s ↔ s.Overlays v := by
  have hfields : server? v = some s ↔ ∃ fields, record? ServerConfig.keys v = some fields ∧
      field? fields "languages" [] texts? = some s.languages ∧
      field? fields "command" none (fun v => (text? v).map some) = some s.command ∧
      field? fields "args" [] texts? = some s.args := by
    cases s
    simp [server?, ServerConfig.keys, Option.bind_eq_some_iff]
  have hcommand (w : Value) : (text? w).map some = some s.command ↔
      ∃ text, s.command = some text ∧ w = .string text := by
    rw [Option.map_eq_some_iff]
    exact exists_congr fun text => and_comm.trans (and_congr eq_comm text?_eq_some_iff)
  rw [hfields, ServerConfig.overlays_iff]
  exact exists_record?_iff hv (by decide) fun fields hgives =>
    and_congr (field?_eq_some_iff (hgives _) fun w _ => texts?_eq_some_iff)
      (and_congr (field?_eq_some_iff (hgives _) fun w _ => hcommand w)
        (field?_eq_some_iff (hgives _) fun w _ => texts?_eq_some_iff))

/-- The servers that are read are those of the table. -/
theorem servers?_eq_some_iff {ss : List (String × ServerConfig)} (hv : v.Regular) :
    servers? v = some ss ↔ ServerConfig.Define ss v := by
  cases hv with
  | @table defs once each =>
    have hentry {d : String × Value} {s : String × ServerConfig} (hd : d.2.Regular) :
        (server? d.2).map (d.1, ·) = some s ↔ s.1 = d.1 ∧ s.2.Overlays d.2 := by
      rw [← server?_eq_some_iff hd]
      obtain ⟨id, s⟩ := s
      cases server? d.2 <;> simp [@eq_comm _ id]
    have hrestrict (R : String × Value → String × ServerConfig → Prop) :
        List.Forall₂ R defs ss ↔ List.Forall₂ (fun d s => d.2.Regular ∧ R d s) defs ss := by
      rw [List.forall₂_and_left]
      exact (and_iff_right each).symm
    rw [servers?, mapM_eq_some_iff, hrestrict]
    have hsame : (fun (d : String × Value) (s : String × ServerConfig) =>
        d.2.Regular ∧ (server? d.2).map (d.1, ·) = some s) =
        fun d s => d.2.Regular ∧ s.1 = d.1 ∧ s.2.Overlays d.2 := by
      ext d s
      exact and_congr_right hentry
    rw [hsame, ← hrestrict]
    exact ⟨fun h => ⟨defs, rfl, h⟩, fun ⟨_, heq, h⟩ => by cases heq; exact h⟩
  | _ => simp [servers?, ServerConfig.Define]

/-- **What is read is what the file says.** -/
theorem ofTable?_eq_some_iff {c : Config} (h : (Value.table entries).Regular) :
    ofTable? entries = some c ↔ c.Says entries := by
  have hfields : ofTable? entries = some c ↔
      field? (entries.lookup ·) "annotator" ⟨10000, true⟩ annotator? = some c.annotator ∧
      field? (entries.lookup ·) "servers" builtInServers servers? = some c.servers := by
    cases c
    simp [ofTable?, Option.bind_eq_some_iff]
  cases h with
  | table once each =>
    have hgives (key : String) (w : Value) : entries.lookup key = some w ↔ (key, w) ∈ entries :=
      lookup_eq_some_iff_mem once
    rw [hfields, says_iff]
    exact and_congr
      (field?_eq_some_iff (hgives _) fun w hw => annotator?_eq_some_iff (each (_, w) hw))
      (field?_eq_some_iff (hgives _) fun w hw => servers?_eq_some_iff (each (_, w) hw))

/-! ### Servers of a file -/

end Config

/-- A definition lets a server look at documents of a language: it names no languages, or that one
too. -/
def ServerConfig.Admits (v : Value) (language : Option String) : Prop :=
  ∀ items, Gives ServerConfig.keys "languages" v (.array items) → items ≠ [] →
    ∃ l, language = some l ∧ .string l ∈ items

/-- **Which documents a server looks at is told by its definition.** -/
theorem ServerConfig.Overlays.appliesTo_iff {s : ServerConfig} {v : Value} (h : s.Overlays v)
    (language : Option String) : s.appliesTo language = true ↔ Admits v language := by
  have happlies : s.appliesTo language = true ↔
      s.languages = [] ∨ ∃ l, language = some l ∧ l ∈ s.languages := by
    cases language <;> simp [appliesTo]
  rw [happlies]
  constructor
  · intro hs items hitems hne
    obtain rfl : items = s.languages.map .string :=
      Value.array.inj (h.languages.takes _ hitems)
    obtain hnone | ⟨l, hl, hmem⟩ := hs
    · rw [hnone] at hne
      exact absurd rfl hne
    · exact ⟨l, hl, List.mem_map_of_mem hmem⟩
  · intro hv
    refine or_iff_not_imp_left.2 fun hne => ?_
    obtain ⟨w, hw⟩ : ∃ w, Gives ServerConfig.keys "languages" v w := by
      by_contra hnone
      exact hne (h.languages.keeps (not_exists.1 hnone))
    obtain rfl := h.languages.takes w hw
    obtain ⟨l, hl, hmem⟩ := hv _ hw fun hempty => hne (List.map_eq_nil_iff.1 hempty)
    obtain ⟨l', hmem', heq⟩ := List.mem_map.1 hmem
    obtain rfl := Value.string.inj heq
    exact ⟨l', hl, hmem'⟩

namespace Config

variable {names : List String} {entries : List (String × Value)}

/-- **The servers of a table are the ones that it defines.** -/
theorem server_of_define {c : Config} {defs : List (String × Value)}
    (h : ServerConfig.Define c.servers (.table defs)) (once : (defs.map Prod.fst).Nodup)
    (id : String) :
    (∀ v, (id, v) ∈ defs → ∃ s, c.server id = some s ∧ s.Overlays v) ∧
      ((∀ v, (id, v) ∉ defs) → c.server id = none) := by
  obtain ⟨defs', heq, hall⟩ := h
  obtain rfl := Value.table.inj heq
  have hrel := rel_lookup (R := fun v (s : ServerConfig) => s.Overlays v) hall id
  constructor
  · intro v hv
    rw [(lookup_eq_some_iff_mem once).2 hv] at hrel
    cases hs : c.servers.lookup id with
    | none => rw [hs] at hrel; cases hrel
    | some s =>
      rw [hs] at hrel
      cases hrel with
      | some hover => exact ⟨s, hs, hover⟩
  · intro hnone
    have hlookup : defs.lookup id = none :=
      Option.eq_none_iff_forall_ne_some.2 fun v hv => hnone v (mem_of_lookup hv)
    rw [hlookup] at hrel
    cases hs : c.servers.lookup id with
    | none => exact hs
    | some s => rw [hs] at hrel; cases hrel

/-! ### Unknown keys -/

/-- A record without the keys that have no meaning in it. -/
def restrict (names : List String) : Value → Value
  | .table entries => .table (entries.filter fun e => names.contains e.1)
  | v => v

/-- The definitions of servers without the keys that have no meaning in them. -/
def knownServers : Value → Value
  | .table defs => .table (defs.map fun d => (d.1, restrict ServerConfig.keys d.2))
  | v => v

/-- What a file says without the keys that have no meaning. -/
def known (entries : List (String × Value)) : List (String × Value) :=
  (entries.filter fun e => ["annotator", "servers"].contains e.1).map fun e =>
    (e.1, if e.1 = "annotator" then restrict AnnotatorConfig.keys e.2 else knownServers e.2)

/-- A known key is found among the known ones as before. -/
theorem lookup_restrict {name : String} (h : names.contains name = true) :
    (entries.filter fun e => names.contains e.1).lookup name = entries.lookup name :=
  (FiniteMap.lookup_filter names.contains name entries).trans (if_pos h)

/-- Unknown keys of the annotator do not count. -/
theorem annotator?_restrict (v : Value) :
    annotator? (restrict AnnotatorConfig.keys v) = annotator? v := by
  cases v with
  | table entries =>
    simp only [annotator?, restrict, record?, Option.bind_eq_bind, Option.bind_some, field?]
    rw [lookup_restrict (by decide), lookup_restrict (by decide)]
  | _ => rfl

/-- Unknown keys of a server do not count. -/
theorem server?_restrict (v : Value) : server? (restrict ServerConfig.keys v) = server? v := by
  cases v with
  | table entries =>
    simp only [server?, restrict, record?, Option.bind_eq_bind, Option.bind_some, field?]
    rw [lookup_restrict (by decide), lookup_restrict (by decide), lookup_restrict (by decide)]
  | _ => rfl

/-- Unknown keys of any of the servers do not count. -/
theorem servers?_known (v : Value) : servers? (knownServers v) = servers? v := by
  cases v with
  | table defs => simp [servers?, knownServers, List.mapM_map, Function.comp_def, server?_restrict]
  | _ => rfl

/-- What a key with a meaning stands for is kept but for the keys in it. -/
theorem lookup_known {name : String} (h : ["annotator", "servers"].contains name = true) :
    (known entries).lookup name = (entries.lookup name).map fun v =>
      if name = "annotator" then restrict AnnotatorConfig.keys v else knownServers v := by
  rw [known, lookup_map_snd fun name v =>
    if name = "annotator" then restrict AnnotatorConfig.keys v else knownServers v,
    lookup_restrict h]

/-- **Unknown keys change nothing**, at any level. -/
theorem ofTable?_known (entries : List (String × Value)) :
    ofTable? (known entries) = ofTable? entries := by
  have hannotator : field? ((known entries).lookup ·) "annotator" ⟨10000, true⟩ annotator? =
      field? (entries.lookup ·) "annotator" ⟨10000, true⟩ annotator? := by
    unfold field?
    dsimp only
    rw [lookup_known (by decide)]
    cases entries.lookup "annotator" with
    | none => rfl
    | some v => exact annotator?_restrict v
  have hservers : field? ((known entries).lookup ·) "servers" builtInServers servers? =
      field? (entries.lookup ·) "servers" builtInServers servers? := by
    unfold field?
    dsimp only
    rw [lookup_known (by decide)]
    cases entries.lookup "servers" with
    | none => rfl
    | some v => exact servers?_known v
  simp only [ofTable?, hannotator, hservers]

end Config

end AnnotationBridge
