import AnnotationBridge.Proofs.TomlTables
import AnnotationBridge.Proofs.TomlText

/-!
# Lines of a document

What the lines of a document do to the tables that have been read: a header opens a new table, a
line with a key puts a value at the end of the open one.

* `Toml.pair`, `Toml.header`: the lines.
* `Toml.Leads`: lines take a reader from one state to another, whatever follows them.
* `Toml.Table.LeadsTo`: the place of the open table.
* `Toml.Setting`: a key and a value with its text.

Main statements: `Toml.leads_header`, `Toml.leads_settings`, `Toml.ofText?_of_leads`.
-/

namespace AnnotationBridge.Toml

variable {r r' r'' : Reading} {root : Table} {text text' cs rest : List Char} {key : String}
  {path : List String}

/-! ### Reading lines -/

/-- Lines take a reader from one state to another, whatever follows them. -/
def Leads (text : List Char) (r r' : Reading) : Prop :=
  ∀ rounds rest t, lines? rounds r' rest = some t →
    lines? (text.length + rounds) r (text ++ rest) = some t

/-- More rounds than needed change nothing. -/
theorem lines?_mono {rounds rounds' : Nat} {t : Table} (h : lines? rounds r cs = some t)
    (hle : rounds ≤ rounds') : lines? rounds' r cs = some t := by
  induction rounds generalizing rounds' r cs with
  | zero => simp [lines?] at h
  | succ rounds ih =>
    obtain ⟨rounds', rfl⟩ := Nat.exists_eq_succ_of_ne_zero (Nat.ne_zero_of_lt hle)
    cases cs with
    | nil => exact h
    | cons c cs =>
      simp only [lines?, Option.bind_eq_bind, Option.bind_eq_some_iff] at h ⊢
      obtain ⟨⟨r', rest⟩, hline, h⟩ := h
      exact ⟨_, hline, ih h (Nat.le_of_succ_le_succ hle)⟩

/-- No line leads nowhere else. -/
theorem Leads.refl (r : Reading) : Leads [] r r := by
  intro rounds rest t h
  simpa using h

/-- Lines lead on from where the lines above them have led. -/
theorem Leads.append (h : Leads text r r') (h' : Leads text' r' r'') :
    Leads (text ++ text') r r'' := by
  intro rounds rest t hlines
  rw [List.append_assoc, List.length_append, Nat.add_assoc]
  exact h _ _ t (h' _ _ t hlines)

/-- A line that is read leads from the state before it to the one after it. -/
theorem leads_of_line? (hne : text ≠ [])
    (h : ∀ rest, line? r (text ++ rest) = some (r', rest)) : Leads text r r' := by
  intro rounds rest t hlines
  obtain ⟨c, cs, rfl⟩ := List.exists_cons_of_ne_nil hne
  have hfirst : lines? (rounds + 1) r (c :: cs ++ rest) = some t := by
    rw [List.cons_append, lines?, ← List.cons_append, h rest]
    · exact hlines
    · simp
  refine lines?_mono hfirst ?_
  rw [List.length_cons]
  omega

/-- **Lines that lead from nothing to a table are a document with it.** -/
theorem ofText?_of_leads {text : String} {r : Reading} {entries : List (String × Value)}
    (h : Leads text.toList ⟨.empty .header, []⟩ r) (hvalue : r.root.toValue = .table entries)
    (hmark : text.toList.head? ≠ some '\uFEFF') : ofText? text = some entries := by
  have hlines := h 1 [] r.root rfl
  rw [List.append_nil] at hlines
  unfold ofText?
  split
  · rename_i heq
    exact absurd (by rw [heq]; rfl) hmark
  · dsimp only
    rw [hlines]
    simp only [Option.bind_eq_bind, Option.bind_some, hvalue]

/-! ### Keys -/

section Keys

variable {part : String} {bare : List Char} {c : Char}

/-- A bare key ends where a character comes that none has. -/
theorem keyPart?_bare (hbare : ∀ c ∈ bare, isKeyChar c = true) (hne : bare ≠ [])
    (hc : isKeyChar c = false) (rest : List Char) :
    keyPart? (bare ++ c :: rest) = some (String.ofList bare, c :: rest) := by
  have htake : (bare ++ c :: rest).takeWhile isKeyChar = bare := by
    rw [List.takeWhile_append_of_pos hbare, List.takeWhile_cons_of_neg (by simp [hc]),
      List.append_nil]
  have hdrop : (bare ++ c :: rest).dropWhile isKeyChar = c :: rest := by
    rw [List.dropWhile_append_of_pos hbare, List.dropWhile_cons_of_neg (by simp [hc])]
  obtain ⟨d, ds, rfl⟩ := List.exists_cons_of_ne_nil hne
  have hd := hbare d List.mem_cons_self
  unfold keyPart?
  split
  · rename_i heq
    rw [(List.cons.inj heq).1] at hd
    exact absurd hd (by decide)
  · rename_i heq
    rw [(List.cons.inj heq).1] at hd
    exact absurd hd (by decide)
  · simp only [htake, hdrop, if_neg hne]

/-- A key in quotation marks is read whatever follows. -/
theorem keyPart?_quoted (s : String) (rest : List Char) :
    keyPart? (quoted s ++ rest) = some (s, rest) := by
  have htext : quoted s ++ rest = '"' :: (s.toList.flatMap escapeChar ++ '"' :: rest) := by
    simp [quoted]
  rw [htext, keyPart?, basic?_quoted]
  simp

/-- There are no blanks before a bare key. -/
theorem skipBlanks_bare (hbare : ∀ c ∈ bare, isKeyChar c = true) (hne : bare ≠ [])
    (rest : List Char) : skipBlanks (bare ++ rest) = bare ++ rest := by
  obtain ⟨c, cs, rfl⟩ := List.exists_cons_of_ne_nil hne
  have hc := hbare c List.mem_cons_self
  have hblank : (c == ' ' || c == '\t') = false := by
    by_contra hblank
    rw [Bool.not_eq_false, Bool.or_eq_true, beq_iff_eq, beq_iff_eq] at hblank
    obtain rfl | rfl := hblank <;> exact absurd hc (by decide)
  rw [skipBlanks, List.cons_append, List.dropWhile_cons_of_neg (by simp [hblank])]

/-- A key without quotation marks that is no path. -/
theorem keyPath?_bare (hbare : ∀ c ∈ bare, isKeyChar c = true) (hne : bare ≠ [])
    (hc : isKeyChar c = false) (hrest : ∀ rest', skipBlanks (c :: rest) ≠ '.' :: rest') :
    keyPath? (bare ++ c :: rest) = some ([], String.ofList bare, skipBlanks (c :: rest)) := by
  have hpart := keyPart?_bare hbare hne hc rest
  rw [← skipBlanks_bare hbare hne] at hpart
  have hkey : key? (depthLimit - 1) (bare ++ c :: rest) =
      some ([String.ofList bare], skipBlanks (c :: rest)) := by
    rw [show depthLimit - 1 = 78 + 1 from rfl, key?, hpart]
    simp only [Option.bind_eq_bind, Option.bind_some]
  rw [keyPath?, hkey]
  rfl

/-- A key in quotation marks below another one. -/
theorem keyPath?_quoted (hbare : ∀ c ∈ bare, isKeyChar c = true) (hne : bare ≠ []) (s : String)
    (hrest : ∀ rest', skipBlanks rest ≠ '.' :: rest') :
    keyPath? (bare ++ '.' :: (quoted s ++ rest)) =
      some ([String.ofList bare], s, skipBlanks rest) := by
  have hpart : keyPart? (skipBlanks (bare ++ '.' :: (quoted s ++ rest))) =
      some (String.ofList bare, '.' :: (quoted s ++ rest)) := by
    rw [skipBlanks_bare hbare hne]
    exact keyPart?_bare hbare hne (by decide) _
  have hlast : key? 78 (quoted s ++ rest) = some ([s], skipBlanks rest) := by
    have hvisible : skipBlanks (quoted s ++ rest) = quoted s ++ rest := rfl
    rw [show 78 = 77 + 1 from rfl, key?, hvisible, keyPart?_quoted]
    simp only [Option.bind_eq_bind, Option.bind_some]
  have hkey : key? (depthLimit - 1) (bare ++ '.' :: (quoted s ++ rest)) =
      some ([String.ofList bare, s], skipBlanks rest) := by
    rw [show depthLimit - 1 = 78 + 1 from rfl, key?, hpart]
    show (key? 78 (quoted s ++ rest)).map (fun p => (String.ofList bare :: p.1, p.2)) = _
    rw [hlast]
    rfl
  rw [keyPath?, hkey]
  rfl

end Keys

/-! ### A key with its value -/

/-- A line that gives a value to a key. -/
def pair (key value : List Char) : List Char :=
  key ++ ' ' :: '=' :: ' ' :: (value ++ ['\n'])

/-- **A line with a key puts its value into the open table.** -/
theorem leads_pair {bare value : List Char} {v : Value} (hbare : ∀ c ∈ bare, isKeyChar c = true)
    (hne : bare ≠ []) (hvalue : Spells value v)
    (hroot : r.root.descend .path (·.define [] (String.ofList bare) v) r.here = some root) :
    Leads (pair bare value) r ⟨root, r.here⟩ := by
  refine leads_of_line? (by simp [pair]) fun rest => ?_
  have htext : pair bare value ++ rest = bare ++ ' ' :: '=' :: ' ' :: (value ++ '\n' :: rest) := by
    simp [pair]
  have hkey : keyPath? (bare ++ ' ' :: '=' :: ' ' :: (value ++ '\n' :: rest)) =
      some ([], String.ofList bare, '=' :: ' ' :: (value ++ '\n' :: rest)) :=
    keyPath?_bare hbare hne (by decide) (by rintro rest' ⟨⟩)
  have hhead {d : Char} {tail : List Char} (hd : isKeyChar d = false) :
      bare ++ ' ' :: '=' :: ' ' :: (value ++ '\n' :: rest) ≠ d :: tail := by
    obtain ⟨c, cs, rfl⟩ := List.exists_cons_of_ne_nil hne
    intro heq
    rw [← (List.cons.inj heq).1, hbare c List.mem_cons_self] at hd
    cases hd
  unfold line?
  rw [htext, skipBlanks_bare hbare hne]
  split
  · rename_i heq
    exact absurd heq (by simp)
  iterate 5
    rename_i heq
    exact absurd heq (hhead (by decide))
  have hskip : skipBlanks (' ' :: (value ++ '\n' :: rest)) = value ++ '\n' :: rest :=
    hvalue.visible rest
  have hread := hvalue.reads (2 * (' ' :: (value ++ '\n' :: rest)).length + 2) rest
    (by rw [List.length_cons, List.length_append]; omega)
  rw [hkey]
  simp only [Option.bind_eq_bind, Option.bind_some]
  rw [hskip, hread]
  simp only [Option.bind_some]
  rw [hroot]
  rfl

/-! ### Headers -/

/-- A line that opens a table. -/
def header (key : List Char) : List Char :=
  '[' :: (key ++ [']', '\n'])

/-- **A header opens its table.** -/
theorem leads_header {text : List Char} (hopen : text.head? ≠ some '[')
    (hkey : ∀ rest, keyPath? (text ++ ']' :: rest) = some (path, key, ']' :: rest))
    (hroot : r.root.openTable path key = some root) :
    Leads (header text) r ⟨root, path ++ [key]⟩ := by
  refine leads_of_line? (by simp [header]) fun rest => ?_
  have htext : header text ++ rest = '[' :: (text ++ ']' :: '\n' :: rest) := by simp [header]
  have hblanks : skipBlanks ('[' :: (text ++ ']' :: '\n' :: rest)) =
      '[' :: (text ++ ']' :: '\n' :: rest) := rfl
  unfold line?
  rw [htext, hblanks]
  split
  · rename_i heq
    exact absurd heq (by simp)
  iterate 3
    rename_i heq
    exact absurd (List.cons.inj heq).1 (by decide)
  · rename_i heq
    cases text with
    | nil => exact absurd (List.cons.inj (List.cons.inj heq).2).1 (by decide)
    | cons c cs => exact (hopen (congrArg some (List.cons.inj (List.cons.inj heq).2).1)).elim
  · rename_i heq
    obtain rfl := (List.cons.inj heq).2
    rw [hkey]
    simp only [Option.bind_eq_bind, Option.bind_some]
    rw [hroot]
    rfl
  · rename_i hother
    exact (hother _ rfl).elim

/-! ### The open table -/

namespace Table

variable {origin : Origin} {entries : List (String × Entry)} {change : Table → Option Table}
  {s s' : Table} {frame : Table → Table}

/-- An entry with a new key is put behind the others. -/
theorem putEntry_new (entry : Entry) (h : key ∉ entries.map Prod.fst) :
    putEntry key entry entries = entries ++ [(key, entry)] := by
  induction entries with
  | nil => rfl
  | cons e rest ih =>
    rw [List.map_cons, List.mem_cons, not_or] at h
    rw [putEntry, if_neg fun heq => h.1 heq.symm, ih h.2]
    rfl

/-- An entry with the last key takes its place. -/
theorem putEntry_last (entry entry' : Entry) (h : key ∉ entries.map Prod.fst) :
    putEntry key entry' (entries ++ [(key, entry)]) = entries ++ [(key, entry')] := by
  induction entries with
  | nil => simp [putEntry]
  | cons e rest ih =>
    rw [List.map_cons, List.mem_cons, not_or] at h
    rw [List.cons_append, putEntry, if_neg fun heq => h.1 heq.symm, ih h.2]
    rfl

/-- A path leads to the place in a table that is left open in `frame`. -/
def LeadsTo (path : List String) (frame : Table → Table) : Prop :=
  ∀ change s s', change s = some s' → descend .path change path (frame s) = some (frame s')

/-- The empty path leads to the table itself. -/
theorem LeadsTo.here : LeadsTo [] fun s => s :=
  fun _ _ _ h => h

/-- A key leads on to the table that was opened last. -/
theorem LeadsTo.last (hframe : LeadsTo path frame) (h : key ∉ entries.map Prod.fst) :
    LeadsTo (key :: path) fun s => .mk origin (entries ++ [(key, .table (frame s))]) := by
  intro change s s' hchange
  have hfind : (mk origin (entries ++ [(key, Entry.table (frame s))])).find? key =
      some (.table (frame s)) := by
    show List.lookup key (entries ++ _) = _
    rw [List.lookup_append, lookup_eq_none_iff_notMem.2 h]
    simp
  rw [descend, hfind]
  simp only [reduceCtorEq, false_and, if_false]
  rw [hframe change s s' hchange]
  exact congrArg (fun es => some (mk origin es)) (putEntry_last _ _ h)

/-- A new key comes to the end of a table with a header. -/
theorem define_new (v : Value) (h : key ∉ entries.map Prod.fst) :
    define [] key v (.mk .header entries) = some (.mk .header (entries ++ [(key, .value v)])) := by
  have hfind : (mk .header entries).find? key = none := lookup_eq_none_iff_notMem.2 h
  rw [define, descend, hfind]
  exact congrArg (fun es => some (mk .header es)) (putEntry_new _ h)

/-- A new table comes to the end of the one around it. -/
theorem openTable_new (hframe : LeadsTo path frame) (h : key ∉ entries.map Prod.fst) :
    openTable path key (frame (.mk origin entries)) =
      some (frame (.mk origin (entries ++ [(key, .table (empty .header))]))) := by
  have hfind : (mk origin entries).find? key = none := lookup_eq_none_iff_notMem.2 h
  refine hframe _ _ _ ?_
  rw [hfind]
  exact congrArg (fun es => some (mk origin es)) (putEntry_new _ h)

/-- A table with values only. -/
def ofValues (entries : List (String × Value)) : Table :=
  .mk .header (entries.map fun e => (e.1, .value e.2))

/-- A table of values is finished as the table of these values. -/
theorem toValue_ofValues (entries : List (String × Value)) :
    (ofValues entries).toValue = .table entries := by
  rw [ofValues, toValue, entriesToValues_eq, List.map_map]
  exact congrArg Value.table (List.map_id entries)

end Table

/-! ### Settings -/

/-- A key and a value with its text. -/
structure Setting where
  key : String
  text : List Char
  value : Value

namespace Setting

/-- The key needs no quotation marks, and the text is read as the value. -/
structure Proper (s : Setting) : Prop where
  bare : ∀ c ∈ s.key.toList, isKeyChar c = true
  nonempty : s.key.toList ≠ []
  spells : Spells s.text s.value

/-- A setting with a bare key and a text that spells its value can be written. -/
theorem proper {key : String} {text : List Char} {value : Value}
    (hkey : (key.toList.all isKeyChar && !key.toList.isEmpty) = true) (h : Spells text value) :
    Proper ⟨key, text, value⟩ := by
  rw [Bool.and_eq_true, Bool.not_eq_true', List.isEmpty_eq_false_iff] at hkey
  exact ⟨List.all_eq_true.1 hkey.1, hkey.2, h⟩

/-- The entry of a table that a setting makes. -/
def entry (s : Setting) : String × Value :=
  (s.key, s.value)

/-- The lines of settings. -/
def lines (settings : List Setting) : List Char :=
  settings.flatMap fun s => pair s.key.toList s.text

end Setting

/-- **Settings come to the end of the open table**, one by one. -/
theorem leads_settings {frame : Table → Table} (hframe : Table.LeadsTo path frame)
    {before : List (String × Value)} {settings : List Setting}
    (hproper : ∀ s ∈ settings, s.Proper)
    (honce : ((before ++ settings.map Setting.entry).map Prod.fst).Nodup) :
    Leads (Setting.lines settings) ⟨frame (.ofValues before), path⟩
      ⟨frame (.ofValues (before ++ settings.map Setting.entry)), path⟩ := by
  induction settings generalizing before with
  | nil =>
    rw [List.map_nil, List.append_nil]
    exact Leads.refl _
  | cons s settings ih =>
    have hs := hproper s List.mem_cons_self
    have hsplit : before ++ (s :: settings).map Setting.entry =
        (before ++ [s.entry]) ++ settings.map Setting.entry := by simp
    rw [hsplit] at honce ⊢
    refine Leads.append (leads_pair hs.bare hs.nonempty hs.spells ?_)
      (ih (fun s hmem => hproper s (List.mem_cons_of_mem _ hmem)) honce)
    refine hframe _ _ _ ?_
    have hnew : s.key ∉ (before.map fun e => (e.1, Entry.value e.2)).map Prod.fst := by
      have hdistinct := honce
      rw [List.map_append, List.map_append] at hdistinct
      have hbefore := (List.nodup_append.1 (List.nodup_append.1 hdistinct).1).2.2
      rw [List.map_map]
      exact fun hmem => hbefore _ hmem s.key (by simp [Setting.entry]) rfl
    rw [String.ofList_toList, Table.ofValues, Table.define_new s.value hnew, Table.ofValues,
      List.map_append]
    rfl

end AnnotationBridge.Toml
