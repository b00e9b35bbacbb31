import AnnotationBridge.Workspace

/-!
# Which URIs stay in the workspace

A URI is matched against a workspace by the first components of the path that it names. In a URL the
dot segments are resolved while the escapes still stand, and an escaped separator makes one segment
into several components. So a path can have `..` components although its URL has no dot segments,
and then its first components say nothing about where it leads.

* `Path.resolved`: where a path leads. `Path.resolved_eq_components`: a path without dots leads
  where its components say.
* `Workspace.Encloses`: the path leads to the root of the workspace or below it.
* `FileUrl.hidesStepUp`, `FileUrl.pieces`: the pieces of a URI, and those that hide a step up behind
  an escaped separator.
* `FileUrl.resolved_of_path?`: if no piece does, the path of a URI has no dots.
* `Workspace.resourceFor_iff_encloses`: such a URI is accepted exactly if its path leads into the
  workspace.
* `Workspace.escaped_separator_leaves_workspace`: a URI that is accepted and leads out of it.
-/

namespace AnnotationBridge

/-! ### Pieces of a path -/

/-- The pieces of two texts with a separator between them. -/
theorem splitAtByte_append (sep : UInt8) (front back : List UInt8) :
    splitAtByte sep (front ++ sep :: back) = splitAtByte sep front ++ splitAtByte sep back := by
  induction front with
  | nil => exact splitAtByte_sep sep back
  | cons b front ih =>
    rw [List.cons_append, splitAtByte, splitAtByte, ih]
    split
    · rfl
    · cases hfront : splitAtByte sep front with
      | nil => exact absurd hfront (splitAtByte_ne_nil sep front)
      | cons piece pieces => rfl

/-- The pieces of a text and of parts that each follow a separator. -/
theorem splitAtByte_append_flatMap {α : Type} (sep : UInt8) (front : List UInt8) (parts : List α)
    (bytes : α → List UInt8) :
    splitAtByte sep (front ++ parts.flatMap fun part => sep :: bytes part) =
      splitAtByte sep front ++ parts.flatMap fun part => splitAtByte sep (bytes part) := by
  induction parts generalizing front with
  | nil => rw [List.flatMap_nil, List.flatMap_nil, List.append_nil, List.append_nil]
  | cons part parts ih =>
    rw [List.flatMap_cons, List.flatMap_cons, List.cons_append, splitAtByte_append, ih]

namespace Path

variable {p : Path} {c : Component} {done cs : List Component}

/-! ### Where a path leads -/

/-- One component further. The components so far come last first. Above the root is the root. -/
def follow (done : List Component) : Component → List Component
  | .current => done
  | .parent =>
    match done with
    | .name _ :: before => before
    | .root :: _ => done
    | _ => .parent :: done
  | c => c :: done

/-- The components of a path after its `.` and `..` have been resolved. -/
def resolved (p : Path) : List Component :=
  (p.components.foldl follow []).reverse

/-- Without dots each component leads one further down. -/
theorem foldl_follow (hcs : ∀ c ∈ cs, c ≠ .current ∧ c ≠ .parent) :
    cs.foldl follow done = cs.reverse ++ done := by
  induction cs generalizing done with
  | nil => rfl
  | cons c cs ih =>
    obtain ⟨hc, hrest⟩ := List.forall_mem_cons.1 hcs
    have hfollow : follow done c = c :: done := by
      cases c with
      | current => exact absurd rfl hc.1
      | parent => exact absurd rfl hc.2
      | root | name bytes => rfl
    rw [List.foldl_cons, hfollow, ih hrest, List.reverse_cons, List.append_assoc,
      List.singleton_append]

/-- A path without dots leads where its components say. -/
theorem resolved_eq_components (hp : ∀ c ∈ p.components, c ≠ .current ∧ c ≠ .parent) :
    p.resolved = p.components := by
  rw [resolved, foldl_follow hp, List.append_nil, List.reverse_reverse]

/-- A piece stands for the component `..` if it consists of two dots, and never for `.`. -/
theorem Component.ofPiece_ne {piece : List UInt8} (hpiece : piece ≠ [dot, dot])
    (hc : ofPiece piece = some c) : c ≠ .current ∧ c ≠ .parent := by
  unfold ofPiece at hc
  rw [if_neg hpiece] at hc
  split at hc
  · cases hc
  · obtain rfl := Option.some.inj hc
    exact ⟨Component.noConfusion, Component.noConfusion⟩

/-- An absolute path of which no piece consists of two dots has no dots. -/
theorem components_of_isAbsolute (habs : p.isAbsolute = true)
    (hp : [dot, dot] ∉ splitAtByte slash p.bytes) (hc : c ∈ p.components) :
    c ≠ .current ∧ c ≠ .parent := by
  rw [components, leadComponent, if_pos habs] at hc
  rcases List.mem_append.1 hc with hc | hc
  · obtain rfl := List.mem_singleton.1 hc
    exact ⟨Component.noConfusion, Component.noConfusion⟩
  · obtain ⟨piece, hpiece, hof⟩ := List.mem_filterMap.1 hc
    exact Component.ofPiece_ne (fun heq => hp (heq ▸ hpiece)) hof

end Path

namespace FileUrl

variable {segment : List Char} {segments done : List (List Char)} {path : Path} {uri : Uri}

/-! ### Segments that are kept -/

/-- Segments after dot segments were resolved: each is empty or was read and is not a step up. -/
theorem mem_resolveDots (h : segment ∈ resolveDots done segments) :
    segment ∈ done ∨ segment = [] ∨ segment ∈ segments ∧ isDoubleDot segment = false := by
  induction segments generalizing done with
  | nil => exact .inl (List.mem_reverse.1 h)
  | cons first rest ih =>
    have hrest : ∀ done', (segment ∈ done' → segment ∈ done ∨ segment = [] ∨
        segment = first ∧ isDoubleDot segment = false) → segment ∈ resolveDots done' rest →
        segment ∈ done ∨ segment = [] ∨
          segment ∈ first :: rest ∧ isDoubleDot segment = false := by
      intro done' hdone h
      rcases ih h with h | h | ⟨h, hnot⟩
      · rcases hdone h with h | h | ⟨rfl, hnot⟩
        · exact .inl h
        · exact .inr (.inl h)
        · exact .inr (.inr ⟨List.mem_cons_self, hnot⟩)
      · exact .inr (.inl h)
      · exact .inr (.inr ⟨List.mem_cons_of_mem first h, hnot⟩)
    have hup : segment ∈ stepUp done → segment ∈ done := by
      unfold stepUp
      intro h
      split at h
      · exact h
      · split at h
        · exact h
        · exact List.mem_cons_of_mem _ h
    rw [resolveDots] at h
    split at h
    · refine hrest _ (fun hmem => ?_) h
      split at hmem
      · rcases List.mem_cons.1 hmem with rfl | hmem
        · exact .inr (.inl rfl)
        · exact .inl (hup hmem)
      · exact .inl (hup hmem)
    · split at h
      · refine hrest _ (fun hmem => ?_) h
        split at hmem
        · rcases List.mem_cons.1 hmem with rfl | hmem
          · exact .inr (.inl rfl)
          · exact .inl hmem
        · exact .inl hmem
      · refine hrest _ (fun hmem => ?_) h
        rcases List.mem_cons.1 hmem with rfl | hmem
        · exact .inr (.inr ⟨rfl, Bool.eq_false_iff.2 (by assumption)⟩)
        · exact .inl hmem

/-- The segments of a path are empty or were read, and are no steps up. -/
theorem mem_normalSegments (h : segment ∈ normalSegments segments) :
    segment = [] ∨ segment ∈ segments ∧ isDoubleDot segment = false := by
  unfold normalSegments at h
  split at h
  · exact .inl (List.mem_singleton.1 h)
  · rcases mem_resolveDots ((List.dropWhile_suffix _).subset h) with hnil | h
    · cases hnil
    · exact h

/-- A path has a segment, which may be empty. -/
theorem normalSegments_ne_nil (segments : List (List Char)) : normalSegments segments ≠ [] := by
  unfold normalSegments
  split
  · exact List.cons_ne_nil _ _
  · assumption

/-! ### Paths of segments -/

/-- Whether a segment is no step up itself but has one behind an escaped separator. -/
def hidesStepUp (segment : List Char) : Bool :=
  !isDoubleDot segment && (splitAtByte slash (Percent.decode segment)).contains [dot, dot]

/-- The bytes of a path are those of its segments, and possibly one more separator. -/
theorem pathBytes_cases (segments : List (List Char)) :
    pathBytes segments = (segments.flatMap fun segment => slash :: Percent.decode segment) ∨
      pathBytes segments =
        (segments.flatMap fun segment => slash :: Percent.decode segment) ++ [slash] := by
  unfold pathBytes
  dsimp only
  split
  · split
    · exact .inr rfl
    · exact .inl rfl
  · exact .inl rfl

/-- The pieces of the path of some segments are the pieces of the segments, and empty ones. -/
theorem mem_splitAtByte_pathBytes {piece : List UInt8}
    (h : piece ∈ splitAtByte slash (pathBytes segments)) :
    piece = [] ∨ ∃ segment ∈ segments, piece ∈ splitAtByte slash (Percent.decode segment) := by
  have hflat : ∀ {piece : List UInt8},
      piece ∈ splitAtByte slash (segments.flatMap fun segment => slash :: Percent.decode segment) →
      piece = [] ∨ ∃ segment ∈ segments, piece ∈ splitAtByte slash (Percent.decode segment) := by
    intro piece h
    rw [← List.nil_append (segments.flatMap _), splitAtByte_append_flatMap] at h
    rcases List.mem_append.1 h with h | h
    · exact .inl (List.mem_singleton.1 h)
    · exact .inr (List.mem_flatMap.1 h)
  rcases pathBytes_cases segments with heq | heq <;> rw [heq] at h
  · exact hflat h
  · rw [splitAtByte_append] at h
    rcases List.mem_append.1 h with h | h
    · exact hflat h
    · exact .inl (List.mem_singleton.1 h)

/-- The path of segments is absolute. -/
theorem isAbsolute_pathOfSegments (segments : List (List Char)) :
    (pathOfSegments segments).isAbsolute = true := by
  obtain ⟨first, rest, heq⟩ := List.exists_cons_of_ne_nil (normalSegments_ne_nil segments)
  unfold pathOfSegments Path.isAbsolute
  rw [heq]
  rcases pathBytes_cases (first :: rest) with hbytes | hbytes <;> rw [hbytes] <;> rfl

/-- **The path of segments that hide no step up has no dots.** -/
theorem resolved_pathOfSegments (plain : ∀ segment ∈ segments, hidesStepUp segment = false) :
    (pathOfSegments segments).resolved = (pathOfSegments segments).components := by
  refine Path.resolved_eq_components fun c hc => ?_
  refine Path.components_of_isAbsolute (isAbsolute_pathOfSegments segments) (fun hmem => ?_) hc
  rcases mem_splitAtByte_pathBytes hmem with hnil | ⟨segment, hsegment, hpiece⟩
  · cases hnil
  · rcases mem_normalSegments hsegment with rfl | ⟨hread, hnot⟩
    · cases List.mem_singleton.1 hpiece
    · have hhides : hidesStepUp segment = true := by
        rw [hidesStepUp, hnot, List.contains_iff_mem.2 hpiece]
        rfl
      cases hhides.symm.trans (plain segment hread)

/-! ### Pieces of a URI -/

/-- What stands between the separators of a URI, from its scheme to its query. -/
def pieces (uri : Uri) : List (List Char) :=
  match Reference.scheme? uri.text.toList with
  | none => []
  | some (_, rest) =>
    Reference.splitAtChar '/' (Reference.cutAt (fun c => c == '?' || c == '#') rest).1

/-- A text has a piece, which may be empty. -/
theorem splitAtChar_ne_nil (sep : Char) (cs : List Char) : Reference.splitAtChar sep cs ≠ [] := by
  fun_cases Reference.splitAtChar sep cs <;> simp_all

/-- The pieces of two texts with a separator between them. -/
theorem splitAtChar_append (sep : Char) (front back : List Char) :
    Reference.splitAtChar sep (front ++ sep :: back) =
      Reference.splitAtChar sep front ++ Reference.splitAtChar sep back := by
  induction front with
  | nil => simp [Reference.splitAtChar]
  | cons c front ih =>
    rw [List.cons_append, Reference.splitAtChar, Reference.splitAtChar, ih]
    split
    · rfl
    · cases hfront : Reference.splitAtChar sep front with
      | nil => exact absurd hfront (splitAtChar_ne_nil sep front)
      | cons piece pieces => rfl

/-- The pieces of a text after its first separator are pieces of the text. Without a separator there
is only an empty one. -/
theorem mem_splitAtChar_tail {sep : Char} {cs : List Char}
    (h : segment ∈ Reference.splitAtChar sep (Reference.cutAt (· == sep) cs).2.tail) :
    segment = [] ∨ segment ∈ Reference.splitAtChar sep cs := by
  cases hback : (Reference.cutAt (· == sep) cs).2 with
  | nil =>
    rw [hback] at h
    exact .inl (List.mem_singleton.1 h)
  | cons c back =>
    have hc : c = sep := beq_iff_eq.1 (Reference.stop_of_cutAt (· == sep) hback)
    rw [hback, List.tail_cons] at h
    rw [← Reference.cutAt_append (· == sep) cs, hback, hc, splitAtChar_append]
    exact .inr (List.mem_append_right _ h)

/-- The path of a `file` URL is that of some of its pieces, and of empty ones. -/
theorem exists_segments_of_pathAfterScheme? {cs : List Char}
    (h : pathAfterScheme? cs = some path) :
    ∃ segments, path = pathOfSegments segments ∧
      ∀ segment ∈ segments, segment = [] ∨ segment ∈ Reference.splitAtChar '/' cs := by
  unfold pathAfterScheme? at h
  split at h
  · rename_i rest
    have hpieces : Reference.splitAtChar '/' ('/' :: '/' :: rest) =
        [] :: [] :: Reference.splitAtChar '/' rest := by
      simp [Reference.splitAtChar]
    rw [hpieces]
    have hpath : ∀ segment ∈ Reference.splitAtChar '/' (Reference.cutAt (· == '/') rest).2.tail,
        segment = [] ∨ segment ∈ [] :: [] :: Reference.splitAtChar '/' rest := by
      intro segment hmem
      rcases mem_splitAtChar_tail hmem with hnil | hmem
      · exact .inl hnil
      · exact .inr (List.mem_cons_of_mem _ (List.mem_cons_of_mem _ hmem))
    dsimp only at h
    split at h
    · refine ⟨_, (Option.some.inj h).symm, fun segment hmem => ?_⟩
      exact .inr (List.mem_cons_of_mem _ (List.mem_cons_of_mem _ hmem))
    · split at h
      · exact ⟨_, (Option.some.inj h).symm, hpath⟩
      · cases h
      · split at h
        · exact ⟨_, (Option.some.inj h).symm, hpath⟩
        · cases h
  · rename_i rest _
    refine ⟨_, (Option.some.inj h).symm, fun segment hmem => .inr ?_⟩
    have hpieces : Reference.splitAtChar '/' ('/' :: rest) =
        [] :: Reference.splitAtChar '/' rest := by
      simp [Reference.splitAtChar]
    rw [hpieces]
    exact List.mem_cons_of_mem _ hmem
  · exact ⟨_, (Option.some.inj h).symm, fun segment hmem => .inr hmem⟩

/-- **The path of a URI of which no piece hides a step up has no dots.** -/
theorem resolved_of_path? (h : path? uri = some path)
    (plain : ∀ piece ∈ pieces uri, hidesStepUp piece = false) :
    path.resolved = path.components := by
  unfold path? at h
  unfold pieces at plain
  split at h
  · cases h
  · rename_i scheme rest hscheme
    rw [hscheme] at plain
    split at h
    · obtain ⟨segments, rfl, hsegments⟩ := exists_segments_of_pathAfterScheme? h
      refine resolved_pathOfSegments fun segment hmem => ?_
      rcases hsegments segment hmem with rfl | hmem
      · rfl
      · exact plain segment hmem
    · cases h

end FileUrl

namespace Workspace

variable {path : Path}

/-- Whether a path leads to the root or below it. -/
def Encloses (w : Workspace) (path : Path) : Prop :=
  w.root.components <+: path.resolved

/-- It can be decided whether a workspace encloses a path. -/
instance (w : Workspace) (path : Path) : Decidable (w.Encloses path) :=
  inferInstanceAs (Decidable (w.root.components <+: path.resolved))

/-- What becomes of a URI that names a file. -/
theorem resourceFor_of_path? {uri : Uri} (w : Workspace) (h : FileUrl.path? uri = some path) :
    w.resourceFor uri =
      if w.root.isUnder path then .ok path else .error (.outsideWorkspace uri.text) := by
  rw [resourceFor, h]

/-- A resource is the path that its URI names. -/
theorem path?_of_resourceFor {w : Workspace} {uri : Uri} (h : w.resourceFor uri = .ok path) :
    FileUrl.path? uri = some path := by
  unfold resourceFor at h
  split at h
  · cases h
  · split at h
    · cases h
      assumption
    · cases h

/-- The path of a URI of which no piece hides a step up is under the root exactly if it leads
there. -/
theorem isUnder_iff_encloses {w : Workspace} {uri : Uri} (hpath : FileUrl.path? uri = some path)
    (plain : ∀ piece ∈ FileUrl.pieces uri, FileUrl.hidesStepUp piece = false) :
    w.root.isUnder path = true ↔ w.Encloses path := by
  rw [Encloses, FileUrl.resolved_of_path? hpath plain]
  exact Path.isUnder_iff

/-- **A URI of which no piece hides a step up is accepted exactly if it names a file whose path
leads into the workspace**, whatever dot segments and other escapes it has, and rejected as outside
the workspace if the path leads elsewhere. -/
theorem resourceFor_iff_encloses (w : Workspace) (uri : Uri)
    (plain : ∀ piece ∈ FileUrl.pieces uri, FileUrl.hidesStepUp piece = false) (path : Path) :
    (w.resourceFor uri = .ok path ↔ FileUrl.path? uri = some path ∧ w.Encloses path) ∧
      (FileUrl.path? uri = some path → ¬ w.Encloses path →
        w.resourceFor uri = .error (.outsideWorkspace uri.text)) := by
  refine ⟨⟨fun hok => ?_, fun ⟨hpath, hin⟩ => ?_⟩, fun hpath hout => ?_⟩
  · have hpath := path?_of_resourceFor hok
    exact ⟨hpath, (isUnder_iff_encloses hpath plain).1 (isUnder_of_resourceFor hok)⟩
  · rw [w.resourceFor_of_path? hpath, if_pos ((isUnder_iff_encloses hpath plain).2 hin)]
  · have hnot := fun hunder => hout ((isUnder_iff_encloses hpath plain).1 hunder)
    rw [w.resourceFor_of_path? hpath, if_neg hnot]

namespace Sample

/-- A workspace. -/
def demo : Workspace :=
  ⟨.ofString "/projects/demo"⟩

/-- A URI whose escaped separators keep its `..` from being dot segments. -/
def escapedSeparator : Uri :=
  ⟨"file:///projects/demo/..%2F..%2Fetc/passwd", by decide⟩

/-- A URI with dot segments, plain and escaped, that stays in the workspace; the escape of the
escape of a separator is part of a name. -/
def dotSegments : Uri :=
  ⟨"file:///projects/demo/src/%2e%2E/..%252Fx/./a%20b?q", by decide⟩

/-- A URI with escaped dot segments that leaves the workspace. -/
def escapedDots : Uri :=
  ⟨"file:///projects/demo/%2e./.%2E/etc/passwd", by decide⟩

end Sample

/-- A URI that leads out of the workspace is accepted: the root has no dots and is absolute, the
path begins with its components, and two steps up lead to another directory. -/
theorem escaped_separator_leaves_workspace :
    Sample.demo.root.isAbsolute = true ∧
      (∀ c ∈ Sample.demo.root.components, c ≠ .current ∧ c ≠ .parent) ∧
      Sample.demo.resourceFor Sample.escapedSeparator =
        .ok (.ofString "/projects/demo/../../etc/passwd") ∧
      (Path.ofString "/projects/demo/../../etc/passwd").resolved =
        (Path.ofString "/etc/passwd").components ∧
      ¬ Sample.demo.Encloses (.ofString "/projects/demo/../../etc/passwd") := by
  refine ⟨rfl, by decide, rfl, rfl, by decide⟩

/-- Dot segments and escapes that hide no step up: one URI is accepted, the other one rejected. -/
theorem resourceFor_iff_encloses_dot_segments :
    Sample.demo.resourceFor Sample.dotSegments = .ok (.ofString "/projects/demo/..%2Fx/a b") ∧
      Sample.demo.resourceFor Sample.escapedDots =
        .error (.outsideWorkspace Sample.escapedDots.text) := by
  constructor
  · refine (resourceFor_iff_encloses Sample.demo Sample.dotSegments (by decide) _).1.2 ⟨?_, ?_⟩
    · decide
    · decide
  · refine (resourceFor_iff_encloses Sample.demo Sample.escapedDots (by decide)
      (.ofString "/etc/passwd")).2 ?_ ?_
    · decide
    · decide

end Workspace

end AnnotationBridge
