import AnnotationBridge.Proofs.FileUri

/-!
# What follows a root, and the way back

A path below a root is the root and what follows it, and a URI is a third spelling of the same
components. Each of the three can be found from the others, for names of any bytes: only what stands
for no component, such as a doubled separator, is lost on the way.

* `Path.filterMap_trimStart`, `Path.filterMap_trimEnd`, `Path.filterMap_dropComponents`: what
  trimming and dropping do to components.
* `Path.components_join`: the components of a joined path.
* `Path.components_join_of_relativeTo`: what follows a base, joined to the base again.
* `Workspace.fileUri_round_trip`: from a path to its URI, to the resource that the URI names, to the
  path relative to the root, and back.
-/

namespace AnnotationBridge

namespace Path

variable {p base rel : Path} {pieces : List (List UInt8)}

/-! ### Components of pieces -/

/-- Trimming at the start takes no component away. -/
theorem filterMap_trimStart (pieces : List (List UInt8)) :
    (trimStart pieces).filterMap Component.ofPiece = pieces.filterMap Component.ofPiece := by
  induction pieces with
  | nil => rfl
  | cons piece pieces ih =>
    unfold trimStart at ih ⊢
    rw [List.dropWhile_cons]
    cases hpiece : Component.ofPiece piece with
    | none => simp [hpiece, ih]
    | some part => simp

/-- Trimming at the end takes no component away. -/
theorem filterMap_trimEnd (pieces : List (List UInt8)) :
    (trimEnd pieces).filterMap Component.ofPiece = pieces.filterMap Component.ofPiece := by
  simp [trimEnd, List.filterMap_reverse, filterMap_trimStart]

/-- Components are dropped one by one. -/
theorem filterMap_dropComponents (n : Nat) (pieces : List (List UInt8)) :
    (dropComponents n pieces).filterMap Component.ofPiece =
      (pieces.filterMap Component.ofPiece).drop n := by
  fun_induction dropComponents n pieces with
  | case1 pieces => rfl
  | case2 n => rfl
  | case3 n piece rest hsome ih =>
    obtain ⟨part, hpart⟩ := Option.isSome_iff_exists.1 hsome
    rw [ih, List.filterMap_cons, hpart, List.drop_succ_cons]
  | case4 n piece rest hnone ih =>
    rw [Bool.not_eq_true, Option.isSome_eq_false_iff, Option.isNone_iff_eq_none] at hnone
    rw [ih, List.filterMap_cons, hnone]

/-- The components of pieces that were put together are those of the pieces. -/
theorem filterMap_splitAtByte_joinPieces (h : ∀ piece ∈ pieces, slash ∉ piece) :
    (splitAtByte slash (joinPieces pieces)).filterMap Component.ofPiece =
      pieces.filterMap Component.ofPiece := by
  by_cases hne : pieces = []
  · subst hne
    rfl
  · rw [splitAtByte_joinPieces hne h]

/-- Trimming at the start adds no piece. -/
theorem mem_of_mem_trimStart {piece : List UInt8} (h : piece ∈ trimStart pieces) :
    piece ∈ pieces :=
  (List.dropWhile_suffix _).subset h

/-- Trimming at the end leaves the start. -/
theorem prefix_trimEnd (pieces : List (List UInt8)) : trimEnd pieces <+: pieces := by
  have hsuffix : trimStart pieces.reverse <:+ pieces.reverse := List.dropWhile_suffix _
  simpa [trimEnd] using List.reverse_prefix.2 hsuffix

/-- Dropping components adds no piece. -/
theorem mem_of_mem_dropComponents {n : Nat} {piece : List UInt8}
    (h : piece ∈ dropComponents n pieces) : piece ∈ pieces := by
  fun_induction dropComponents n pieces with
  | case1 => exact h
  | case2 => exact h
  | case3 n first rest _ ih => exact List.mem_cons_of_mem first (ih h)
  | case4 n first rest _ ih => exact List.mem_cons_of_mem first (ih h)

/-- Trimmed pieces do not start with an empty one. -/
theorem head?_trimEnd_trimStart (pieces : List (List UInt8)) :
    (trimEnd (trimStart pieces)).head? ≠ some [] := by
  intro h
  obtain ⟨rest, heq⟩ := List.head?_eq_some_iff.1 h
  obtain ⟨trimmedOff, hpieces⟩ := heq ▸ prefix_trimEnd (trimStart pieces)
  have hhead := List.head?_dropWhile_not
    (fun piece : List UInt8 => (Component.ofPiece piece).isNone) pieces
  rw [← trimStart, ← hpieces] at hhead
  exact absurd hhead (by simp [Component.ofPiece])

/-! ### Joined paths -/

/-- The components of an absolute path that is spelled by pieces. -/
theorem components_slash_joinPieces (h : ∀ piece ∈ pieces, slash ∉ piece) :
    (Path.mk (slash :: joinPieces pieces)).components =
      .root :: pieces.filterMap Component.ofPiece := by
  rw [components_of_absolute (by rfl), splitAtByte_sep, List.filterMap_cons,
    ← filterMap_splitAtByte_joinPieces h]
  rfl

/-- Pieces of which the first is not empty spell a relative path. -/
theorem isAbsolute_joinPieces (h : ∀ piece ∈ pieces, slash ∉ piece)
    (hhead : pieces.head? ≠ some []) : (Path.mk (joinPieces pieces)).isAbsolute = false := by
  rw [Bool.eq_false_iff]
  intro habs
  obtain ⟨rest, hbytes⟩ := List.head?_eq_some_iff.1 (of_decide_eq_true habs)
  have hne : pieces ≠ [] := by
    rintro rfl
    cases hbytes
  have hsplit := splitAtByte_joinPieces hne h
  change joinPieces pieces = slash :: rest at hbytes
  rw [hbytes, splitAtByte_sep] at hsplit
  exact hhead (by rw [← hsplit, List.head?_cons])

/-- Only absolute paths have the root among their components. -/
theorem isAbsolute_of_root_mem (h : .root ∈ p.components) : p.isAbsolute = true := by
  rcases List.mem_append.1 h with hlead | hpart
  · unfold leadComponent at hlead
    split at hlead
    · assumption
    · split at hlead
      · cases List.mem_singleton.1 hlead
      · cases hlead
  · obtain ⟨piece, -, hof⟩ := List.mem_filterMap.1 hpart
    unfold Component.ofPiece at hof
    split at hof
    · cases hof
    · split at hof <;> cases hof

/-- **The components of a relative path follow those of the base.** -/
theorem components_join (hbase : base.isAbsolute = true) (hrel : rel.isAbsolute = false) :
    (base.join rel).components =
      base.components ++ (splitAtByte slash rel.bytes).filterMap Component.ofPiece := by
  obtain ⟨tail, hbytes⟩ := List.head?_eq_some_iff.1 (of_decide_eq_true hbase)
  have happend : ∀ more, (Path.mk (base.bytes ++ more)).isAbsolute = true := by
    intro more
    rw [hbytes]
    rfl
  rw [join, if_neg (by simp [hrel]), components_of_absolute hbase]
  split
  · rename_i hends
    -- the base ends in a separator, which is not doubled
    rw [hbytes] at hends
    obtain ⟨front, hfront⟩ := List.getLast?_eq_some_iff.1 (hends.resolve_left (by simp))
    rw [components_of_absolute (happend _), hbytes, hfront, List.append_assoc,
      List.singleton_append, splitAtByte_append, splitAtByte_append, List.filterMap_append,
      List.filterMap_append]
    simp [splitAtByte, Component.ofPiece]
  · rw [components_of_absolute (happend _), splitAtByte_append, List.filterMap_append,
      List.cons_append]

/-! ### What follows a base -/

/-- There is something that follows exactly if the path is under the base. -/
theorem exists_relativeTo (h : base.components <+: p.components) :
    ∃ rel, base.relativeTo p = some rel := by
  rw [relativeTo, if_pos (isUnder_iff.2 h)]
  exact ⟨_, rfl⟩

/-- What follows a base in an absolute path: all of it if the base is empty, and else the pieces
after those of the base, which is absolute then. -/
theorem relativeTo_cases (hp : p.isAbsolute = true) (h : base.relativeTo p = some rel) :
    rel = p.trimmed ∨ base.isAbsolute = true ∧ base.components <+: p.components ∧
      rel = ⟨joinPieces (trimEnd (trimStart
        (dropComponents (base.components.length - 1) (splitAtByte slash p.bytes))))⟩ := by
  unfold relativeTo at h
  split at h
  · rename_i hunder
    have hprefix := isUnder_iff.1 hunder
    obtain rfl := Option.some.inj h
    cases hbase : base.components with
    | nil => exact .inl rfl
    | cons first later =>
      rw [hbase, components_of_absolute hp] at hprefix
      obtain ⟨rfl, -⟩ := List.cons_prefix_cons.1 hprefix
      have habs : base.isAbsolute = true :=
        isAbsolute_of_root_mem (hbase ▸ List.mem_cons_self)
      rw [← components_of_absolute hp] at hprefix
      refine .inr ⟨habs, hprefix, ?_⟩
      rw [leadComponent, if_pos hp]
      rfl
  · cases h

/-- Trimming an absolute path takes no component away. -/
theorem components_trimmed (hp : p.isAbsolute = true) :
    p.trimmed.isAbsolute = true ∧ p.trimmed.components = p.components := by
  obtain ⟨tail, hbytes⟩ := List.head?_eq_some_iff.1 (of_decide_eq_true hp)
  have htrimmed : p.trimmed = ⟨slash :: joinPieces (trimEnd (splitAtByte slash tail))⟩ := by
    rw [trimmed, leadComponent, if_pos hp, hbytes, splitAtByte_sep]
    rfl
  have hsep : ∀ piece ∈ trimEnd (splitAtByte slash tail), slash ∉ piece := by
    intro piece hpiece
    exact not_mem_of_mem_splitAtByte ((prefix_trimEnd _).subset hpiece)
  refine ⟨by rw [htrimmed]; rfl, ?_⟩
  rw [htrimmed, components_slash_joinPieces hsep, filterMap_trimEnd, components_of_absolute hp,
    hbytes, splitAtByte_sep]
  rfl

/-- **What follows a base in a path, joined to the base again, is the path.** -/
theorem components_join_of_relativeTo (hp : p.isAbsolute = true)
    (h : base.relativeTo p = some rel) : (base.join rel).components = p.components := by
  rcases relativeTo_cases hp h with rfl | ⟨hbase, hprefix, rfl⟩
  · obtain ⟨habs, hcomponents⟩ := components_trimmed hp
    rw [join_absolute base habs, hcomponents]
  · have hpieces : ∀ piece ∈ trimEnd (trimStart
        (dropComponents (base.components.length - 1) (splitAtByte slash p.bytes))),
        slash ∉ piece := by
      intro piece hpiece
      have hmem := mem_of_mem_dropComponents (mem_of_mem_trimStart
        ((prefix_trimEnd _).subset hpiece))
      exact not_mem_of_mem_splitAtByte hmem
    have hlength : base.components.length - 1 + 1 = base.components.length := by
      rw [components_of_absolute hbase]
      rfl
    calc (base.join _).components
        = base.components ++ ((splitAtByte slash p.bytes).filterMap Component.ofPiece).drop
            (base.components.length - 1) := by
          rw [components_join hbase (isAbsolute_joinPieces hpieces (head?_trimEnd_trimStart _)),
            filterMap_splitAtByte_joinPieces hpieces, filterMap_trimEnd, filterMap_trimStart,
            filterMap_dropComponents]
      _ = base.components ++ p.components.drop base.components.length := by
          rw [components_of_absolute hp, ← hlength, List.drop_succ_cons, hlength]
      _ = p.components := List.prefix_iff_eq_append.1 hprefix

end Path

/-! ### From a path to its URI and back -/

/-- The URI of a path depends on its components only. -/
theorem fileUri_eq_ok_of_components {p p' : Path} {u : Uri} (habs : p.isAbsolute = true)
    (habs' : p'.isAbsolute = true) (hsame : p'.components = p.components)
    (h : fileUri p = .ok u) : fileUri p' = .ok u := by
  have htext : FileUrl.ofPath p' = FileUrl.ofPath p := by
    unfold FileUrl.ofPath
    rw [hsame]
  unfold fileUri at h ⊢
  rw [if_pos habs] at h
  rw [if_pos habs', htext]
  split at h
  · exact h
  · cases h

/-- Paths are told apart by their URIs. -/
theorem fileUri_eq_ok_iff {p p' : Path} {u : Uri} (hp : p.Canonical) (hp' : p'.Canonical)
    (h : fileUri p = .ok u) : fileUri p' = .ok u ↔ p'.components = p.components := by
  constructor
  · intro h'
    obtain ⟨q, hpath, hcomponents⟩ := FileUrl.components_of_fileUri hp h
    obtain ⟨q', hpath', hcomponents'⟩ := FileUrl.components_of_fileUri hp' h'
    obtain rfl := Option.some.inj (hpath.symm.trans hpath')
    exact hcomponents'.symm.trans hcomponents
  · intro hsame
    exact fileUri_eq_ok_of_components hp.absolute hp'.absolute hsame h

namespace Workspace

/-- **From a path to its URI and back.** Of an absolute path without `..`, whatever bytes its names
have, the URI names a resource with the components of the path if it is at or below the root of the
workspace, and one outside the workspace if it is not. In the first case there is a path of the
resource relative to the root, which leads from the root to the components again. Paths with other
components have other URIs. -/
theorem fileUri_round_trip {p : Path} {u : Uri} (hp : p.Canonical) (h : fileUri p = .ok u) :
    (∀ w : Workspace,
      (w.root.components <+: p.components → ∃ q rel, w.resourceFor u = .ok q ∧
        q.components = p.components ∧ w.relativePath q = some rel ∧
        (w.resolve rel).components = p.components) ∧
      (¬ w.root.components <+: p.components →
        w.resourceFor u = .error (.outsideWorkspace u.text))) ∧
    ∀ p' : Path, p'.Canonical → (fileUri p' = .ok u ↔ p'.components = p.components) := by
  obtain ⟨q, hpath, hcomponents⟩ := FileUrl.components_of_fileUri hp h
  refine ⟨fun w => ⟨?_, ?_⟩, fun p' hp' => fileUri_eq_ok_iff hp hp' h⟩
  · intro hin
    rw [← hcomponents] at hin
    have habs : q.isAbsolute = true := by
      apply Path.isAbsolute_of_root_mem
      rw [hcomponents, Path.components_of_absolute hp.absolute]
      exact List.mem_cons_self
    obtain ⟨rel, hrel⟩ := Path.exists_relativeTo hin
    refine ⟨q, rel, ?_, hcomponents, hrel, ?_⟩
    · rw [w.resourceFor_of_path? hpath, if_pos (Path.isUnder_iff.2 hin)]
    · exact (Path.components_join_of_relativeTo habs hrel).trans hcomponents
  · intro hout
    rw [← hcomponents, ← Path.isUnder_iff] at hout
    rw [w.resourceFor_of_path? hpath, if_neg hout]

namespace Sample

/-- A path with escapes, a drive letter, marks of URIs and bytes that are no text. -/
def oddPath : Path :=
  ⟨(Path.ofString "/projects/demo/a b/%2e%2e/C:/#?\\").bytes ++ [0xFF, 0x09]⟩

/-- Its URI. -/
def oddUri : Uri :=
  ⟨"file:///projects/demo/a%20b/%252e%252e/C:/%23%3F%5C%FF%09", by decide⟩

/-- A workspace in which the path does not lie. -/
def other : Workspace :=
  ⟨.ofString "/projects/dem"⟩

end Sample

/-- All of the bytes are found again below the root, nothing is found below a root that only begins
alike, and a doubled separator makes no other path. -/
theorem fileUri_round_trip_odd_names :
    (∃ q rel, Sample.demo.resourceFor Sample.oddUri = .ok q ∧
        q.components = Sample.oddPath.components ∧ Sample.demo.relativePath q = some rel ∧
        (Sample.demo.resolve rel).components = Sample.oddPath.components) ∧
      Sample.other.resourceFor Sample.oddUri = .error (.outsideWorkspace Sample.oddUri.text) ∧
      fileUri ⟨slash :: Sample.oddPath.bytes⟩ = .ok Sample.oddUri := by
  have hp : Sample.oddPath.Canonical := ⟨rfl, by decide⟩
  obtain ⟨found, same⟩ := fileUri_round_trip hp (u := Sample.oddUri) (by rfl)
  exact ⟨(found Sample.demo).1 (by decide), (found Sample.other).2 (by decide),
    (same ⟨slash :: Sample.oddPath.bytes⟩ ⟨rfl, by decide⟩).2 (by decide)⟩

end Workspace

end AnnotationBridge
