import Mathlib.Data.List.TakeWhile
import Shorthand.Proofs.Text.Percent
import Shorthand.Workspace

/-!
# Files that URIs name

A URI of a file with no authority names the path behind it, in whatever way that is written.
The path begins with a slash, so nothing of it is taken for an authority; what would end it
early or be left out of a URI has been escaped.  Hence a workspace may be given by such a URI
or by the path itself.
-/

namespace Shorthand

namespace Uri

/-- What a URI begins with that names a file of no authority. -/
def filePrefix : List Char := "file://".toList

/-- A text that a URI keeps as its path. -/
structure IsPathText (text : List Char) : Prop where
  slash : ∃ rest, text = '/' :: rest
  visible : ∀ c ∈ text, 0x20 < c.toNat
  query : ∀ c ∈ text, c ≠ '?'
  fragment : ∀ c ∈ text, c ≠ '#'

theorem isPathText_of_encodes
    {path text : List Char} (hencodes : Percent.Encodes ('/' :: path) text) : IsPathText text := by
  have hkept : ∀ c ∈ text, 0x20 < c.toNat ∧ c ≠ '?' ∧ c ≠ '#' := by
    intro c hc
    rcases Percent.mustEscape_of_mem_encodes hencodes c hc with rfl | hstands
    · decide
    · obtain ⟨hvisible, -, -, hquery, hfragment⟩ := Percent.mustEscape_eq_false_iff.mp hstands
      exact ⟨hvisible, hquery, hfragment⟩
  exact ⟨Percent.exists_of_encodes_slash hencodes, fun c hc => (hkept c hc).1,
    fun c hc => (hkept c hc).2.1, fun c hc => (hkept c hc).2.2⟩

theorem filter_filePrefix_append {text : List Char} (htext : IsPathText text) :
    ((filePrefix ++ text).dropWhile (·.toNat ≤ 0x20)).filter
      (fun c => !(c == '\t' || c == '\r' || c == '\n')) = filePrefix ++ text := by
  have hfirst : (filePrefix ++ text).dropWhile (·.toNat ≤ 0x20) = filePrefix ++ text := rfl
  have hscheme : filePrefix.all (fun c => decide (0x20 < c.toNat)) = true := rfl
  rw [hfirst, List.filter_eq_self]
  intro c hc
  have hvisible : 0x20 < c.toNat := by
    rcases List.mem_append.mp hc with hfront | hpath
    · exact of_decide_eq_true (List.all_eq_true.mp hscheme c hfront)
    · exact htext.visible c hpath
  simp only [Bool.not_eq_true', Bool.or_eq_false_iff, beq_eq_false_iff_ne]
  refine ⟨⟨?_, ?_⟩, ?_⟩
  all_goals
    rintro rfl
    exact absurd hvisible (by decide)

theorem takeScheme_filePrefix_append (text : List Char) :
    takeScheme (filePrefix ++ text) = ("file".toList, '/' :: '/' :: text) :=
  rfl

theorem takeAuthority_of_slash {text : List Char} (htext : IsPathText text) :
    takeAuthority ('/' :: '/' :: text) = ([], text) := by
  obtain ⟨rest, rfl⟩ := htext.slash
  rfl

theorem parts_of_filePrefix_append {text : List Char} (htext : IsPathText text) :
    Parts.of (filePrefix ++ text) = .ok ⟨"file".toList, text⟩ := by
  have hwhole : text.takeWhile (fun c => c != '#' && c != '?') = text := by
    rw [List.takeWhile_eq_self_iff]
    intro c hc
    simp [htext.query c hc, htext.fragment c hc]
  simp only [Parts.of, filter_filePrefix_append htext, takeScheme_filePrefix_append,
    takeAuthority_of_slash htext]
  change Except.ok (Parts.mk "file".toList (text.takeWhile fun c => c != '#' && c != '?')) = _
  rw [hwhole]

/-- However a path is written behind the beginning of a file's URI, the URI names it. -/
theorem filePath_of_encodes
    {path text : List Char} (hencodes : Percent.Encodes ('/' :: path) text) :
    filePath (filePrefix ++ text) = .ok ('/' :: path) := by
  rw [filePath, parts_of_filePrefix_append (isPathText_of_encodes hencodes)]
  change Except.ok (Percent.decode text) = _
  rw [Percent.decode_of_encodes hencodes]

end Uri

/-- For every absolute path, the workspace given by it is its normal form.  The path can be
written in a URI, and in whatever way that is done, the URI gives the same workspace, also
where a path is given besides. -/
theorem workspace_by_uri_is_workspace_by_path (path : List Char) :
    let root := workspaceRoot none (some ('/' :: path))
    root = .ok (some (Path.normalize ('/' :: path))) ∧
      (∃ text, Percent.Encodes ('/' :: path) text) ∧
      ∀ text other, Percent.Encodes ('/' :: path) text →
        workspaceRoot (some (Uri.filePrefix ++ text)) other = root := by
  intro root
  refine ⟨rfl, Percent.exists_encodes _, ?_⟩
  intro text other hencodes
  have hgiven : (some (Uri.filePrefix ++ text)).filter (!·.isEmpty) =
      some (Uri.filePrefix ++ text) := rfl
  simp only [workspaceRoot, hgiven, Uri.filePath_of_encodes hencodes]
  rfl

/-- Two slashes in front, a letter outside of ASCII, and an escape that is itself escaped. -/
theorem workspace_of_escaped_path :
    let path := "//\u00e9?%41;[".toList
    let text := "//%C3%a9%3f%2541%3B[".toList
    Percent.Encodes path text ∧
      workspaceRoot (some (Uri.filePrefix ++ text)) none = .ok (some path) := by
  intro path text
  have haccent : Percent.Escapes (Utf8.octets '\u00e9') "%C3%a9".toList :=
    .cons (.inr rfl) (.inl rfl) (.cons (.inl rfl) (.inl rfl) .nil)
  have hquery : Percent.Escapes (Utf8.octets '?') "%3f".toList :=
    .cons (.inl rfl) (.inl rfl) .nil
  have hpercent : Percent.Escapes (Utf8.octets '%') "%25".toList :=
    .cons (.inl rfl) (.inl rfl) .nil
  have hsemicolon : Percent.Escapes (Utf8.octets ';') "%3B".toList :=
    .cons (.inl rfl) (.inr rfl) .nil
  have hencodes : Percent.Encodes path text :=
    .plain rfl <| .plain rfl <| .escaped (by decide) haccent <| .escaped (by decide) hquery <|
      .escaped (by decide) hpercent <| .plain rfl <| .plain rfl <|
        .escaped (by decide) hsemicolon <| .plain rfl .nil
  obtain ⟨hroot, -, hsame⟩ := workspace_by_uri_is_workspace_by_path path.tail
  refine ⟨hencodes, (hsame text none hencodes).trans (hroot.trans ?_)⟩
  decide

end Shorthand
