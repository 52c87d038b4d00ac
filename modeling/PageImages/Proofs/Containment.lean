import PageImages.Proofs.Selection

/-!
**Page images lie in their folder, each under a name of its own.**

The path of a page image is the path of the output folder with one name behind it.  That name can
not lead anywhere else, whatever the name of the document is: it has no slash in it, and it is none
of the names that stand for a directory.  Within a folder the path tells the stem, the page and the
format.

Paths are compared by the steps that they take and not only by their octets, since `o//a`, `o/./a`
and `o/a` lead to the same place.

Main definitions:

* `Path.Alike` — two paths that take the same steps;
* `Path.ChildOf` — a path that stands for a name directly in a folder.

Main results:

* `Path.EndsIn.childOf` — a path with one step more than a folder stands for a name in it;
* `outputPath_alike_iff` — **one path, one page**, for documents of any names;
* `temporaryPath_not_alike_outputPath`, `temporaryPath_not_alike_document` — a temporary path is
  neither that of a page image nor that of a document;
* `outputPath_contained` — all of this together.
-/

set_option autoImplicit false

namespace PageImages

/-! ### Paths that lead the same way -/

namespace Path

/-- Two paths start at the same place and take the same steps.  What says nothing in a path makes no
difference. -/
def Alike (p q : Path) : Prop :=
  p.isAbsolute = q.isAbsolute ∧ p.parts = q.parts

theorem Alike.of_eq {p q : Path} (h : p = q) : p.Alike q :=
  ⟨congrArg isAbsolute h, congrArg parts h⟩

theorem Alike.fileName?_eq {p q : Path} (h : p.Alike q) : p.fileName? = q.fileName? := by
  rw [fileName?, fileName?, h.2]

/-- The path stands for the name `name` directly in a folder. -/
structure ChildOf (path folder : Path) (name : Name) : Prop where
  /-- The path ends in the name. -/
  last : path.fileName? = some name
  /-- The name is not empty, -/
  ne_nil : name ≠ []
  /-- nor does it stand for the folder itself -/
  ne_dot : name ≠ [dot]
  /-- or for the directory above it. -/
  ne_up : name ≠ [dot, dot]
  /-- The name is in one piece. -/
  whole : slash ∉ name
  /-- The path above is that of the folder. -/
  above : ∃ parent, path.parent? = some parent ∧ parent.Alike folder
  /-- In every file system the path is that of the name in the directory to which the folder
  leads. -/
  entry : ∀ (fs : FileSystem) l, fs.locationAt? path = some l →
    ∃ dir, fs.folder folder.isAbsolute folder.parts = .ok dir ∧ l = name :: dir

/-- A path with one step more than a folder stands for a name in it. -/
theorem EndsIn.childOf {path folder : Path} {name : Name}
    (h : path.EndsIn folder.isAbsolute folder.parts name) : path.ChildOf folder name where
  last := h.fileName?
  ne_nil := h.proper.ne_nil
  ne_dot := by
    rintro rfl
    exact absurd h.proper.not_idle (by decide)
  ne_up := h.proper.ne_up
  whole := h.proper.whole
  above := by
    have hne : path.parts ≠ [] := by
      rw [h.parts]
      simp
    obtain ⟨parent, hparent⟩ := parent?_isSome hne
    obtain ⟨habsolute, last, hlast⟩ := parts_of_parent? hparent hne
    rw [h.parts] at hlast
    exact ⟨parent, hparent, habsolute.trans h.rooted, (List.append_inj' hlast rfl).1.symm⟩
  entry := fun _ _ hl => ((FileSystem.locationAt?_iff h).1 hl).2

/-- A name in one piece is put behind the folder, with at most a slash between them. -/
theorem octets_join (folder : Path) {name : Name} (h : slash ∉ name) :
    (folder.join ⟨name⟩).octets = folder.octets ++ name ∨
      (folder.join ⟨name⟩).octets = folder.octets ++ slash :: name := by
  rw [join, isAbsolute_of_not_mem h, if_neg Bool.false_ne_true]
  cases hlast : folder.octets.getLast? with
  | none =>
      rw [List.getLast?_eq_none_iff.1 hlast]
      exact Or.inl rfl
  | some c =>
      by_cases hc : c = slash
      · exact Or.inl (by simp only [if_pos hc])
      · exact Or.inr (by simp only [if_neg hc])

end Path

/-! ### Page images and temporary files -/

/-- **One path, one page.**  In a folder, the paths of page images that lead the same way are those
of documents with the same stem, of the same page and format. -/
theorem outputPath_alike_iff (document document' : Path) (index index' : Nat) (folder : Path)
    (format format' : ImageFormat) :
    (outputPath document index folder format).Alike (outputPath document' index' folder format') ↔
      document.stemText = document'.stemText ∧ index = index' ∧ format = format' := by
  constructor
  · intro h
    have hname := h.fileName?_eq
    rw [(outputPath_endsIn document index folder format).fileName?,
      (outputPath_endsIn document' index' folder format').fileName?, Option.some.injEq] at hname
    exact pageFileName_injective hname
  · rintro ⟨hstem, rfl, rfl⟩
    exact .of_eq (by rw [outputPath, outputPath, hstem])

/-- A temporary path is not that of a page image, in whatever folder and of whatever document. -/
theorem temporaryPath_not_alike_outputPath {path : Path} {rooted : Bool} {above : List Path.Part}
    {name : Name} (h : path.EndsIn rooted above name) (document : Path) (index : Nat)
    (folder : Path) (format : ImageFormat) :
    ¬ (temporaryPath path).Alike (outputPath document index folder format) := by
  intro halike
  have hname := halike.fileName?_eq
  rw [(temporaryPath_endsIn h).fileName?,
    (outputPath_endsIn document index folder format).fileName?, Option.some.injEq] at hname
  exact pageFileName_ne_temporary _ _ _ _ hname.symm

/-- A temporary path is not that of a document, in whatever folder of whatever file system. -/
theorem temporaryPath_not_alike_document {path : Path} {rooted : Bool} {above : List Path.Part}
    {name : Name} (h : path.EndsIn rooted above name) {fs : FileSystem} {folder source : Path}
    (hsource : source ∈ (findDocuments fs folder).2) : ¬ (temporaryPath path).Alike source := by
  intro halike
  obtain ⟨name', hdocument, rfl⟩ := exists_of_mem_findDocuments hsource
  obtain ⟨rooted', above', last, b, hends, hlast, hlower⟩ := endsIn_document folder hdocument
  have hname := halike.fileName?_eq
  rw [(temporaryPath_endsIn h).fileName?, hends.fileName?, Option.some.injEq] at hname
  rw [← hname, getLast?_temporary] at hlast
  cases hlast
  exact absurd hlower (by decide)

/-- **Page images lie in their folder, each under a name of its own.**  Two paths of page images in
a folder are equal, or only lead the same way, if and only if the stems, the pages and the formats
are the same.  The path is the folder with a name behind it that stays in the folder, and the
temporary path is beside it; it is the path of no page image and of no document. -/
theorem outputPath_contained (document document' : Path) (index index' : Nat) (folder : Path)
    (format format' : ImageFormat) :
    let path := outputPath document index folder format
    let path' := outputPath document' index' folder format'
    let name := pageFileName document.stemText index format
    (path = path' ↔ document.stemText = document'.stemText ∧ index = index' ∧ format = format') ∧
    (path.Alike path' ↔
      document.stemText = document'.stemText ∧ index = index' ∧ format = format') ∧
    path.ChildOf folder name ∧
    (path.octets = folder.octets ++ name ∨ path.octets = folder.octets ++ Path.slash :: name) ∧
    (temporaryPath path).ChildOf folder (name ++ temporarySuffix) ∧
    (∀ other page elsewhere format',
      ¬ (temporaryPath path).Alike (outputPath other page elsewhere format')) ∧
    ∀ fs elsewhere, ∀ source ∈ (findDocuments fs elsewhere).2,
      ¬ (temporaryPath path).Alike source := by
  intro path path' name
  have hends : path.EndsIn folder.isAbsolute folder.parts name :=
    outputPath_endsIn document index folder format
  have halike := outputPath_alike_iff document document' index index' folder format format'
  refine ⟨⟨fun h => halike.1 (.of_eq h), ?_⟩, halike, hends.childOf,
    folder.octets_join hends.proper.whole, (temporaryPath_endsIn hends).childOf,
    temporaryPath_not_alike_outputPath hends,
    fun fs elsewhere source => temporaryPath_not_alike_document hends⟩
  rintro ⟨hstem, rfl, rfl⟩
  simp only [path, path', outputPath, hstem]

end PageImages
