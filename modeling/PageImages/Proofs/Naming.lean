import PageImages.Convert.Batch
import PageImages.Proofs.Path
import PageImages.Proofs.Utf8

/-!
**Names of page images do not get in each other's way.**

The name of a page image tells the stem, the page and the format it was made from.  Names of page
images, temporary names and names of documents end in different octets, so that no file is ever two
of these.

Main results:

* `pageFileName_injective` — **one name, one page**: stem, index and format can be read off;
* `pageFileName_ne_temporary`, `not_isDocumentName_pageFileName`,
  `not_isDocumentName_temporary` — the three sorts of names are kept apart;
* `outputPath_endsIn`, `temporaryPath_endsIn` — where the two paths of a page lead.
-/

set_option autoImplicit false

namespace PageImages

/-! ### Numbers with leading zeros -/

namespace Digits

theorem ofDigitChars_padded (least n : Nat) : Nat.ofDigitChars 10 (padded least n) 0 = n := by
  rw [padded, List.leftpad, Nat.ofDigitChars_append, Nat.ofDigitChars_replicate_zero, ofNat]
  simp

theorem padded_injective {least m n : Nat} (h : padded least m = padded least n) : m = n := by
  rw [← ofDigitChars_padded least m, h, ofDigitChars_padded]

theorem isDigit_of_mem_padded {least n : Nat} {c : Char} (h : c ∈ padded least n) :
    c.isDigit = true := by
  rw [padded, List.leftpad, List.mem_append] at h
  rcases h with h | h
  · rw [(List.mem_replicate.1 h).2]
    decide
  · exact Nat.isDigit_of_mem_toDigits (by decide) (by decide) h

end Digits

/-! ### Stems -/

theorem Path.glue_concat (mark : UInt8) {ps : List Octets} (hne : ps ≠ []) (last : Octets) :
    glue mark (ps ++ [last]) = glue mark ps ++ mark :: last := by
  induction ps with
  | nil => exact absurd rfl hne
  | cons piece rest ih =>
      cases rest with
      | nil => rfl
      | cons next rest =>
          have htail : glue mark ((next :: rest) ++ [last])
              = glue mark (next :: rest) ++ mark :: last := ih (by simp)
          rw [List.cons_append, List.cons_append, glue_cons_cons, ← List.cons_append, htail,
            glue_cons_cons, List.append_assoc, List.cons_append]

/-- A name is its stem, or its stem and its extension with a dot between them. -/
theorem Path.splitName_eq (n : Name) :
    ((splitName n).2 = none ∧ (splitName n).1 = n) ∨
    ∃ ext, (splitName n).2 = some ext ∧ n = (splitName n).1 ++ dot :: ext := by
  rw [splitName]
  split
  · exact Or.inl ⟨rfl, rfl⟩
  · exact Or.inl ⟨rfl, rfl⟩
  · next last before hne hrev =>
      dsimp only
      split
      · exact Or.inl ⟨rfl, rfl⟩
      · refine Or.inr ⟨last, rfl, ?_⟩
        have hpieces : pieces dot n = before.reverse ++ [last] := by
          rw [← List.reverse_reverse (pieces dot n), hrev, List.reverse_cons]
        have hbefore : before.reverse ≠ [] := fun h => hne (List.reverse_eq_nil_iff.1 h)
        dsimp only
        rw [← glue_concat dot hbefore, ← hpieces, glue_pieces]

theorem Path.mem_stem {n : Name} {b : UInt8} (h : b ∈ (splitName n).1) : b ∈ n := by
  rcases splitName_eq n with ⟨-, hstem⟩ | ⟨ext, -, hn⟩
  · rwa [hstem] at h
  · rw [hn]
    exact List.mem_append_left _ h

theorem Path.slash_not_mem_fileName {p : Path} {n : Name} (h : p.fileName? = some n) :
    slash ∉ n := by
  refine slash_not_mem_of_mem_parts p ?_
  rw [Path.fileName?] at h
  split at h
  · next m hlast =>
      cases h
      exact List.mem_of_getLast? hlast
  · cases h

/-- The stem of a document's name has no slash in it. -/
theorem Path.slash_not_mem_stemText (document : Path) : '/' ∉ document.stemText := by
  rw [stemText, stem?]
  cases hname : document.fileName? with
  | none => simp
  | some n =>
      intro h
      have : UInt8.ofNat '/'.toNat ∈ (splitName n).1 :=
        Utf8.mem_lossyChars_ascii (by decide) (by decide) h
      exact slash_not_mem_fileName hname (mem_stem this)

/-! ### Names of page images -/

theorem append_cons_inj_of_not_mem {α : Type} {a a' b b' : List α} {x : α}
    (h : a ++ x :: b = a' ++ x :: b') (hb : x ∉ b) (hb' : x ∉ b') : a = a' ∧ b = b' := by
  have hrev : b.reverse ++ x :: a.reverse = b'.reverse ++ x :: a'.reverse := by
    have := congrArg List.reverse h
    simpa using this
  rcases List.append_eq_append_iff.1 hrev with ⟨c, hc, hx⟩ | ⟨c, hc, hx⟩
  · cases c with
    | nil => simp_all
    | cons y c =>
        obtain ⟨rfl, -⟩ := List.cons.inj hx
        refine absurd ?_ hb'
        rw [← List.mem_reverse, hc]
        simp
  · cases c with
    | nil => simp_all
    | cons y c =>
        obtain ⟨rfl, -⟩ := List.cons.inj hx
        refine absurd ?_ hb
        rw [← List.mem_reverse, hc]
        simp

/-- **One name, one page.** -/
theorem pageFileName_injective {stem stem' : List Char} {index index' : Nat}
    {format format' : ImageFormat}
    (h : pageFileName stem index format = pageFileName stem' index' format') :
    stem = stem' ∧ index = index' ∧ format = format' := by
  -- the extensions are of one length, and behind the last underscore there are digits only
  have hchars := Utf8.encodeChars_injective h
  have hlength : ∀ f : ImageFormat, f.extension.toList.length = 3 := by
    intro f
    cases f <;> rfl
  have hunder : ∀ least n, '_' ∉ Digits.padded least n := fun least n hmem =>
    absurd (Digits.isDigit_of_mem_padded hmem) (by decide)
  have hsplit : (stem ++ '_' :: Digits.padded 3 (index + 1)) ++ '.' :: format.extension.toList
      = (stem' ++ '_' :: Digits.padded 3 (index' + 1)) ++ '.' :: format'.extension.toList := by
    simpa using hchars
  obtain ⟨hfront, hext⟩ := List.append_inj' hsplit (by simp [hlength])
  obtain ⟨hstem, hdigits⟩ :=
    append_cons_inj_of_not_mem hfront (hunder _ _) (hunder _ _)
  refine ⟨hstem, Nat.succ.inj (Digits.padded_injective hdigits), ?_⟩
  revert hext
  cases format <;> cases format' <;> decide

/-- A name without a slash is proper as soon as one of its octets is not a dot. -/
theorem Name.proper_of_mem {name : Name} {b : UInt8} (hb : b ∈ name) (hdot : b ≠ Path.dot)
    (hslash : Path.slash ∉ name) : name.Proper := by
  refine ⟨?_, hslash⟩
  have hidle : Path.isIdle name = false := by
    rw [Path.isIdle, Bool.or_eq_false_iff, decide_eq_false_iff_not, decide_eq_false_iff_not]
    constructor
    · rintro rfl
      cases hb
    · rintro rfl
      exact hdot (List.mem_singleton.1 hb)
  have hup : name ≠ [Path.dot, Path.dot] := by
    rintro rfl
    simp [hdot] at hb
  rw [Path.Part.ofPiece?, hidle, if_neg Bool.false_ne_true, if_neg hup]

theorem ne_slash_of_isDigit {c : Char} (h : c.isDigit = true) : c ≠ '/' := by
  rintro rfl
  exact absurd h (by decide)

theorem slash_not_mem_pageFileName {stem : List Char} (h : '/' ∉ stem) (index : Nat)
    (format : ImageFormat) : Path.slash ∉ pageFileName stem index format := by
  intro hmem
  have hchar : '/' ∈ stem ++ '_' :: (Digits.padded 3 (index + 1)
      ++ '.' :: format.extension.toList) :=
    Utf8.mem_encodeChars_ascii (b := Path.slash) (by decide) hmem
  have hext : '/' ∉ format.extension.toList := by cases format <;> decide
  have hdigits : '/' ∉ Digits.padded 3 (index + 1) := fun hd =>
    ne_slash_of_isDigit (Digits.isDigit_of_mem_padded hd) rfl
  simp [h, hext, hdigits] at hchar

/-- The last octet of the name of a page image, in either format. -/
theorem getLast?_pageFileName (stem : List Char) (index : Nat) (format : ImageFormat) :
    (pageFileName stem index format).getLast? = some 0x67 := by
  obtain ⟨front, hfront⟩ : ∃ front : List Char,
      stem ++ '_' :: (Digits.padded 3 (index + 1) ++ '.' :: format.extension.toList)
        = front ++ ['g'] := by
    cases format with
    | jpg => exact ⟨stem ++ '_' :: (Digits.padded 3 (index + 1) ++ ['.', 'j', 'p']), by simp; rfl⟩
    | png => exact ⟨stem ++ '_' :: (Digits.padded 3 (index + 1) ++ ['.', 'p', 'n']), by simp; rfl⟩
  have hg : Utf8.encodeChars ['g'] = [0x67] := by decide
  rw [pageFileName, hfront, Utf8.encodeChars_append, hg, List.getLast?_concat]

theorem getLast?_temporary (name : Name) : (name ++ temporarySuffix).getLast? = some 0x70 := by
  rw [temporarySuffix, List.getLast?_append]
  rfl

/-- No page image has a temporary name. -/
theorem pageFileName_ne_temporary (stem : List Char) (index : Nat) (format : ImageFormat)
    (name : Name) : pageFileName stem index format ≠ name ++ temporarySuffix := by
  intro h
  have := congrArg List.getLast? h
  rw [getLast?_pageFileName, getLast?_temporary] at this
  exact absurd this (by decide)

/-- The last octet of the name of a document. -/
theorem getLast?_of_isDocumentName {name : Name} (h : isDocumentName name = true) :
    ∃ b, name.getLast? = some b ∧ lowerOctet b = 0x66 := by
  rw [isDocumentName] at h
  rcases Path.splitName_eq name with ⟨hnone, -⟩ | ⟨ext, hext, hname⟩
  · simp [hnone] at h
  · rw [hext] at h
    have hmap : ext.map lowerOctet = documentExtension := by simpa using h
    have hlast := congrArg List.getLast? hmap
    rw [List.getLast?_map] at hlast
    obtain ⟨b, hb, hlow⟩ := Option.map_eq_some_iff.1 hlast
    refine ⟨b, ?_, hlow⟩
    rw [hname, List.getLast?_append, List.getLast?_cons, hb]
    rfl

/-- No page image has the name of a document. -/
theorem not_isDocumentName_pageFileName (stem : List Char) (index : Nat) (format : ImageFormat) :
    isDocumentName (pageFileName stem index format) = false := by
  rw [← Bool.not_eq_true]
  intro h
  obtain ⟨b, hb, hlow⟩ := getLast?_of_isDocumentName h
  rw [getLast?_pageFileName] at hb
  cases hb
  exact absurd hlow (by decide)

/-- No temporary name is the name of a document. -/
theorem not_isDocumentName_temporary (name : Name) :
    isDocumentName (name ++ temporarySuffix) = false := by
  rw [← Bool.not_eq_true]
  intro h
  obtain ⟨b, hb, hlow⟩ := getLast?_of_isDocumentName h
  rw [getLast?_temporary] at hb
  cases hb
  exact absurd hlow (by decide)

/-- The path of a document ends in a name with the last octet of the name of a document. -/
theorem endsIn_document (folder : Path) {name : Name} (h : isDocumentName name = true) :
    ∃ rooted above last b, (folder.join ⟨name⟩).EndsIn rooted above last ∧
      last.getLast? = some b ∧ lowerOctet b = 0x66 := by
  obtain ⟨b, hb, hlow⟩ := getLast?_of_isDocumentName h
  have hjoin : (folder.join ⟨name⟩).octets.getLast? = some b := by
    rw [Path.join]
    split
    · exact hb
    · split
      · exact hb
      · split
        · rw [List.getLast?_append, hb]
          rfl
        · rw [List.getLast?_append, List.getLast?_cons, hb]
          rfl
  have hslash : b ≠ Path.slash := by
    rintro rfl
    exact absurd hlow (by decide)
  have hdot : b ≠ Path.dot := by
    rintro rfl
    exact absurd hlow (by decide)
  obtain ⟨before, last, hpieces, hlast⟩ := Path.exists_last_piece hslash hjoin
  have hmem : last ∈ Path.pieces Path.slash (folder.join ⟨name⟩).octets := by
    rw [hpieces]
    exact List.mem_append_right _ List.mem_cons_self
  have hproper : Name.Proper last := Name.proper_of_mem (List.mem_of_getLast? hlast) hdot
    (Path.not_mem_of_mem_pieces hmem)
  exact ⟨_, _, last, b, ⟨rfl, ⟨before, hpieces, rfl⟩, hproper⟩, hlast, hlow⟩

/-! ### Where the paths of a page lead -/

theorem proper_pageFileName (document : Path) (index : Nat) (format : ImageFormat) :
    Name.Proper (pageFileName document.stemText index format) :=
  Name.proper_of_mem (List.mem_of_getLast? (getLast?_pageFileName _ _ _)) (by decide)
    (slash_not_mem_pageFileName document.slash_not_mem_stemText index format)

theorem proper_temporary {name : Name} (h : name.Proper) :
    Name.Proper (name ++ temporarySuffix) := by
  refine Name.proper_of_mem (List.mem_of_getLast? (getLast?_temporary name)) (by decide) ?_
  rw [List.mem_append]
  rintro (hmem | hmem)
  · exact h.whole hmem
  · exact absurd hmem (by decide)

/-- The path of a page image leads to its name in the output folder. -/
theorem outputPath_endsIn (document : Path) (index : Nat) (folder : Path)
    (format : ImageFormat) :
    (outputPath document index folder format).EndsIn folder.isAbsolute folder.parts
      (pageFileName document.stemText index format) :=
  Path.endsIn_join folder (proper_pageFileName document index format)

/-- The temporary path of a file leads to the same folder, with the suffix behind the name. -/
theorem temporaryPath_endsIn {path : Path} {rooted : Bool} {above : List Path.Part} {name : Name}
    (h : path.EndsIn rooted above name) :
    (temporaryPath path).EndsIn rooted above (name ++ temporarySuffix) := by
  rw [temporaryPath, h.fileName?]
  exact h.withFileName (proper_temporary h.proper)

end PageImages
