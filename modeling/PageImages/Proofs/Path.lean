import PageImages.Path

/-!
**Taking paths apart and putting them together.**

The pieces of a path between its slashes determine it, and the steps of a path are those pieces
that are not idle.  A path that was joined ends in the name that was joined, and so does a path
whose last name was replaced; the steps before that name stay the same.

Main definitions:

* `Name.Proper` — a name that a path can have for its last step;
* `Path.EndsIn` — the path ends in a name, after some steps from the root or from elsewhere.

Main results:

* `Path.glue_pieces`, `Path.pieces_glue` — cutting and gluing undo each other;
* `Path.parts_eq` — the steps of a path, from all its pieces;
* `Path.endsIn_join`, `Path.EndsIn.withFileName` — what joining and replacing the last name do;
* `Path.parts_of_parent?` — **the path above has one step less**.
-/

set_option autoImplicit false

namespace PageImages

namespace Path

/-! ### Pieces -/

theorem pieces_ne_nil (mark : UInt8) (s : Octets) : pieces mark s ≠ [] := by
  cases s with
  | nil => simp [pieces]
  | cons b rest =>
      rw [pieces]
      split
      · simp
      · split <;> simp

theorem pieces_cons_self (mark : UInt8) (s : Octets) :
    pieces mark (mark :: s) = [] :: pieces mark s := by
  simp [pieces]

theorem pieces_cons_of_ne {mark b : UInt8} (h : b ≠ mark) {s piece : Octets}
    {others : List Octets} (hs : pieces mark s = piece :: others) :
    pieces mark (b :: s) = (b :: piece) :: others := by
  simp only [pieces, if_neg h, hs]

theorem pieces_append_mark (mark : UInt8) (a b : Octets) :
    pieces mark (a ++ mark :: b) = pieces mark a ++ pieces mark b := by
  induction a with
  | nil => rw [List.nil_append, pieces_cons_self]; rfl
  | cons x a ih =>
      rw [List.cons_append]
      by_cases hx : x = mark
      · subst hx
        rw [pieces_cons_self, pieces_cons_self, ih, List.cons_append]
      · obtain ⟨piece, others, hp⟩ := List.exists_cons_of_ne_nil (pieces_ne_nil mark a)
        rw [pieces_cons_of_ne hx hp, List.cons_append]
        exact pieces_cons_of_ne hx (by rw [ih, hp, List.cons_append])

theorem pieces_of_not_mem {mark : UInt8} {s : Octets} (h : mark ∉ s) : pieces mark s = [s] := by
  induction s with
  | nil => rfl
  | cons b s ih =>
      simp only [List.mem_cons, not_or] at h
      exact pieces_cons_of_ne (Ne.symm h.1) (ih h.2)

theorem not_mem_of_mem_pieces {mark : UInt8} {s piece : Octets} (h : piece ∈ pieces mark s) :
    mark ∉ piece := by
  induction s generalizing piece with
  | nil =>
      rw [List.mem_singleton.1 h]
      exact List.not_mem_nil
  | cons b s ih =>
      by_cases hb : b = mark
      · subst hb
        rw [pieces_cons_self] at h
        rcases List.mem_cons.1 h with rfl | h
        · exact List.not_mem_nil
        · exact ih h
      · obtain ⟨first, others, hp⟩ := List.exists_cons_of_ne_nil (pieces_ne_nil mark s)
        rw [pieces_cons_of_ne hb hp] at h
        rw [hp] at ih
        rcases List.mem_cons.1 h with rfl | h
        · simp only [List.mem_cons, not_or]
          exact ⟨Ne.symm hb, ih List.mem_cons_self⟩
        · exact ih (List.mem_cons_of_mem _ h)

/-- A sequence that does not end in the mark has a last piece, with the same end. -/
theorem exists_last_piece {mark b : UInt8} (hb : b ≠ mark) {s : Octets}
    (h : s.getLast? = some b) :
    ∃ before last, pieces mark s = before ++ [last] ∧ last.getLast? = some b := by
  induction s with
  | nil => cases h
  | cons c rest ih =>
      rw [List.getLast?_cons] at h
      cases hrest : rest.getLast? with
      | none =>
          rw [hrest] at h
          cases h
          rw [List.getLast?_eq_none_iff.1 hrest]
          exact ⟨[], [c], pieces_cons_of_ne hb rfl, rfl⟩
      | some b' =>
          rw [hrest] at h
          cases h
          obtain ⟨before, last, hpieces, hlast⟩ := ih hrest
          by_cases hc : c = mark
          · refine ⟨[] :: before, last, ?_, hlast⟩
            rw [hc, pieces_cons_self, hpieces, List.cons_append]
          · cases before with
            | nil =>
                refine ⟨[], c :: last, pieces_cons_of_ne hc hpieces, ?_⟩
                rw [List.getLast?_cons, hlast]
                rfl
            | cons piece before =>
                exact ⟨(c :: piece) :: before, last, pieces_cons_of_ne hc hpieces, hlast⟩

theorem glue_cons_cons (mark : UInt8) (piece next : Octets) (rest : List Octets) :
    glue mark (piece :: next :: rest) = piece ++ mark :: glue mark (next :: rest) := rfl

/-- Cutting a sequence and gluing its pieces gives it back. -/
theorem glue_pieces (mark : UInt8) (s : Octets) : glue mark (pieces mark s) = s := by
  induction s with
  | nil => rfl
  | cons b s ih =>
      obtain ⟨first, others, hp⟩ := List.exists_cons_of_ne_nil (pieces_ne_nil mark s)
      rw [hp] at ih
      by_cases hb : b = mark
      · subst hb
        rw [pieces_cons_self, hp, glue_cons_cons, ih, List.nil_append]
      · rw [pieces_cons_of_ne hb hp]
        cases others with
        | nil => exact congrArg (b :: ·) ih
        | cons next others =>
            rw [glue_cons_cons] at ih ⊢
            rw [List.cons_append, ih]

/-- Gluing pieces without the mark and cutting gives them back. -/
theorem pieces_glue {mark : UInt8} {ps : List Octets} (hne : ps ≠ [])
    (hps : ∀ piece ∈ ps, mark ∉ piece) : pieces mark (glue mark ps) = ps := by
  induction ps with
  | nil => exact absurd rfl hne
  | cons piece rest ih =>
      have hpiece : pieces mark piece = [piece] :=
        pieces_of_not_mem (hps piece List.mem_cons_self)
      cases rest with
      | nil => exact hpiece
      | cons next rest =>
          rw [glue_cons_cons, pieces_append_mark, hpiece,
            ih (by simp) fun p hp => hps p (List.mem_cons_of_mem _ hp)]
          rfl

/-! ### The steps of a path -/

@[simp] theorem ofPiece?_nil : Part.ofPiece? [] = none := rfl

@[simp] theorem ofPiece?_dot : Part.ofPiece? [dot] = none := rfl

theorem ofPiece?_eq_none_iff {piece : Octets} :
    Part.ofPiece? piece = none ↔ isIdle piece = true := by
  rw [Part.ofPiece?]
  split
  · simp_all
  · split <;> simp_all

/-- The steps of a path are its pieces that are not idle; its front counts for nothing. -/
theorem parts_eq (p : Path) :
    p.parts = (pieces slash p.octets).filterMap Part.ofPiece? := by
  rw [parts, body, front]
  split
  · next h => rw [h]; rfl
  · next b rest h =>
      rw [h]
      split
      · next hb => rw [hb, pieces_cons_self]; rfl
      · next hb =>
          split
          · next hd =>
              simp only [Bool.and_eq_true, decide_eq_true_eq] at hd
              obtain ⟨rfl, hrest⟩ := hd
              -- after a dot at the front the rest is empty or starts with a slash
              cases rest with
              | nil => rfl
              | cons c rest =>
                  obtain rfl : c = slash := by simpa using hrest
                  rw [pieces_cons_of_ne hb (pieces_cons_self slash rest)]
                  simp only [List.length_singleton, List.drop_succ_cons, List.drop_zero,
                    pieces_cons_self, List.filterMap_cons, ofPiece?_nil, ofPiece?_dot]
          · rfl

/-- A name among the steps of a path is in one piece. -/
theorem slash_not_mem_of_mem_parts (p : Path) {name : Name} (h : .name name ∈ p.parts) :
    slash ∉ name := by
  rw [parts_eq] at h
  obtain ⟨piece, hpiece, hof⟩ := List.mem_filterMap.1 h
  rw [Part.ofPiece?] at hof
  split at hof
  · cases hof
  · split at hof
    · cases hof
    · cases hof
      exact not_mem_of_mem_pieces hpiece

end Path

/-- A name that a path can have for its last step. -/
structure Name.Proper (name : Name) : Prop where
  /-- It is not idle, nor does it lead up. -/
  step : Path.Part.ofPiece? name = some (.name name)
  /-- It is in one piece. -/
  whole : Path.slash ∉ name

theorem Name.Proper.ne_nil {name : Name} (h : name.Proper) : name ≠ [] := by
  rintro rfl
  cases h.step

theorem Name.Proper.not_idle {name : Name} (h : name.Proper) : Path.isIdle name = false := by
  rw [← Bool.not_eq_true, ← Path.ofPiece?_eq_none_iff, h.step]
  simp

theorem Name.Proper.ne_up {name : Name} (h : name.Proper) : name ≠ [Path.dot, Path.dot] := by
  rintro rfl
  cases h.step

namespace Path

/-- The path ends in a name, after the steps `above` from the root or, unless it is `rooted`, from
the working directory. -/
structure EndsIn (path : Path) (rooted : Bool) (above : List Part) (name : Name) : Prop where
  /-- Where the path starts. -/
  rooted : path.isAbsolute = rooted
  /-- What stands before the name. -/
  pieces : ∃ before, Path.pieces slash path.octets = before ++ [name] ∧
    before.filterMap Part.ofPiece? = above
  /-- The last piece is a name. -/
  proper : name.Proper

theorem EndsIn.parts {path : Path} {rooted : Bool} {above : List Part} {name : Name}
    (h : path.EndsIn rooted above name) : path.parts = above ++ [.name name] := by
  obtain ⟨before, hpieces, habove⟩ := h.pieces
  rw [parts_eq, hpieces, List.filterMap_append, habove]
  simp [h.proper.step]

/-! ### Joining -/

/-- A name joined to a folder is the last step of the path. -/
theorem endsIn_join (folder : Path) {name : Name} (h : name.Proper) :
    (folder.join ⟨name⟩).EndsIn folder.isAbsolute folder.parts name := by
  obtain ⟨b, rest, rfl⟩ := List.exists_cons_of_ne_nil h.ne_nil
  have hb : b ≠ slash := fun hb => h.whole (hb ▸ List.mem_cons_self)
  have hrel : (⟨b :: rest⟩ : Path).isAbsolute = false := by simp [isAbsolute, hb]
  have hname : pieces slash (b :: rest) = [b :: rest] := pieces_of_not_mem h.whole
  rw [join, hrel, if_neg Bool.false_ne_true]
  rw [parts_eq]
  cases hlast : folder.octets.getLast? with
  | none =>
      rw [List.getLast?_eq_none_iff] at hlast
      refine ⟨?_, ⟨[], ?_, ?_⟩, h⟩
      · simp [isAbsolute, hlast, hb]
      · simpa using hname
      · simp [hlast, pieces]
  | some c =>
      obtain ⟨front, hfront⟩ := List.getLast?_eq_some_iff.1 hlast
      have hhead : ∀ tail : Octets, (folder.octets ++ tail).head? = folder.octets.head? := by
        intro tail
        rw [hfront]
        cases front <;> rfl
      by_cases hc : c = slash
      · -- a slash at the end of the folder is the one before the name
        subst hc
        simp only [if_true]
        refine ⟨by simp only [isAbsolute, hhead], ⟨pieces slash front, ?_, ?_⟩, h⟩
        · rw [hfront, List.append_assoc, List.singleton_append, pieces_append_mark, hname]
        · rw [hfront, pieces_append_mark]
          simp [pieces]
      · simp only [if_neg hc]
        refine ⟨by simp only [isAbsolute, hhead], ⟨pieces slash folder.octets, ?_, rfl⟩, h⟩
        rw [pieces_append_mark, hname]

/-! ### The path above -/

theorem filterMap_trimmed (body : List Octets) :
    (trimmed body).filterMap Part.ofPiece? = body.filterMap Part.ofPiece? := by
  have hdrop : ∀ ps : List Octets,
      (ps.dropWhile isIdle).filterMap Part.ofPiece? = ps.filterMap Part.ofPiece? := by
    intro ps
    induction ps with
    | nil => rfl
    | cons piece ps ih =>
        by_cases h : isIdle piece = true
        · rw [List.dropWhile_cons_of_pos h, ih, List.filterMap_cons,
            ofPiece?_eq_none_iff.2 h]
        · rw [List.dropWhile_cons_of_neg h]
  rw [trimmed, List.filterMap_reverse, hdrop, List.filterMap_reverse, List.reverse_reverse]

/-- The three kinds of front: the root, a dot before a slash or alone, and none. -/
theorem front_cases (p : Path) :
    (p.front = [slash] ∧ p.isAbsolute = true) ∨
    (p.front = [dot] ∧ p.isAbsolute = false ∧ ∃ others, p.body = [] :: others) ∨
    (p.front = [] ∧ p.isAbsolute = false ∧
      (p.body = [[]] ∨ ∃ b first others, b ≠ slash ∧ p.body = (b :: first) :: others)) := by
  obtain ⟨octets⟩ := p
  cases octets with
  | nil => exact Or.inr (Or.inr ⟨rfl, rfl, Or.inl rfl⟩)
  | cons b rest =>
      by_cases hb : b = slash
      · exact Or.inl ⟨by simp [front, hb], by simp [isAbsolute, hb]⟩
      · have habs : (⟨b :: rest⟩ : Path).isAbsolute = false := by simp [isAbsolute, hb]
        by_cases hd : (b = dot && (rest.head?.getD slash) = slash) = true
        · have hfront : (⟨b :: rest⟩ : Path).front = [dot] := by
            simp only [front, if_neg hb, if_pos hd]
          refine Or.inr (Or.inl ⟨hfront, habs, ?_⟩)
          rw [body, hfront, List.length_singleton, List.drop_succ_cons, List.drop_zero]
          simp only [Bool.and_eq_true, decide_eq_true_eq] at hd
          cases rest with
          | nil => exact ⟨[], rfl⟩
          | cons c rest =>
              obtain rfl : c = slash := by simpa using hd.2
              exact ⟨_, pieces_cons_self slash rest⟩
        · have hfront : (⟨b :: rest⟩ : Path).front = [] := by
            simp only [front, if_neg hb, if_neg hd]
          refine Or.inr (Or.inr ⟨hfront, habs, Or.inr ?_⟩)
          obtain ⟨first, others, hp⟩ := List.exists_cons_of_ne_nil (pieces_ne_nil slash rest)
          refine ⟨b, first, others, hb, ?_⟩
          rw [body, hfront, List.length_nil, List.drop_zero, pieces_cons_of_ne hb hp]

/-- The path made of the front of a path and of the first pieces that follow it, the last of them
not idle. -/
theorem parts_front_glue {p : Path} {t : List Octets} (ht : t <+: p.body)
    (hlast : ∀ piece, t.getLast? = some piece → isIdle piece = false) :
    (⟨p.front ++ glue slash t⟩ : Path).isAbsolute = p.isAbsolute ∧
      (⟨p.front ++ glue slash t⟩ : Path).parts = t.filterMap Part.ofPiece? := by
  have hwhole : ∀ piece ∈ t, slash ∉ piece := fun piece hp =>
    not_mem_of_mem_pieces (ht.subset hp)
  have hdot : pieces slash [dot] = [[dot]] := by decide
  have hidle : t ≠ [[]] := by
    rintro rfl
    exact absurd (hlast [] rfl) (by decide)
  rw [parts_eq]
  rcases front_cases p with ⟨hfront, habs⟩ | ⟨hfront, habs, others, hbody⟩ | ⟨hfront, habs, hbody⟩
  · rw [hfront, habs, List.singleton_append, pieces_cons_self, List.filterMap_cons, ofPiece?_nil]
    refine ⟨rfl, ?_⟩
    cases t with
    | nil => rfl
    | cons piece rest => rw [pieces_glue (by simp) hwhole]
  · rw [hfront, habs]
    rw [hbody] at ht
    refine ⟨rfl, ?_⟩
    rcases List.prefix_cons_iff.1 ht with rfl | ⟨u, rfl, hu⟩
    · rfl
    · cases u with
      | nil => exact absurd rfl hidle
      | cons next rest =>
          have hnext : pieces slash (glue slash (next :: rest)) = next :: rest :=
            pieces_glue (by simp) fun piece hp => hwhole piece (List.mem_cons_of_mem _ hp)
          rw [glue_cons_cons, List.nil_append, pieces_append_mark, hnext, hdot]
          rfl
  · rw [hfront, habs, List.nil_append]
    rcases hbody with hbody | ⟨b, first, others, hb, hbody⟩
    · rw [hbody] at ht
      rcases List.prefix_cons_iff.1 ht with rfl | ⟨u, rfl, hu⟩
      · exact ⟨rfl, rfl⟩
      · exact absurd (by rw [List.prefix_nil.1 hu]) hidle
    · rw [hbody] at ht
      rcases List.prefix_cons_iff.1 ht with rfl | ⟨u, rfl, hu⟩
      · exact ⟨rfl, rfl⟩
      · refine ⟨?_, by rw [pieces_glue (by simp) hwhole]⟩
        cases u <;> simp [isAbsolute, glue, hb]

/-- **The path above has one step less** and starts where the path starts. -/
theorem parts_of_parent? {p q : Path} (h : p.parent? = some q) (hne : p.parts ≠ []) :
    q.isAbsolute = p.isAbsolute ∧ ∃ last, p.parts = q.parts ++ [last] := by
  rw [parent?] at h
  split at h
  · next last before hrev =>
      have hdrop : p.body.reverse.dropWhile isIdle = last :: before := by
        rw [trimmed, List.reverse_reverse] at hrev
        exact hrev
      have hlast : isIdle last = false := by
        have := List.head?_dropWhile_not isIdle p.body.reverse
        rw [hdrop] at this
        simpa using this
      have hprefix : before.reverse ++ [last] <+: p.body := by
        have hsuffix : last :: before <:+ p.body.reverse := hdrop ▸ List.dropWhile_suffix _
        have := List.reverse_prefix.2 hsuffix
        simpa using this
      have htrim : trimmed before.reverse <+: p.body := by
        refine List.IsPrefix.trans ?_ ((List.prefix_append _ _).trans hprefix)
        have hsuffix : before.reverse.reverse.dropWhile isIdle <:+ before.reverse.reverse :=
          List.dropWhile_suffix _
        have := List.reverse_prefix.2 hsuffix
        simpa [trimmed] using this
      have hend : ∀ piece, (trimmed before.reverse).getLast? = some piece →
          isIdle piece = false := by
        intro piece hpiece
        rw [trimmed, List.getLast?_reverse] at hpiece
        have := List.head?_dropWhile_not isIdle before.reverse.reverse
        rw [hpiece] at this
        simpa using this
      obtain ⟨habs, hparts⟩ := parts_front_glue htrim hend
      obtain ⟨part, hpart⟩ : ∃ part, Part.ofPiece? last = some part := by
        cases hof : Part.ofPiece? last with
        | none => rw [ofPiece?_eq_none_iff.1 hof] at hlast; cases hlast
        | some part => exact ⟨part, rfl⟩
      obtain rfl : (⟨p.front ++ glue slash (trimmed before.reverse)⟩ : Path) = q :=
        Option.some.inj h
      refine ⟨habs, part, ?_⟩
      rw [hparts, filterMap_trimmed, parts, ← filterMap_trimmed p.body, trimmed, hdrop]
      simp [hpart]
  · next hrev =>
      refine absurd ?_ hne
      rw [parts, ← filterMap_trimmed, List.reverse_eq_nil_iff.1 hrev]
      rfl

/-- A path with a step in it has a path above it. -/
theorem parent?_isSome {p : Path} (hne : p.parts ≠ []) : ∃ q, p.parent? = some q := by
  rw [parent?]
  split
  · exact ⟨_, rfl⟩
  · next hrev =>
      refine absurd ?_ hne
      rw [parts, ← filterMap_trimmed, List.reverse_eq_nil_iff.1 hrev]
      rfl

/-! ### Replacing the last name -/

theorem EndsIn.fileName? {path : Path} {rooted : Bool} {above : List Part} {name : Name}
    (h : path.EndsIn rooted above name) : path.fileName? = some name := by
  rw [Path.fileName?, h.parts, List.getLast?_concat]

/-- Replacing the last name leaves the steps before it alone. -/
theorem EndsIn.withFileName {path : Path} {rooted : Bool} {above : List Part} {name other : Name}
    (h : path.EndsIn rooted above name) (hother : other.Proper) :
    (path.withFileName other).EndsIn rooted above other := by
  have hne : path.parts ≠ [] := by rw [h.parts]; simp
  obtain ⟨folder, hfolder⟩ := parent?_isSome hne
  obtain ⟨habs, last, hlast⟩ := parts_of_parent? hfolder hne
  have hparts : folder.parts = above := by
    rw [h.parts] at hlast
    exact (List.append_inj' hlast rfl).1.symm
  have hjoin := endsIn_join folder hother
  rw [habs, h.rooted, hparts] at hjoin
  rw [Path.withFileName, h.fileName?, hfolder]
  exact hjoin

end Path

end PageImages
