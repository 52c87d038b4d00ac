import PageImages.Proofs.Json.Pretty
import PageImages.Proofs.Json.Readers
import PageImages.Proofs.Settings
import PageImages.Proofs.Utf8

/-!
**What a settings text means.**

The meaning of a settings text is said by its keys alone: a field has the value of its key, or keeps
its default where the key is left out.  Nothing depends on the order of members, on blanks, on how
strings are spelled or on members with other keys.

Main definitions:

* `Json.Tree.object?` — the members of an object that has none of the known keys twice;
* `Json.valueOf?` — the value of a key among members, or a default;
* `Settings.ofTree?`, `Crop.ofTree?`, `Span.ofTree?` — **the meaning of an object.**

Main results:

* `Settings.parse_written` — **a settings text is parsed as it is meant**;
* `Settings.parse_halfKey` — a key that is no text is refused, even one without a meaning.
-/

set_option autoImplicit false

namespace PageImages

namespace Json

/-! ### Values by their kind -/

/-- A character, if a sign is one. -/
def Sign.char? : Sign → Option Char
  | .char c => some c
  | .half _ => none

/-- The text that signs make, if they are all characters. -/
def textOf? (signs : List Sign) : Option String := (signs.mapM Sign.char?).map String.ofList

namespace Tree

/-- A text. -/
def text? : Tree → Option String
  | .string signs => textOf? signs
  | _ => none

/-- A truth value. -/
def boolean? : Tree → Option Bool
  | .boolean on => some on
  | _ => none

/-- A whole number below a bound, written with digits alone. -/
def below? (bound : Nat) : Tree → Option Nat
  | .number ⟨false, n, [], none⟩ => if n < bound then some n else none
  | _ => none

/-- The members of an object whose keys are texts. -/
def members? : Tree → Option (List (String × Tree))
  | .object members => members.mapM fun member => (textOf? member.1).map (·, member.2)
  | _ => none

/-- How often a key occurs among members. -/
def occurrences (members : List (String × Tree)) (key : String) : Nat :=
  members.countP (·.1 = key)

/-- The members of an object that has none of the known keys twice. -/
def object? (known : List String) (tree : Tree) : Option (List (String × Tree)) :=
  tree.members?.filter fun members => known.all fun key => occurrences members key ≤ 1

end Tree

/-- The value of a key among members, or a default where the key is left out. -/
def valueOf? {α : Type} (value? : Tree → Option α) (members : List (String × Tree)) (key : String)
    (fallback : α) : Option α :=
  match members.lookup key with
  | none => some fallback
  | some tree => value? tree

end Json

open Json

/-! ### Meanings -/

/-- A percentage, which is written as a whole number. -/
def Span.bound? (tree : Tree) : Option Binary64 := (tree.below? UInt64.size).map Binary.ofNat

/-- A part of an axis with the values of members in place of its own. -/
def Span.withMembers? (s : Span) (members : List (String × Tree)) : Option Span := do
  some {
    start := ← valueOf? Span.bound? members "start" s.start
    stop := ← valueOf? Span.bound? members "end" s.stop }

/-- The part of an axis that an object means; where nothing is said, it goes from 0 to 100. -/
def Span.ofTree? (tree : Tree) : Option Span := do
  Span.withMembers? ⟨Binary.ofNat 0, Binary.ofNat 100⟩ (← tree.object? ["start", "end"])

/-- A crop with the values of members in place of its own. -/
def Crop.withMembers? (c : Crop) (members : List (String × Tree)) : Option Crop := do
  some {
    enabled := ← valueOf? Tree.boolean? members "enabled" c.enabled
    horizontal := ← valueOf? Span.ofTree? members "horizontal" c.horizontal
    vertical := ← valueOf? Span.ofTree? members "vertical" c.vertical }

/-- The crop that an object means. -/
def Crop.ofTree? (tree : Tree) : Option Crop := do
  Crop.disabled.withMembers? (← tree.object? ["enabled", "horizontal", "vertical"])

namespace Settings

/-- A path. -/
def path? (tree : Tree) : Option Path := tree.text?.map Path.ofString

/-- A format by one of its names. -/
def format? (tree : Tree) : Option ImageFormat :=
  tree.text?.bind fun name => List.lookup name [("jpg", .jpg), ("jpeg", .jpg), ("png", .png)]

/-- A colour model by its name. -/
def colorspace? (tree : Tree) : Option Colorspace :=
  tree.text?.bind fun name => List.lookup name [("rgb", .rgb), ("gray", .gray)]

/-- The path of a log file; there is none where it is `null` or empty. -/
def logFile? : Tree → Option (Option Path)
  | .null => some none
  | tree => tree.text?.map fun s => if s = "" then none else some (Path.ofString s)

/-- The keys of settings. -/
def keys : List String :=
  ["input_folder", "output_folder", "dpi", "format", "jpg_quality", "colorspace", "overwrite",
    "skip_if_exists", "max_pages_per_pdf", "fail_fast", "log_file", "crop"]

/-- Settings with the values of members in place of their own. -/
def withMembers? (s : Settings) (members : List (String × Tree)) : Option Settings := do
  some {
    inputFolder := ← valueOf? path? members "input_folder" s.inputFolder
    outputFolder := ← valueOf? path? members "output_folder" s.outputFolder
    dpi := ← valueOf? (Tree.below? UInt32.size) members "dpi" s.dpi
    format := ← valueOf? format? members "format" s.format
    quality := ← valueOf? (Tree.below? UInt8.size) members "jpg_quality" s.quality
    colorspace := ← valueOf? colorspace? members "colorspace" s.colorspace
    overwrite := ← valueOf? Tree.boolean? members "overwrite" s.overwrite
    skipIfExists := ← valueOf? Tree.boolean? members "skip_if_exists" s.skipIfExists
    maxPages := ← valueOf? (Tree.below? UInt64.size) members "max_pages_per_pdf" s.maxPages
    failFast := ← valueOf? Tree.boolean? members "fail_fast" s.failFast
    logFile := ← valueOf? logFile? members "log_file" s.logFile
    crop := ← valueOf? Crop.ofTree? members "crop" s.crop }

/-- The settings that an object means: the defaults with the values of its members. -/
def ofTree? (tree : Tree) : Option Settings := do
  default.withMembers? (← tree.object? keys)

end Settings

/-! ### Values are read -/

namespace Json

/-- If each item can be told from its value, so can a list of items. -/
theorem eq_map_of_mapM {α β : Type} {f : α → Option β} {g : β → α}
    (hf : ∀ item value, f item = some value → item = g value) {items : List α} {values : List β}
    (h : items.mapM f = some values) : items = values.map g := by
  rw [Utf8.mapM_eq_some_iff] at h
  induction items generalizing values with
  | nil =>
      rw [List.map_eq_nil_iff.1 h.symm]
      rfl
  | cons item items ih =>
      obtain ⟨value, values, rfl, hvalue, hvalues⟩ := List.map_eq_cons_iff.1 h.symm
      rw [List.map_cons, ← hf item value hvalue.symm, ← ih hvalues.symm]

theorem eq_of_textOf? {signs : List Sign} {s : String} (h : textOf? signs = some s) :
    signs = Json.signs s := by
  obtain ⟨cs, hcs, rfl⟩ := Option.map_eq_some_iff.1 h
  rw [Json.signs, String.toList_ofList]
  refine eq_map_of_mapM (fun sign c hc => ?_) hcs
  cases sign <;> cases hc
  rfl

theorem Tree.eq_of_text? {tree : Tree} {s : String} (h : tree.text? = some s) : tree = .text s := by
  cases tree <;> simp only [Tree.text?, reduceCtorEq] at h
  rw [eq_of_textOf? h, Tree.text]

theorem Tree.eq_of_boolean? {tree : Tree} {on : Bool} (h : tree.boolean? = some on) :
    tree = .boolean on := by
  cases tree <;> simp only [Tree.boolean?, reduceCtorEq, Option.some.injEq] at h
  rw [h]

theorem Tree.eq_of_below? {tree : Tree} {bound n : Nat} (h : tree.below? bound = some n) :
    tree = .natural n ∧ n < bound := by
  unfold Tree.below? at h
  split at h
  · split at h
    · next hn =>
        cases h
        exact ⟨rfl, hn⟩
    · cases h
  · cases h

theorem Tree.eq_of_members? {tree : Tree} {members : List (String × Tree)}
    (h : tree.members? = some members) : tree = .record members := by
  cases tree <;> simp only [Tree.members?, reduceCtorEq] at h
  rw [Tree.record]
  refine congrArg Tree.object (eq_map_of_mapM (fun member value hmember => ?_) h)
  obtain ⟨s, hs, rfl⟩ := Option.map_eq_some_iff.1 hmember
  rw [← eq_of_textOf? hs]

theorem Tree.eq_of_object? {known : List String} {tree : Tree} {members : List (String × Tree)}
    (h : tree.object? known = some members) :
    tree = .record members ∧ ∀ key ∈ known, Tree.occurrences members key ≤ 1 := by
  obtain ⟨hmembers, honce⟩ := Option.filter_eq_some_iff.1 h
  refine ⟨Tree.eq_of_members? hmembers, fun key hkey => ?_⟩
  simpa using List.all_eq_true.1 honce key hkey

/-! ### Records are read -/

section Records

variable {σ α : Type} {value? : Tree → Option α} {members : List (String × Tree)}
  {key k : String} {tree : Tree} {fallback v : α}

theorem valueOf?_nil (h : valueOf? value? [] key fallback = some v) : fallback = v :=
  Option.some.inj h

theorem valueOf?_head (h : valueOf? value? ((key, tree) :: members) key fallback = some v) :
    value? tree = some v := by
  simpa [valueOf?] using h

/-- Behind a member its own key has its value as the default, and any other key is as before. -/
theorem valueOf?_next (hk : key = k → members.lookup k = none)
    (h : valueOf? value? ((k, tree) :: members) key fallback = some v) :
    valueOf? value? members key (if key = k then v else fallback) = some v := by
  by_cases hkey : key = k
  · subst hkey
    rw [if_pos rfl, valueOf?, hk rfl]
  · rw [if_neg hkey]
    have hlookup : ((k, tree) :: members).lookup key = members.lookup key := by
      rw [List.lookup_cons, beq_false_of_ne hkey]
    rwa [valueOf?, hlookup] at h

theorem lookup_cons_eq_none_iff :
    ((k, tree) :: members).lookup key = none ↔ key ≠ k ∧ members.lookup key = none := by
  rw [List.lookup_cons]
  by_cases hkey : key = k
  · simp [hkey]
  · simp [hkey, beq_false_of_ne hkey]

theorem lookup_eq_none_of_occurrences (h : Tree.occurrences members key = 0) :
    members.lookup key = none := by
  simp only [Tree.occurrences, List.countP_eq_zero, decide_eq_true_eq] at h
  rw [List.lookup_eq_none_iff]
  intro member hmember
  exact bne_iff_ne.2 (Ne.symm (h member hmember))

theorem occurrences_cons :
    Tree.occurrences ((k, tree) :: members) key
      = Tree.occurrences members key + if k = key then 1 else 0 := by
  simp [Tree.occurrences, List.countP_cons]

/-- **A record is read from the members of an object, in whatever order they come.**  Here `meant s
members` is what the members make of `s`, and `copy k t s` is `s` with the field of the key `k` as it
is in `t`. -/
theorem takes_of_meant {shape : Shape σ} {meant : σ → List (String × Tree) → Option σ}
    (copy : String → σ → σ → σ) {t : σ} (hlenient : shape.lenient = true)
    (hnil : ∀ {s}, meant s [] = some t → s = t)
    (hnext : ∀ {s k tree members},
      (∀ name ∈ shape.fields.map (·.name), name = k → members.lookup k = none) →
        meant s ((k, tree) :: members) = some t → meant (copy k t s) members = some t)
    (hother : ∀ {s k}, shape.fields.find? (·.name = k) = none → copy k t s = s)
    (hfield : ∀ {s k tree members field}, shape.fields.find? (·.name = k) = some field →
      meant s ((k, tree) :: members) = some t →
        ∃ update, field.read.Reads tree update ∧ update s = copy k t s)
    {members : List (String × Tree)} {seen : List String} {s : σ}
    (honce : ∀ k ∈ shape.fields.map (·.name), Tree.occurrences members k ≤ 1)
    (hseen : ∀ k ∈ seen, members.lookup k = none) (h : meant s members = some t) :
    shape.Takes seen members s t := by
  -- the goal `t` stays; each member brings `s` one field closer to it
  induction members generalizing seen s with
  | nil =>
      rw [hnil h]
      exact .done (by rw [Shape.missing?, if_pos hlenient])
  | cons member members ih =>
      obtain ⟨k, tree⟩ := member
      have honceTail : ∀ k ∈ shape.fields.map (·.name), Tree.occurrences members k ≤ 1 :=
        fun name hname => Nat.le_trans (by rw [occurrences_cons]; omega) (honce name hname)
      have hseenTail : ∀ name ∈ seen, members.lookup name = none :=
        fun name hname => (lookup_cons_eq_none_iff.1 (hseen name hname)).2
      have habsent : k ∈ shape.fields.map (·.name) → members.lookup k = none := by
        intro hk
        have hcount := honce k hk
        rw [occurrences_cons, if_pos rfl] at hcount
        exact lookup_eq_none_of_occurrences (by omega)
      have htail := hnext (fun name hname heq => habsent (heq ▸ hname)) h
      cases hfind : shape.fields.find? (·.name = k) with
      | none =>
          rw [hother hfind] at htail
          exact .other hfind (ih honceTail hseenTail htail)
      | some field =>
          obtain ⟨update, hread, hupdate⟩ := hfield hfind h
          have hname : k ∈ shape.fields.map (·.name) := by
            have heq : field.name = k := by simpa using List.find?_some hfind
            exact List.mem_map.2 ⟨field, List.mem_of_find?_eq_some hfind, heq⟩
          have hfresh : seen.contains k = false := by
            rw [List.contains_eq_mem, decide_eq_false_iff_not]
            exact fun hk => (lookup_cons_eq_none_iff.1 (hseen k hk)).1 rfl
          have hseenNext : ∀ name ∈ k :: seen, members.lookup name = none := by
            intro name hmem
            rcases List.mem_cons.1 hmem with rfl | hmem
            · exact habsent hname
            · exact hseenTail name hmem
          rw [← hupdate] at htail
          exact .field hfind hfresh hread (ih honceTail hseenNext htail)

end Records

end Json

/-! ### Parts of an axis -/

namespace Span

theorem whole_eq : whole = ⟨Binary.ofNat 0, Binary.ofNat 100⟩ := by decide +kernel

theorem withMembers?_eq_some_iff {s t : Span} {members : List (String × Tree)} :
    s.withMembers? members = some t ↔
      valueOf? bound? members "start" s.start = some t.start ∧
        valueOf? bound? members "end" s.stop = some t.stop := by
  simp only [withMembers?, Option.bind_eq_bind, Option.bind_eq_some_iff]
  constructor
  · rintro ⟨_, hstart, _, hstop, ⟨⟩⟩
    exact ⟨hstart, hstop⟩
  · rintro ⟨hstart, hstop⟩
    exact ⟨_, hstart, _, hstop, rfl⟩

/-- A part of an axis with one of its ends taken from another one. -/
def copy (k : String) (t s : Span) : Span where
  start := if "start" = k then t.start else s.start
  stop := if "end" = k then t.stop else s.stop

theorem reads_bound {tree : Tree} {x : Binary64} (h : bound? tree = some x) :
    Json.real.Reads tree x := by
  obtain ⟨n, hn, rfl⟩ := Option.map_eq_some_iff.1 h
  obtain ⟨rfl, hlt⟩ := Tree.eq_of_below? hn
  exact real_reads hlt

theorem reads {tree : Tree} {t : Span} (h : ofTree? tree = some t) :
    (Json.record Settings.spanShape).Reads tree t := by
  obtain ⟨members, hmembers, ht⟩ := Option.bind_eq_some_iff.1 h
  obtain ⟨rfl, honce⟩ := Tree.eq_of_object? hmembers
  rw [← whole_eq] at ht
  refine record_reads (takes_of_meant copy rfl ?_ ?_ ?_ ?_ honce (by simp) ht)
  · intro s hs
    obtain ⟨hstart, hstop⟩ := withMembers?_eq_some_iff.1 hs
    exact (Span.mk.injEq ..).mpr ⟨valueOf?_nil hstart, valueOf?_nil hstop⟩
  · intro s k tree members hk hs
    obtain ⟨hstart, hstop⟩ := withMembers?_eq_some_iff.1 hs
    exact withMembers?_eq_some_iff.2 ⟨valueOf?_next (hk "start" (by decide)) hstart,
      valueOf?_next (hk "end" (by decide)) hstop⟩
  · intro s k hfind
    simp [Settings.spanShape, Settings.field] at hfind
    simp [copy, hfind]
  · intro s k tree members field hfind hs
    obtain ⟨hstart, hstop⟩ := withMembers?_eq_some_iff.1 hs
    have hname : field.name = k := by simpa using List.find?_some hfind
    have hmem := List.mem_of_find?_eq_some hfind
    simp only [Settings.spanShape, List.mem_cons, List.not_mem_nil, or_false] at hmem
    rcases hmem with rfl | rfl
    · cases hname
      exact ⟨_, (reads_bound (valueOf?_head hstart)).map _, rfl⟩
    · cases hname
      exact ⟨_, (reads_bound (valueOf?_head hstop)).map _, rfl⟩

end Span

/-! ### Crops -/

namespace Crop

theorem withMembers?_eq_some_iff {s t : Crop} {members : List (String × Tree)} :
    s.withMembers? members = some t ↔
      valueOf? Tree.boolean? members "enabled" s.enabled = some t.enabled ∧
        valueOf? Span.ofTree? members "horizontal" s.horizontal = some t.horizontal ∧
          valueOf? Span.ofTree? members "vertical" s.vertical = some t.vertical := by
  simp only [withMembers?, Option.bind_eq_bind, Option.bind_eq_some_iff]
  constructor
  · rintro ⟨_, henabled, _, hhorizontal, _, hvertical, ⟨⟩⟩
    exact ⟨henabled, hhorizontal, hvertical⟩
  · rintro ⟨henabled, hhorizontal, hvertical⟩
    exact ⟨_, henabled, _, hhorizontal, _, hvertical, rfl⟩

/-- A crop with one of its fields taken from another one. -/
def copy (k : String) (t s : Crop) : Crop where
  enabled := if "enabled" = k then t.enabled else s.enabled
  horizontal := if "horizontal" = k then t.horizontal else s.horizontal
  vertical := if "vertical" = k then t.vertical else s.vertical

theorem reads {tree : Tree} {t : Crop} (h : ofTree? tree = some t) :
    (Json.record Settings.cropShape).Reads tree t := by
  obtain ⟨members, hmembers, ht⟩ := Option.bind_eq_some_iff.1 h
  obtain ⟨rfl, honce⟩ := Tree.eq_of_object? hmembers
  refine record_reads (takes_of_meant copy rfl ?_ ?_ ?_ ?_ honce (by simp) ht)
  · intro s hs
    obtain ⟨henabled, hhorizontal, hvertical⟩ := withMembers?_eq_some_iff.1 hs
    exact (Crop.mk.injEq ..).mpr
      ⟨valueOf?_nil henabled, valueOf?_nil hhorizontal, valueOf?_nil hvertical⟩
  · intro s k tree members hk hs
    obtain ⟨henabled, hhorizontal, hvertical⟩ := withMembers?_eq_some_iff.1 hs
    exact withMembers?_eq_some_iff.2 ⟨valueOf?_next (hk "enabled" (by decide)) henabled,
      valueOf?_next (hk "horizontal" (by decide)) hhorizontal,
      valueOf?_next (hk "vertical" (by decide)) hvertical⟩
  · intro s k hfind
    simp [Settings.cropShape, Settings.field] at hfind
    simp [copy, hfind]
  · intro s k tree members field hfind hs
    obtain ⟨henabled, hhorizontal, hvertical⟩ := withMembers?_eq_some_iff.1 hs
    have hname : field.name = k := by simpa using List.find?_some hfind
    have hmem := List.mem_of_find?_eq_some hfind
    simp only [Settings.cropShape, List.mem_cons, List.not_mem_nil, or_false] at hmem
    rcases hmem with rfl | rfl | rfl <;> cases hname
    · rw [Tree.eq_of_boolean? (valueOf?_head henabled)]
      exact ⟨_, (boolean_reads t.enabled).map _, rfl⟩
    · exact ⟨_, (Span.reads (valueOf?_head hhorizontal)).map _, rfl⟩
    · exact ⟨_, (Span.reads (valueOf?_head hvertical)).map _, rfl⟩

end Crop

/-! ### Settings -/

namespace Settings

/-- Each field is the value of its key among members, or as it was. -/
structure Meant (s : Settings) (members : List (String × Tree)) (t : Settings) : Prop where
  inputFolder : valueOf? path? members "input_folder" s.inputFolder = some t.inputFolder
  outputFolder : valueOf? path? members "output_folder" s.outputFolder = some t.outputFolder
  dpi : valueOf? (Tree.below? UInt32.size) members "dpi" s.dpi = some t.dpi
  format : valueOf? format? members "format" s.format = some t.format
  quality : valueOf? (Tree.below? UInt8.size) members "jpg_quality" s.quality = some t.quality
  colorspace : valueOf? colorspace? members "colorspace" s.colorspace = some t.colorspace
  overwrite : valueOf? Tree.boolean? members "overwrite" s.overwrite = some t.overwrite
  skipIfExists :
    valueOf? Tree.boolean? members "skip_if_exists" s.skipIfExists = some t.skipIfExists
  maxPages :
    valueOf? (Tree.below? UInt64.size) members "max_pages_per_pdf" s.maxPages = some t.maxPages
  failFast : valueOf? Tree.boolean? members "fail_fast" s.failFast = some t.failFast
  logFile : valueOf? logFile? members "log_file" s.logFile = some t.logFile
  crop : valueOf? Crop.ofTree? members "crop" s.crop = some t.crop

theorem withMembers?_eq_some_iff {s t : Settings} {members : List (String × Tree)} :
    s.withMembers? members = some t ↔ Meant s members t := by
  constructor
  · intro h
    obtain ⟨_, hinputFolder, h⟩ := Option.bind_eq_some_iff.1 h
    obtain ⟨_, houtputFolder, h⟩ := Option.bind_eq_some_iff.1 h
    obtain ⟨_, hdpi, h⟩ := Option.bind_eq_some_iff.1 h
    obtain ⟨_, hformat, h⟩ := Option.bind_eq_some_iff.1 h
    obtain ⟨_, hquality, h⟩ := Option.bind_eq_some_iff.1 h
    obtain ⟨_, hcolorspace, h⟩ := Option.bind_eq_some_iff.1 h
    obtain ⟨_, hoverwrite, h⟩ := Option.bind_eq_some_iff.1 h
    obtain ⟨_, hskipIfExists, h⟩ := Option.bind_eq_some_iff.1 h
    obtain ⟨_, hmaxPages, h⟩ := Option.bind_eq_some_iff.1 h
    obtain ⟨_, hfailFast, h⟩ := Option.bind_eq_some_iff.1 h
    obtain ⟨_, hlogFile, h⟩ := Option.bind_eq_some_iff.1 h
    obtain ⟨_, hcrop, h⟩ := Option.bind_eq_some_iff.1 h
    cases h
    exact ⟨hinputFolder, houtputFolder, hdpi, hformat, hquality, hcolorspace, hoverwrite,
      hskipIfExists, hmaxPages, hfailFast, hlogFile, hcrop⟩
  · intro h
    rw [withMembers?, h.inputFolder, h.outputFolder, h.dpi, h.format, h.quality, h.colorspace,
      h.overwrite, h.skipIfExists, h.maxPages, h.failFast, h.logFile, h.crop]
    rfl

/-- Settings with one of their fields taken from others. -/
def copy (k : String) (t s : Settings) : Settings where
  inputFolder := if "input_folder" = k then t.inputFolder else s.inputFolder
  outputFolder := if "output_folder" = k then t.outputFolder else s.outputFolder
  dpi := if "dpi" = k then t.dpi else s.dpi
  format := if "format" = k then t.format else s.format
  quality := if "jpg_quality" = k then t.quality else s.quality
  colorspace := if "colorspace" = k then t.colorspace else s.colorspace
  overwrite := if "overwrite" = k then t.overwrite else s.overwrite
  skipIfExists := if "skip_if_exists" = k then t.skipIfExists else s.skipIfExists
  maxPages := if "max_pages_per_pdf" = k then t.maxPages else s.maxPages
  failFast := if "fail_fast" = k then t.failFast else s.failFast
  logFile := if "log_file" = k then t.logFile else s.logFile
  crop := if "crop" = k then t.crop else s.crop

theorem Meant.next {s t : Settings} {k : String} {tree : Tree} {members : List (String × Tree)}
    (hk : ∀ name ∈ keys, name = k → members.lookup k = none)
    (h : Meant s ((k, tree) :: members) t) : Meant (copy k t s) members t where
  inputFolder := valueOf?_next (hk _ (by decide)) h.inputFolder
  outputFolder := valueOf?_next (hk _ (by decide)) h.outputFolder
  dpi := valueOf?_next (hk _ (by decide)) h.dpi
  format := valueOf?_next (hk _ (by decide)) h.format
  quality := valueOf?_next (hk _ (by decide)) h.quality
  colorspace := valueOf?_next (hk _ (by decide)) h.colorspace
  overwrite := valueOf?_next (hk _ (by decide)) h.overwrite
  skipIfExists := valueOf?_next (hk _ (by decide)) h.skipIfExists
  maxPages := valueOf?_next (hk _ (by decide)) h.maxPages
  failFast := valueOf?_next (hk _ (by decide)) h.failFast
  logFile := valueOf?_next (hk _ (by decide)) h.logFile
  crop := valueOf?_next (hk _ (by decide)) h.crop

theorem Meant.eq_of_nil {s t : Settings} (h : Meant s [] t) : s = t :=
  (Settings.mk.injEq ..).mpr
    ⟨valueOf?_nil h.inputFolder, valueOf?_nil h.outputFolder, valueOf?_nil h.dpi,
      valueOf?_nil h.format, valueOf?_nil h.quality, valueOf?_nil h.colorspace,
      valueOf?_nil h.overwrite, valueOf?_nil h.skipIfExists, valueOf?_nil h.maxPages,
      valueOf?_nil h.failFast, valueOf?_nil h.logFile, valueOf?_nil h.crop⟩

/-! ### Values of settings -/

theorem reads_path {tree : Tree} {p : Path} (h : path? tree = some p) : Json.path.Reads tree p := by
  obtain ⟨s, hs, rfl⟩ := Option.map_eq_some_iff.1 h
  obtain rfl := Tree.eq_of_text? hs
  exact path_reads s

theorem mem_of_lookup {α : Type} {name : String} {x : α} {table : List (String × α)}
    (h : List.lookup name table = some x) : (name, x) ∈ table := by
  obtain ⟨before, after, rfl, _⟩ := List.lookup_eq_some_iff.1 h
  exact List.mem_append_right _ List.mem_cons_self

theorem reads_format {tree : Tree} {x : ImageFormat} (h : format? tree = some x) :
    formatReader.Reads tree x := by
  obtain ⟨name, hname, hx⟩ := Option.bind_eq_some_iff.1 h
  obtain rfl := Tree.eq_of_text? hname
  have hmem := mem_of_lookup hx
  simp only [List.mem_cons, Prod.mk.injEq, List.not_mem_nil, or_false] at hmem
  refine choice_reads ?_
  rcases hmem with ⟨rfl, rfl⟩ | ⟨rfl, rfl⟩ | ⟨rfl, rfl⟩ <;> rfl

theorem reads_colorspace {tree : Tree} {x : Colorspace} (h : colorspace? tree = some x) :
    colorspaceReader.Reads tree x := by
  obtain ⟨name, hname, hx⟩ := Option.bind_eq_some_iff.1 h
  obtain rfl := Tree.eq_of_text? hname
  have hmem := mem_of_lookup hx
  simp only [List.mem_cons, Prod.mk.injEq, List.not_mem_nil, or_false] at hmem
  refine choice_reads ?_
  rcases hmem with ⟨rfl, rfl⟩ | ⟨rfl, rfl⟩ <;> rfl

/-- Only the empty path has no octets. -/
theorem octets_ofString_eq_nil (s : String) : (Path.ofString s).octets = [] ↔ s = "" := by
  rw [Path.ofString, Utf8.encode, ← String.toList_eq_nil_iff]
  cases s.toList with
  | nil => exact ⟨fun _ => rfl, fun _ => rfl⟩
  | cons c cs => simp [Utf8.encodeChars_cons, Utf8.encodeChar_ne_nil]

theorem namedLogFile_ofString (s : String) :
    namedLogFile (some (Path.ofString s)) = if s = "" then none else some (Path.ofString s) := by
  by_cases hs : s = ""
  · rw [if_pos hs, namedLogFile, Option.filter_some, (octets_ofString_eq_nil s).2 hs]
    rfl
  · have hoctets : (Path.ofString s).octets.isEmpty = false := by
      rw [List.isEmpty_eq_false_iff]
      exact mt (octets_ofString_eq_nil s).1 hs
    rw [if_neg hs, namedLogFile, Option.filter_some, hoctets]
    rfl

theorem reads_logFile {tree : Tree} {p : Option Path} (h : logFile? tree = some p) :
    ∃ q, (Json.optional Json.path).Reads tree q ∧ namedLogFile q = p := by
  unfold logFile? at h
  split at h
  · cases h
    exact ⟨none, optional_reads_null _, rfl⟩
  · obtain ⟨s, hs, rfl⟩ := Option.map_eq_some_iff.1 h
    obtain rfl := Tree.eq_of_text? hs
    exact ⟨_, optional_reads_text (path_reads s), namedLogFile_ofString s⟩

theorem reads_below {tree : Tree} {most n : Nat} (hmost : most ≤ greatestNatural)
    (h : tree.below? (most + 1) = some n) (expected : String) :
    (Json.natural expected most).Reads tree n := by
  obtain ⟨rfl, hn⟩ := Tree.eq_of_below? h
  exact natural_reads (Nat.le_of_lt_succ hn) hmost expected

theorem reads_boolean {tree : Tree} {on : Bool} (h : tree.boolean? = some on) :
    Json.boolean.Reads tree on := by
  obtain rfl := Tree.eq_of_boolean? h
  exact boolean_reads on

/-- The member of a known key gives its field the value that is meant. -/
theorem Meant.reads_field {s t : Settings} {k : String} {tree : Tree}
    {members : List (String × Tree)} (h : Meant s ((k, tree) :: members) t)
    {field : Json.Field Settings} (hfind : shape.fields.find? (·.name = k) = some field) :
    ∃ update, field.read.Reads tree update ∧ update s = copy k t s := by
  have hname : field.name = k := by simpa using List.find?_some hfind
  have hmem := List.mem_of_find?_eq_some hfind
  simp only [shape, List.mem_cons, List.not_mem_nil, or_false] at hmem
  rcases hmem with rfl | rfl | rfl | rfl | rfl | rfl | rfl | rfl | rfl | rfl | rfl | rfl <;>
    cases hname
  · exact ⟨_, (reads_path (valueOf?_head h.inputFolder)).map _, rfl⟩
  · exact ⟨_, (reads_path (valueOf?_head h.outputFolder)).map _, rfl⟩
  · exact ⟨_, (reads_below (by decide) (valueOf?_head h.dpi) _).map _, rfl⟩
  · exact ⟨_, (reads_format (valueOf?_head h.format)).map _, rfl⟩
  · exact ⟨_, (reads_below (by decide) (valueOf?_head h.quality) _).map _, rfl⟩
  · exact ⟨_, (reads_colorspace (valueOf?_head h.colorspace)).map _, rfl⟩
  · exact ⟨_, (reads_boolean (valueOf?_head h.overwrite)).map _, rfl⟩
  · exact ⟨_, (reads_boolean (valueOf?_head h.skipIfExists)).map _, rfl⟩
  · exact ⟨_, (reads_below (by decide) (valueOf?_head h.maxPages) _).map _, rfl⟩
  · exact ⟨_, (reads_boolean (valueOf?_head h.failFast)).map _, rfl⟩
  · obtain ⟨q, hq, hlog⟩ := reads_logFile (valueOf?_head h.logFile)
    exact ⟨_, hq.map _, by rw [hlog]; rfl⟩
  · exact ⟨_, (Crop.reads (valueOf?_head h.crop)).map _, rfl⟩

/-- The member of any other key leaves all fields as they are. -/
theorem copy_of_unknown {k : String} (hfind : shape.fields.find? (·.name = k) = none)
    (s t : Settings) : copy k t s = s := by
  simp [shape, field] at hfind
  simp [copy, hfind]

/-- **Settings are read from every text of an object as it is meant.** -/
theorem reads {tree : Tree} {t : Settings} (h : ofTree? tree = some t) : reader.Reads tree t := by
  obtain ⟨members, hmembers, ht⟩ := Option.bind_eq_some_iff.1 h
  obtain ⟨rfl, honce⟩ := Tree.eq_of_object? hmembers
  refine record_reads (takes_of_meant copy rfl ?_ ?_ ?_ ?_ honce (by simp) ht)
  · intro s hs
    exact (withMembers?_eq_some_iff.1 hs).eq_of_nil
  · intro s k tree members hk hs
    exact withMembers?_eq_some_iff.2 ((withMembers?_eq_some_iff.1 hs).next hk)
  · intro s k hfind
    exact copy_of_unknown hfind s t
  · intro s k tree members field hfind hs
    exact (withMembers?_eq_some_iff.1 hs).reads_field hfind

/-- **A settings text means what its keys say.**  Whatever the order of its members, the blanks
between tokens and the spelling of strings, and whatever members with other keys it has, the text is
parsed as the defaults with the value of each key that is there, and then checked. -/
theorem parse_written {tree : Tree} {s : Settings} {before text after : List Char}
    (hmeans : ofTree? tree = some s) (hbefore : Blank before) (htext : Written tree text)
    (hafter : Blank after) (origin : Path) :
    parse (String.ofList (before ++ (text ++ after))) origin = s.build ∧
      ∀ t, s.build.outcome = .ok t → t = s := by
  have hdecode := decode_written (reads hmeans) hbefore htext hafter
  refine ⟨?_, fun t ht => (valid_of_build ht).2⟩
  rw [parse, decode, hdecode]

end Settings

namespace Sample

/-- A settings text in which a key is spelled by an escape and one member has no meaning. -/
def settingsText : List Char :=
  ("\x7b\"note\":[-1.5E3, \"\\ud83d\"],\"d\\u0070i\" : 150, \"format\":\"jpeg\","
    ++ "\"crop\":\x7b\"vertical\":\x7b\"end\":50\x7d\x7d,\"log_file\":\"\"\x7d").toList

/-- The object that the text writes. -/
def settingsTree : Tree :=
  .record [
    ("note", .list [.number ⟨true, 1, [5], some ⟨true, none, 3, []⟩⟩, .string [.half 0xD83D]]),
    ("dpi", .natural 150),
    ("format", .text "jpeg"),
    ("crop", .record [("vertical", .record [("end", .natural 50)])]),
    ("log_file", .text "")]

/-- The settings that the object means. -/
def meantSettings : Settings :=
  { Settings.default with
    dpi := 150
    crop := { Crop.disabled with vertical := { Span.whole with stop := Binary.ofNat 50 } } }

theorem spelled_dpi : Spelled (signs "dpi") "d\\u0070i".toList := by
  have hunit : HexUnit ['0', '0', '7', '0'] 'p'.toNat := hexUnit_hex (n := 0x70) (by decide)
  exact .plain (by decide) (by decide) (by decide) (.unit (by decide) hunit
    (.plain (by decide) (by decide) (by decide) .nil))

/-- The member without a meaning, in which one half of a surrogate pair stands alone. -/
theorem written_note :
    Written (.list [.number ⟨true, 1, [5], some ⟨true, none, 3, []⟩⟩, .string [.half 0xD83D]])
      "[-1.5E3, \"\\ud83d\"]".toList := by
  have hunit : HexUnit ['d', '8', '3', 'd'] 0xD83D := hexUnit_hex (n := 0xD83D) (by decide)
  have h := Written.list (.next blank_nil blank_nil
    (.number ⟨true, 1, [5], some ⟨true, none, 3, []⟩⟩)
    (.next blank_nil blank_space (.string (.half (by decide) (by decide) hunit .nil))
      (.done blank_nil)))
  exact h.of_eq (by decide +kernel)

theorem written_crop :
    Written (.record [("vertical", .record [("end", .natural 50)])])
      "\x7b\"vertical\":\x7b\"end\":50\x7d\x7d".toList := by
  have hvertical := Written.object (.next blank_nil blank_nil blank_nil blank_nil
    (spelled_flatMap "end") (written_natural 50) (.done blank_nil))
  have h := Written.object (.next blank_nil blank_nil blank_nil blank_nil
    (spelled_flatMap "vertical") hvertical (.done blank_nil))
  exact h.of_eq (by decide +kernel)

theorem written_settings : Written settingsTree settingsText := by
  have h := Written.object
    (.next blank_nil blank_nil blank_nil blank_nil (spelled_flatMap "note") written_note
    (.next blank_nil blank_nil blank_space blank_space spelled_dpi (written_natural 150)
    (.next blank_nil blank_space blank_nil blank_nil (spelled_flatMap "format")
      (written_writeString "jpeg")
    (.next blank_nil blank_nil blank_nil blank_nil (spelled_flatMap "crop") written_crop
    (.next blank_nil blank_nil blank_nil blank_nil (spelled_flatMap "log_file")
      (written_writeString "") (.done blank_nil))))))
  exact h.of_eq (by decide +kernel)

theorem means_settings : Settings.ofTree? settingsTree = some meantSettings := by decide +kernel

end Sample

namespace Settings

/-- The sample is parsed as it is meant. -/
theorem parse_written_sample :
    ofTree? Sample.settingsTree = some Sample.meantSettings ∧ Blank [' '] ∧
      Written Sample.settingsTree Sample.settingsText ∧ Blank [] ∧
      parse (String.ofList ([' '] ++ (Sample.settingsText ++ []))) (Path.ofString "settings.json")
        = Sample.meantSettings.build ∧
      ∀ t, Sample.meantSettings.build.outcome = .ok t → t = Sample.meantSettings :=
  ⟨Sample.means_settings, blank_space, Sample.written_settings, blank_nil,
    parse_written Sample.means_settings blank_space Sample.written_settings blank_nil
      (Path.ofString "settings.json")⟩

/-- The text of an object whose only key is one half of a surrogate pair. -/
def halfKeyText : List Char := "\x7b\"\\udead\":1\x7d".toList

/-- A key has to be a text: one half of a surrogate pair is refused as a key, though a JSON text may
have it and it is none of the keys of settings. -/
theorem parse_halfKey :
    Written (.object [([.half 0xDEAD], .natural 1)]) halfKeyText ∧
      default.build.outcome = .ok default ∧
      (parse (String.ofList halfKeyText) (Path.ofString "settings.json")).outcome
        ≠ .ok default := by
  refine ⟨?_, build_of_valid valid_default, ?_⟩
  · have hunit : HexUnit ['d', 'e', 'a', 'd'] 0xDEAD := hexUnit_hex (n := 0xDEAD) (by decide)
    have h := Written.object (.next blank_nil blank_nil blank_nil blank_nil
      (.half (by decide) (by decide) hunit .nil) (written_natural 1) (.done blank_nil))
    exact h.of_eq (by decide +kernel)
  · intro h
    have hrefused : (decode (String.ofList halfKeyText)).isOk = false := by decide +kernel
    cases hdecode : decode (String.ofList halfKeyText) with
    | ok s =>
        rw [hdecode] at hrefused
        cases hrefused
    | error e =>
        rw [parse, hdecode] at h
        cases h

end Settings

end PageImages
